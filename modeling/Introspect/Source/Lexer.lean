import Introspect.Source.Token
import Introspect.Text.Identifier

/-!
# Cutting a source text into tokens

* `takeNumber`   the longest number at the start of a text;
* `takeText`     the body of a text up to its closing quotes;
* `LexState`     the open blocks, brackets and formatted texts;
* `tokens?`      the tokens of a source text, or nothing when it cannot be cut.
-/

namespace Introspect.Source

open Introspect.Text (isNameStart isNamePart)

/-! ## numbers -/

/-- digits with single underscores between or before them, and the rest; nothing when an underscore
is not followed by a digit -/
def takeDigits (isDigit : Char → Bool) : List Char → Option (List Char × List Char)
  | '_' :: c :: r =>
    if isDigit c then (takeDigits isDigit r).map fun (ds, r) => (c :: ds, r) else none
  | c :: r =>
    if isDigit c then (takeDigits isDigit r).map fun (ds, r) => (c :: ds, r)
    else if c = '_' then none
    else some ([], c :: r)
  | [] => some ([], [])

/-- one or more digits, possibly after an underscore -/
def takeDigits1 (isDigit : Char → Bool) (cs : List Char) : Option (List Char × List Char) :=
  match takeDigits isDigit cs with
  | some ([], _) => none
  | r => r

/-- a power of ten, if a complete one stands there -/
def takeExponent (cs : List Char) : Option (List Char × List Char) :=
  match cs with
  | e :: r =>
    if e = 'e' ∨ e = 'E' then
      match r with
      | s :: d :: _ =>
        if (s = '+' ∨ s = '-') ∧ d.isDigit then
          (takeDigits Char.isDigit (r.drop 1)).map fun (ds, r) => (e :: s :: ds, r)
        else if s.isDigit then (takeDigits Char.isDigit r).map fun (ds, r) => (e :: ds, r)
        else some ([], cs)
      | [d] => if d.isDigit then some ([e, d], []) else some ([], cs)
      | [] => some ([], cs)
    else some ([], cs)
  | [] => some ([], [])

/-- the mark of an imaginary number, if it stands there -/
def takeImaginary : List Char → List Char × List Char
  | c :: r => if c = 'j' ∨ c = 'J' then ([c], r) else ([], c :: r)
  | [] => ([], [])

/-- what may follow the whole digits: a fraction, a power of ten, the imaginary mark -/
def takeFraction (whole : List Char) (cs : List Char) :
    Option (List Char × List Char × Bool) := do
  let (part, r) ←
    match cs with
    | '.' :: '_' :: r => some (['.'], '_' :: r)
    | '.' :: r => (takeDigits Char.isDigit r).map fun (ds, r) => ('.' :: ds, r)
    | r => some ([], r)
  let (power, r) ← takeExponent r
  let (mark, r) := takeImaginary r
  let tail := part ++ power ++ mark
  return (whole ++ tail, r, !tail.isEmpty)

/-- a number in another base, after its mark -/
def takeBased (isDigit : Char → Bool) (start : List Char) (cs : List Char) :
    Option (List Char × List Char) := do
  let (ds, r) ← takeDigits1 isDigit cs
  if (r.head?.map Char.isDigit).getD false then none else return (start ++ ds, r)

/-- whether a character is a hexadecimal digit -/
def isHexDigit (c : Char) : Bool :=
  c.isDigit || ('a' ≤ c && c ≤ 'f') || ('A' ≤ c && c ≤ 'F')

def takeNumber (cs : List Char) : Option (List Char × List Char) :=
  match cs with
  | '0' :: c :: r =>
    if c = 'x' ∨ c = 'X' then takeBased isHexDigit ['0', c] r
    else if c = 'o' ∨ c = 'O' then takeBased (fun d => '0' ≤ d && d ≤ '7') ['0', c] r
    else if c = 'b' ∨ c = 'B' then takeBased (fun d => d = '0' || d = '1') ['0', c] r
    else do
      let (ds, r) ← takeDigits Char.isDigit (c :: r)
      let (number, r, isReal) ← takeFraction ('0' :: ds) r
      if isReal || ds.all (· = '0') then return (number, r) else none
  | _ => do
    let (ds, r) ← takeDigits Char.isDigit cs
    let (number, r, _) ← takeFraction ds r
    return (number, r)

/-! ## texts -/

/-- the quotes that open a text: one or three, and whether there are three -/
def openingQuotes : List Char → Option (Char × Bool × List Char)
  | a :: b :: c :: r =>
    if a = '"' ∨ a = '\'' then
      if b = a ∧ c = a then some (a, true, r) else some (a, false, b :: c :: r)
    else none
  | a :: r => if a = '"' ∨ a = '\'' then some (a, false, r) else none
  | [] => none

/-- whether the closing quotes stand at the start -/
def closes (quote : Char) (triple : Bool) : List Char → Bool
  | a :: b :: c :: _ => if triple then a = quote && b = quote && c = quote else a = quote
  | a :: _ => !triple && a = quote
  | [] => false

/-- whether a character ends a line -/
def isLineEnd (c : Char) : Bool := c = '\n' || c = '\r'

def takeText (quote : Char) (triple : Bool) : List Char → Option (List Char × List Char)
  | [] => none
  | c :: r =>
    if closes quote triple (c :: r) then some ([], if triple then r.drop 2 else r)
    else if c = '\\' then
      match r with
      | [] => none
      | '\r' :: '\n' :: r => (takeText quote triple r).map fun (b, r) => ('\\' :: '\n' :: b, r)
      | d :: r => (takeText quote triple r).map fun (b, r) => ('\\' :: d :: b, r)
    else if isLineEnd c && !triple then none
    else (takeText quote triple r).map fun (b, r) => (c :: b, r)

/-! ## formatted texts -/

/-- an open formatted text: its quotes, and the depth of brackets inside its current expression -/
structure Frame where
  quote : Char
  triple : Bool
  raw : Bool
  /-- the depth of brackets at which the current expression started, if one is open -/
  inside : Option Nat
  /-- how many expressions are open whose format is being read -/
  formats : List Nat

/-- a literal piece of a formatted text: what ends it, and the rest from there on -/
def takePiece (f : Frame) : List Char → Option (List Char)
  | [] => none
  | c :: r =>
    let format := !f.formats.isEmpty
    if closes f.quote f.triple (c :: r) then if format then none else some (c :: r)
    else if c = '\x7b' then
      match r with
      | '\x7b' :: r' => if format then some (c :: r) else takePiece f r'
      | _ => some (c :: r)
    else if c = '\x7d' then
      if format then some (c :: r)
      else
        match r with
        | '\x7d' :: r' => takePiece f r'
        | _ => none
    else if c = '\\' && !f.raw then
      match r with
      | [] => none
      | d :: r' =>
        if d = '\x7b' ∨ d = '\x7d' then takePiece f (d :: r')
        else if d = 'N' && r'.head? == some '\x7b' && !format then takePiece f (r'.drop 1)
        else takePiece f r'
    else if isLineEnd c && !f.triple then none
    else takePiece f r
termination_by cs => cs.length
decreasing_by all_goals (simp only [List.length_cons, List.length_drop]; omega)

/-! ## lines and blocks -/

structure LexState where
  blocks : List (Nat × Nat) := [(0, 0)]
  depth : Nat := 0
  frames : List Frame := []
  lineStart : Bool := true
  /-- whether the current line has a token -/
  busy : Bool := false

/-- the indentation of a line by two measures, tabs to the next eighth column or one column, and the
rest -/
def indentation (column other : Nat) : List Char → Nat × Nat × List Char
  | ' ' :: r => indentation (column + 1) (other + 1) r
  | '\t' :: r => indentation ((column / 8 + 1) * 8) (other + 1) r
  | '\x0c' :: r => indentation 0 0 r
  | r => (column, other, r)

/-- the number of blocks that a line of the given indentation leaves, and those it stays in -/
def leaveBlocks (column : Nat) : List (Nat × Nat) → Nat × List (Nat × Nat)
  | b :: bs =>
    if column < b.1 then let (n, rest) := leaveBlocks column bs; (n + 1, rest) else (0, b :: bs)
  | [] => (0, [])

/-- the tokens that the indentation of a line makes, and the blocks from there on -/
def blockTokens (column other : Nat) (blocks : List (Nat × Nat)) :
    Option (List Token × List (Nat × Nat)) :=
  match blocks with
  | [] => none
  | b :: _ =>
    if column = b.1 then if other = b.2 then some ([], blocks) else none
    else if b.1 < column then
      if b.2 < other then some ([.indent], (column, other) :: blocks) else none
    else
      let (n, rest) := leaveBlocks column blocks
      match rest with
      | [] => none
      | r :: _ =>
        if r = (column, other) then some (List.replicate n .dedent, rest) else none

def takeOperator (cs : List Char) : Option (String × List Char) :=
  let long := String.ofList (cs.take 3)
  let pair := String.ofList (cs.take 2)
  if longOperators.contains long then some (long, cs.drop 3)
  else if pairOperators.contains pair then some (pair, cs.drop 2)
  else
    match cs with
    | c :: r => if singleOperators.contains c then some (String.singleton c, r) else none
    | [] => none

def afterLineEnd : List Char → List Char
  | '\r' :: '\n' :: r => r
  | _ :: r => r
  | [] => []

/-- the state after an operator, as far as brackets are concerned -/
def LexState.bracket (s : LexState) (op : String) : LexState :=
  if op = "(" ∨ op = "[" ∨ op = "\x7b" then { s with depth := s.depth + 1 }
  else if op = ")" ∨ op = "]" ∨ op = "\x7d" then { s with depth := s.depth - 1 }
  else s

/-- one step through an open formatted text that is between its expressions -/
def literalStep (s : LexState) (f : Frame) (outer : List Frame) (cs : List Char) :
    Option (List Token × LexState × List Char) :=
  match takePiece f cs with
  | none => none
  | some rest =>
    let piece : List Token := if rest.length < cs.length then [.formattedPiece] else []
    match rest, f.formats with
    | '\x7b' :: r, _ =>
      some (piece ++ [.op "\x7b"],
        { s with frames := { f with inside := some s.depth } :: outer }, r)
    | '\x7d' :: r, base :: formats =>
      some (piece ++ [.op "\x7d"],
        { s with depth := base
                 frames := { f with inside := none, formats } :: outer }, r)
    | r, [] =>
      some (piece ++ [.formattedEnd], { s with frames := outer },
        r.drop (if f.triple then 3 else 1))
    | _, _ => none

/-- the tokens of the rest of a source text; every step shortens the text or its open line -/
def scan : Nat → LexState → List Char → Option (List Token)
  | 0, _, _ => none
  | n + 1, s, cs =>
    match s.frames with
    | { inside := none, .. } :: _ =>
      match s.frames with
      | f :: outer => do
        let (ts, s, r) ← literalStep s f outer cs
        return ts ++ (← scan n s r)
      | [] => none
    | _ =>
      if s.lineStart && s.depth == 0 && s.frames.isEmpty then
        let (column, other, r) := indentation 0 0 cs
        match r with
        | [] => scan n { s with lineStart := false } []
        | c :: r' =>
          if isLineEnd c then scan n s (afterLineEnd (c :: r'))
          else if c = '#' then scan n s (afterLineEnd (r'.dropWhile fun d => !isLineEnd d))
          else do
            let (ts, blocks) ← blockTokens column other s.blocks
            return ts ++ (← scan n { s with blocks, lineStart := false } (c :: r'))
      else
        match cs with
        | [] =>
          if s.depth == 0 && s.frames.isEmpty then
            some ((if s.busy then [.newline] else [])
              ++ List.replicate (s.blocks.length - 1) .dedent)
          else none
        | c :: r =>
          let frameBase := (s.frames.head?.bind fun f => f.inside)
          if c = ' ' ∨ c = '\t' ∨ c = '\x0c' then scan n s r
          else if c = '#' then scan n s (r.dropWhile fun d => !isLineEnd d)
          else if isLineEnd c then
            let r := afterLineEnd (c :: r)
            if 0 < s.depth ∨ !s.frames.isEmpty then scan n s r
            else do
              let rest ← scan n { s with lineStart := true, busy := false } r
              return if s.busy then .newline :: rest else rest
          else if c = '\\' then
            match r with
            | d :: r' =>
              if isLineEnd d then
                match afterLineEnd (d :: r') with
                | [] => none
                | r'' => scan n s r''
              else none
            | [] => none
          else
            let s := { s with busy := true }
            match takeWord (c :: r) with
            | some (.inl t, r) => do return t :: (← scan n s r)
            | some (.inr f, r) => do
              return .formattedStart :: (← scan n { s with frames := f :: s.frames } r)
            | none =>
              if frameBase == some s.depth && (c = ':' || c = '\x7d' || c = '!') then
                match s.frames with
                | f :: outer =>
                  if c = '\x7d' then do
                    return .op "\x7d" ::
                      (← scan n { s with frames := { f with inside := none } :: outer } r)
                  else if c = ':' then do
                    let f := { f with inside := none, formats := s.depth :: f.formats }
                    return .op ":" :: (← scan n { s with frames := f :: outer } r)
                  else if r.head? == some '=' then do
                    return .op "!=" :: (← scan n s (r.drop 1))
                  else do return .op "!" :: (← scan n s r)
                | [] => none
              else
                match takeOperator (c :: r) with
                | some (op, r) => do return .op op :: (← scan n (s.bracket op) r)
                | none => none
where
  /-- a word, number or plain text, or the opening of a formatted text -/
  takeWord (cs : List Char) : Option ((Token ⊕ Frame) × List Char) :=
    match cs with
    | [] => none
    | c :: r =>
      if c.isDigit || (c = '.' && (r.head?.map Char.isDigit).getD false) then
        (takeNumber cs).map fun (ds, r) => (.inl (.number (String.ofList ds)), r)
      else
        let letters := cs.takeWhile isNamePart
        let rest := cs.dropWhile isNamePart
        let lower := letters.map Char.toLower
        match openingQuotes rest with
        | some (quote, triple, r) =>
          if plainLetters.contains lower then
            (takeText quote triple r).map fun (body, r) => (.inl (.text lower body), r)
          else if formattedLetters.contains lower then
            some (.inr ⟨quote, triple, lower.contains 'r', none, []⟩, r)
          else if letters.isEmpty || !isNameStart c then none
          else some (.inl (.word (String.ofList letters)), rest)
        | none =>
          if letters.isEmpty || !isNameStart c then none
          else some (.inl (.word (String.ofList letters)), rest)

def tokens? (source : String) : Option (List Token) :=
  let cs := source.toList
  let cs := if cs.head? == some '\ufeff' then cs.drop 1 else cs
  if cs.contains '\x00' then none else scan (3 * cs.length + 3) {} cs

end Introspect.Source
