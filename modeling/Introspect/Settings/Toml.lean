import Introspect.Numeric.Written

/-!
# Configuration files in TOML

* `Toml`          the values of a file: texts, numbers, truth values, moments, arrays and tables;
* `Toml.Limits`   how long whole numbers may be, and how deep brackets may be nested;
* `Toml.Failure`  why a file is not read: it breaks a rule of the format, or exceeds a limit;
* `Toml.parse`    the table of a whole file, or the first failure on the way.

A file is a list of statements: headers `[a.b]`, headers `[[a.b]]` of array elements, and pairs
`a.b = value`.  A name is bound once; marks record which tables were declared and which values are
complete, so that nothing reopens them.
-/

namespace Introspect

inductive Toml where
  | text (s : String)
  | int (n : Int)
  | float (x : Float)
  | bool (b : Bool)
  /-- a date or time -/
  | moment
  | array (items : List Toml)
  | table (entries : List (String × Toml))
  deriving Inhabited

namespace Toml

/-- the characters of a file still to be read -/
abbrev Rest := List Char

/-- the bindings of a table -/
abbrev Entries := List (String × Toml)

/-! ## limits -/

/-- what is open around a value -/
inductive Bracket where
  | array
  | table
  deriving DecidableEq, Repr

structure Limits where
  /-- the most digits of a whole decimal number -/
  digits : Nat
  /-- whether the stack runs out at a value, given the brackets around it and what is left to read -/
  exhausted : List Bracket → Rest → Bool

/-- how many calls are nested for a bracket -/
def Bracket.calls : Bracket → Nat
  | .array => 2
  | .table => 3

def Limits.standard : Limits where
  digits := 4300
  exhausted around _ := 980 < (around.map Bracket.calls).foldr (· + ·) 0

inductive Failure where
  /-- the file breaks a rule of the format -/
  | malformed
  /-- a whole number has too many digits -/
  | longNumber
  /-- the stack runs out -/
  | tooDeep
  deriving DecidableEq, Repr

abbrev Reading := Except Failure

/-- what is not there breaks a rule of the format -/
def required {α : Type} (x : Option α) : Reading α := x.elim (.error .malformed) .ok

/-! ## characters -/

/-- a blank inside a line -/
def isBlank (c : Char) : Bool := c = ' ' || c = '\t'

/-- a control character other than the tab -/
def isControl (c : Char) : Bool := (c.toNat < 32 && c != '\t') || c.toNat = 127

def isBareKey (c : Char) : Bool := c.isAlphanum || c = '-' || c = '_'

/-- the rest after blanks -/
def skipBlanks (cs : Rest) : Rest := cs.dropWhile isBlank

/-- the rest after a comment, if one stands there; it holds no control characters -/
def skipComment (cs : Rest) : Option Rest :=
  match cs with
  | '#' :: r =>
    let body := r.takeWhile (· != '\n')
    if body.any isControl then none else some (r.dropWhile (· != '\n'))
  | _ => some cs

/-- the rest after blanks, line ends and comments; `n` bounds the comments -/
def skipInArray : Nat → Rest → Option Rest
  | 0, cs => some cs
  | n + 1, cs =>
    let r := cs.dropWhile fun c => isBlank c || c = '\n'
    match r with
    | '#' :: _ => (skipComment r).bind (skipInArray n)
    | _ => some r

/-! ## texts -/

/-- the value of exactly `n` hexadecimal digits -/
def hexValue : Nat → Nat → Rest → Option (Nat × Rest)
  | 0, v, cs => some (v, cs)
  | n + 1, v, c :: cs =>
    if c.isDigit then hexValue n (16 * v + (c.toNat - '0'.toNat)) cs
    else
      let l := c.toLower
      if 'a' ≤ l ∧ l ≤ 'f' then hexValue n (16 * v + (l.toNat - 'a'.toNat + 10)) cs else none
  | _ + 1, _, [] => none

/-- the character of a code, halves of pairs excluded -/
def scalar (v : Nat) : Option Char :=
  if v < 0xd800 ∨ (0xe000 ≤ v ∧ v < 0x110000) then some (Char.ofNat v) else none

def simpleEscapes : List (Char × Char) :=
  [('b', '\x08'), ('t', '\t'), ('n', '\n'), ('f', '\x0c'), ('r', '\r'), ('"', '"'), ('\\', '\\')]

/-- a character after a backslash -/
def escape (c : Char) (r : Rest) : Option (Char × Rest) :=
  match simpleEscapes.lookup c with
  | some d => some (d, r)
  | none =>
    let width := if c = 'u' then 4 else if c = 'U' then 8 else 0
    if width = 0 then none
    else do
      let (v, r) ← hexValue width 0 r
      return (← scalar v, r)

/-- the rest of a line that a backslash continues: blanks up to the next text -/
def continued (cs : Rest) : Option Rest :=
  match cs.dropWhile isBlank with
  | '\n' :: r => some (r.dropWhile fun c => isBlank c || c = '\n')
  | _ => none

/-- up to two further quotes that belong to a text over several lines -/
def closingQuotes (quote : Char) (r : Rest) : List Char × Rest :=
  match r with
  | a :: b :: r' =>
    if a = quote then if b = quote then ([a, b], r') else ([a], b :: r') else ([], r)
  | [a] => if a = quote then ([a], []) else ([], r)
  | [] => ([], [])

/-- whether three quotes stand at the start -/
def atTriple (quote : Char) : Rest → Bool
  | a :: b :: c :: _ => a = quote && b = quote && c = quote
  | _ => false

/-- the characters of a text with escapes; every step shortens it, so `n` bounds the steps -/
def basicText (multiline : Bool) : Nat → Rest → Option (List Char × Rest)
  | 0, _ => none
  | n + 1, cs =>
    match cs with
    | [] => none
    | c :: r =>
      if c = '"' then
        if !multiline then some ([], r)
        else if atTriple '"' cs then some (closingQuotes '"' (r.drop 2))
        else (basicText multiline n r).map fun (t, r) => (c :: t, r)
      else if c = '\\' then
        match if multiline then continued r else none with
        | some r => basicText multiline n r
        | none =>
          match r with
          | [] => none
          | d :: r => do
            let (e, r) ← escape d r
            let (t, r) ← basicText multiline n r
            return (e :: t, r)
      else if isControl c && !(multiline && c = '\n') then none
      else (basicText multiline n r).map fun (t, r) => (c :: t, r)

/-- the characters of a text without escapes -/
def literalText (multiline : Bool) : Rest → Option (List Char × Rest)
  | [] => none
  | c :: r =>
    if c = '\'' ∧ (!multiline ∨ atTriple '\'' (c :: r)) then
      some (if multiline then closingQuotes '\'' (r.drop 2) else ([], r))
    else if isControl c && !(multiline && c = '\n') then none
    else (literalText multiline r).map fun (t, r) => (c :: t, r)

/-- the rest after the line end that may follow the opening quotes -/
def afterOpening (r : Rest) : Rest :=
  match r with
  | '\n' :: r => r
  | r => r

/-- a text between quotes of either kind, on one line or over several -/
def quotedText (multilineToo : Bool) (cs : Rest) : Option (List Char × Rest) :=
  match cs with
  | '"' :: r =>
    if multilineToo && atTriple '"' cs then
      let r := afterOpening (r.drop 2)
      basicText true (r.length + 1) r
    else basicText false (r.length + 1) r
  | '\'' :: r =>
    if multilineToo && atTriple '\'' cs then literalText true (afterOpening (r.drop 2))
    else literalText false r
  | _ => none

/-! ## keys -/

def keyPart (cs : Rest) : Option (String × Rest) :=
  match cs with
  | [] => none
  | c :: _ =>
    if isBareKey c then some (String.ofList (cs.takeWhile isBareKey), cs.dropWhile isBareKey)
    else (quotedText false cs).map fun (t, r) => (String.ofList t, r)

/-- the parts of a key between dots; `n` bounds their number -/
def key : Nat → Rest → Option (List String × Rest)
  | 0, _ => none
  | n + 1, cs => do
    let (part, r) ← keyPart cs
    match skipBlanks r with
    | '.' :: r => do
      let (parts, r) ← key n (skipBlanks r)
      return (part :: parts, r)
    | r => return ([part], r)

/-! ## numbers and moments -/

/-- digits with single underscores between them, at least one digit -/
def digits (isDigit : Char → Bool) : Rest → List Char × Rest
  | '_' :: c :: r =>
    if isDigit c then let (ds, r) := digits isDigit r; (c :: ds, r) else ([], '_' :: c :: r)
  | c :: r => if isDigit c then let (ds, r) := digits isDigit r; (c :: ds, r) else ([], c :: r)
  | [] => ([], [])

/-- digits that do not start with an underscore -/
def digits1 (isDigit : Char → Bool) (cs : Rest) : Option (List Char × Rest) :=
  match cs with
  | c :: _ => if isDigit c then some (digits isDigit cs) else none
  | [] => none

def baseValue (base : Nat) (ds : List Char) : Nat :=
  ds.foldl (fun v c => base * v +
    (if c.isDigit then c.toNat - '0'.toNat else c.toLower.toNat - 'a'.toNat + 10)) 0

/-- a whole number in another base -/
def based (cs : Rest) : Option (Toml × Rest) :=
  match cs with
  | '0' :: b :: r => do
    let (base, isDigit) ←
      if b = 'x' then some (16, fun c : Char =>
        c.isDigit || ('a' ≤ c.toLower && c.toLower ≤ 'f' && c.toNat < 128))
      else if b = 'o' then some (8, fun c => '0' ≤ c && c ≤ '7')
      else if b = 'b' then some (2, fun c => c = '0' || c = '1')
      else none
    let (ds, r) ← digits1 isDigit r
    return (.int (baseValue base ds), r)
  | _ => none

/-- the fraction of a number, if one stands there -/
def fraction (cs : Rest) : List Char × Rest :=
  match cs with
  | '.' :: r =>
    match digits1 Char.isDigit r with
    | some (ds, r) => ('.' :: ds, r)
    | none => ([], cs)
  | _ => ([], cs)

/-- the power of ten of a number, if one stands there -/
def exponent (cs : Rest) : List Char × Rest :=
  match cs with
  | e :: r =>
    if e = 'e' ∨ e = 'E' then
      let (sign, r') := match r with
        | '+' :: r => (['+'], r)
        | '-' :: r => (['-'], r)
        | r => ([], r)
      match digits1 Char.isDigit r' with
      | some (ds, r) => (e :: sign ++ ds, r)
      | none => ([], cs)
    else ([], cs)
  | [] => ([], [])

/-- a decimal number without leading zeros: a real one if it has a fraction or a power of ten, and
otherwise a whole one, whose digits are limited -/
def decimalNumber (l : Limits) (cs : Rest) : Option (Reading (Toml × Rest)) := do
  let (negative, r) := Numeric.takeSign cs
  let (whole, r) ←
    match r with
    | '0' :: r => some (['0'], r)
    | r => digits1 Char.isDigit r
  let (part, r) := fraction r
  let (power, r) := exponent r
  if part.isEmpty && power.isEmpty then
    if l.digits < whole.length then return .error .longNumber
    let n : Int := Numeric.digitsValue whole
    return .ok (.int (if negative then -n else n), r)
  else
    let w ← Numeric.Written.ofChars? (whole ++ part ++ power)
    return .ok (.float (if negative then -w.toFloat else w.toFloat), r)

def specialNumber (cs : Rest) : Option (Toml × Rest) :=
  let (_, r) := Numeric.takeSign cs
  if r.take 3 = "inf".toList ∨ r.take 3 = "nan".toList then some (.float (0.0 / 0.0), r.drop 3)
  else none

/-- the number of `n` digits -/
def fixedDigits (n : Nat) (cs : Rest) : Option (Nat × Rest) :=
  let ds := cs.take n
  if ds.length = n ∧ ds.all Char.isDigit then some (Numeric.digitsValue ds, cs.drop n) else none

/-- one given character -/
def expect (c : Char) : Rest → Option Rest
  | d :: r => if d = c then some r else none
  | [] => none

def timeOfDay (cs : Rest) : Option Rest := do
  let (hour, r) ← fixedDigits 2 cs
  let (minute, r) ← fixedDigits 2 (← expect ':' r)
  let (second, r) ← fixedDigits 2 (← expect ':' r)
  if 23 < hour ∨ 59 < minute ∨ 59 < second then none
  else
    match r with
    | '.' :: d :: r' => if d.isDigit then some (r'.dropWhile Char.isDigit) else some r
    | _ => some r

/-- an offset from universal time, if one stands there -/
def offset (cs : Rest) : Rest :=
  match cs with
  | 'Z' :: r | 'z' :: r => r
  | s :: r =>
    let zone : Option Rest := do
      if s != '+' && s != '-' then none
      let (hour, r) ← fixedDigits 2 r
      let (minute, r) ← fixedDigits 2 (← expect ':' r)
      if 23 < hour ∨ 59 < minute then none else some r
    zone.getD cs
  | [] => []

/-- the number of days of a month -/
def daysOf (year month : Nat) : Nat :=
  if month = 2 then if year % 4 = 0 ∧ (year % 100 ≠ 0 ∨ year % 400 = 0) then 29 else 28
  else if [4, 6, 9, 11].contains month then 30 else 31

/-- a date, with a time of day or without: whether it is in the calendar, and the rest -/
def dateTime (cs : Rest) : Option (Bool × Rest) := do
  let (year, r) ← fixedDigits 4 cs
  let (month, r) ← fixedDigits 2 (← expect '-' r)
  let (day, r) ← fixedDigits 2 (← expect '-' r)
  if month = 0 ∨ 12 < month ∨ day = 0 ∨ 31 < day then none
  else
    let valid := 0 < year && day ≤ daysOf year month
    match r with
    | t :: r' =>
      if t = 'T' ∨ t = 't' ∨ t = ' ' then
        match timeOfDay r' with
        | some r => some (valid, offset r)
        | none => some (valid, r)
      else some (valid, r)
    | [] => some (valid, [])

/-- a moment or a number -/
def scalarValue (l : Limits) (cs : Rest) : Reading (Toml × Rest) :=
  match dateTime cs with
  | some (valid, r) => if valid then .ok (.moment, r) else .error .malformed
  | none =>
    match timeOfDay cs, based cs, decimalNumber l cs with
    | some r, _, _ => .ok (.moment, r)
    | _, some number, _ => .ok number
    | _, _, some number => number
    | _, _, _ => required (specialNumber cs)

/-! ## tables -/

/-- what a mark says of a path -/
inductive Mark where
  /-- the table was declared -/
  | declared
  /-- the value is complete, and all below it -/
  | complete
  deriving DecidableEq

abbrev Marks := List (List String × Mark)

/-- whether a path carries a mark; completeness extends to all below -/
def Marks.has (ms : Marks) (path : List String) (mark : Mark) : Bool :=
  ms.any fun m => m.2 == mark &&
    (m.1 == path || (mark == .complete && !m.1.isEmpty && m.1.isPrefixOf path))

/-- the marks without those of a path and below it -/
def Marks.clear (ms : Marks) (path : List String) : Marks := ms.filter fun m =>
  !path.isPrefixOf m.1

/-- a binding anew or at the end -/
def put (k : String) (v : Toml) : Entries → Entries
  | [] => [(k, v)]
  | (k', v') :: es => if k' = k then (k, v) :: es else (k', v') :: put k v es

/-- the table at a path changed; missing tables are made, and the last element of an array stands
for the array where arrays may be entered -/
def within (intoArrays : Bool) : List String → (Entries → Option Entries) → Entries →
    Option Entries
  | [], change, es => change es
  | k :: path, change, es =>
    match es.lookup k with
    | none => (within intoArrays path change []).map fun inner => es ++ [(k, .table inner)]
    | some (.table inner) =>
      (within intoArrays path change inner).map fun inner => put k (.table inner) es
    | some (.array items) =>
      match intoArrays, items.getLast? with
      | true, some (.table inner) =>
        (within intoArrays path change inner).map fun inner =>
          put k (.array (items.dropLast ++ [.table inner])) es
      | _, _ => none
    | some _ => none

def bindNew (k : String) (v : Toml) (es : Entries) : Option Entries :=
  if (es.lookup k).isSome then none else some (es ++ [(k, v)])

/-- a new element of an array of tables -/
def appendTable (k : String) (es : Entries) : Option Entries :=
  match es.lookup k with
  | none => some (es ++ [(k, .array [.table []])])
  | some (.array items) => some (put k (.array (items ++ [.table []])) es)
  | some _ => none

def isCompound : Toml → Bool
  | .array _ | .table _ => true
  | _ => false

/-! ## values -/

mutual

/-- a value, given the brackets around it; every step shortens what is left, so `n` bounds them -/
def value (l : Limits) : Nat → List Bracket → Rest → Reading (Toml × Rest)
  | 0, _, _ => .error .malformed
  | n + 1, around, cs =>
    if l.exhausted around cs then .error .tooDeep
    else
      match cs with
      | [] => .error .malformed
      | c :: r =>
        if c = '"' ∨ c = '\'' then
          required ((quotedText true cs).map fun (t, r) => (.text (String.ofList t), r))
        else if c = '[' then do
          let (vs, r) ← items l n (.array :: around) (← required (skipInArray r.length r))
          return (.array vs, r)
        else if c = '\x7b' then
          match skipBlanks r with
          | '\x7d' :: r => .ok (.table [], r)
          | r => do
            let (es, r) ← inline l n (.table :: around) [] [] r
            return (.table es, r)
        else if cs.take 4 = "true".toList then .ok (.bool true, cs.drop 4)
        else if cs.take 5 = "false".toList then .ok (.bool false, cs.drop 5)
        else scalarValue l cs

/-- the items of an array, up to its end -/
def items (l : Limits) : Nat → List Bracket → Rest → Reading (List Toml × Rest)
  | 0, _, _ => .error .malformed
  | n + 1, around, cs =>
    match cs with
    | ']' :: r => .ok ([], r)
    | cs => do
      let (v, r) ← value l n around cs
      match ← required (skipInArray r.length r) with
      | ']' :: r => return ([v], r)
      | ',' :: r => do
        let (vs, r) ← items l n around (← required (skipInArray r.length r))
        return (v :: vs, r)
      | _ => .error .malformed

/-- the pairs of a table on one line, up to its end -/
def inline (l : Limits) : Nat → List Bracket → Marks → Entries → Rest → Reading (Entries × Rest)
  | 0, _, _, _, _ => .error .malformed
  | n + 1, around, marks, es, cs => do
    let (path, v, r) ← pair l n around cs
    if marks.has path .complete then .error .malformed
    else
      let es ← required (within false path.dropLast (bindNew (path.getLastD "") v) es)
      match skipBlanks r with
      | '\x7d' :: r => return (es, r)
      | ',' :: r =>
        let marks := if v.isCompound then (path, .complete) :: marks else marks
        inline l n around marks es (skipBlanks r)
      | _ => .error .malformed

def pair (l : Limits) : Nat → List Bracket → Rest → Reading (List String × Toml × Rest)
  | 0, _, _ => .error .malformed
  | n + 1, around, cs => do
    let (path, r) ← required (key (cs.length + 1) cs)
    let r ← required (expect '=' (skipBlanks r))
    let (v, r) ← value l n around (skipBlanks r)
    return (path, v, r)

end

/-! ## files -/

/-- a file that has been read in part -/
structure Document where
  entries : Entries := []
  marks : Marks := []
  /-- marks that hold from the next header on -/
  pending : Marks := []
  /-- the path of the current table -/
  header : List String := []

/-- the initial parts of a path, the empty one and the path itself left out -/
def properInits (path : List String) : List (List String) :=
  (List.range (path.length - 1)).map fun i => path.take (i + 1)

/-- a pair of the current table -/
def Document.addPair (d : Document) (path : List String) (v : Toml) : Option Document :=
  let tables := (properInits path).map (d.header ++ ·)
  if tables.any fun t => d.marks.has t .declared then none
  else
    let parent := d.header ++ path.dropLast
    if d.marks.has parent .complete then none
    else
      (within true parent (bindNew (path.getLastD "") v) d.entries).map fun entries =>
        { d with
          entries
          pending := d.pending ++ tables.map (·, .declared)
          marks := if v.isCompound then (d.header ++ path, .complete) :: d.marks else d.marks }

/-- the marks that were pending hold -/
def Document.settle (d : Document) : Document :=
  { d with marks := d.pending ++ d.marks, pending := [] }

def Document.openTable (d : Document) (path : List String) : Option Document :=
  if d.marks.has path .declared || d.marks.has path .complete then none
  else
    (within true path some d.entries).map fun entries =>
      { d with entries, marks := (path, .declared) :: d.marks, header := path }

/-- a new element of an array of tables becomes the current table -/
def Document.openElement (d : Document) (path : List String) : Option Document :=
  if d.marks.has path .complete then none
  else
    (within true path.dropLast (appendTable (path.getLastD "")) d.entries).map fun entries =>
      { d with entries, marks := (path, .declared) :: d.marks.clear path, header := path }

/-- a header, after its first bracket -/
def Document.readHeader (d : Document) (cs : Rest) : Option (Document × Rest) :=
  match cs with
  | '[' :: r => do
    let (path, r) ← key (r.length + 1) (skipBlanks r)
    let d ← d.settle.openElement path
    let r ← expect ']' (skipBlanks r)
    return (d, ← expect ']' r)
  | r => do
    let (path, r) ← key (r.length + 1) (skipBlanks r)
    let d ← d.settle.openTable path
    return (d, ← expect ']' (skipBlanks r))

def statement (l : Limits) (d : Document) (cs : Rest) : Reading (Document × Rest) :=
  match cs with
  | '[' :: r => required (d.readHeader r)
  | cs => do
    let (path, v, r) ← pair l (2 * cs.length + 2) [] cs
    return (← required (d.addPair path v), skipBlanks r)

/-- the statements of a file; each is on a line of its own -/
def statements (l : Limits) : Nat → Document → Rest → Reading Document
  | 0, _, _ => .error .malformed
  | n + 1, d, cs =>
    match skipBlanks cs with
    | [] => .ok d
    | c :: r =>
      if c = '\n' then statements l n d r
      else do
        let (d, r) ← if c = '#' then .ok (d, c :: r) else statement l d (c :: r)
        match ← required (skipComment (skipBlanks r)) with
        | [] => .ok d
        | '\n' :: r => statements l n d r
        | _ => .error .malformed

/-- line ends of two characters become one -/
def normalize : List Char → List Char
  | '\r' :: '\n' :: r => '\n' :: normalize r
  | c :: r => c :: normalize r
  | [] => []

def parse (l : Limits) (text : String) : Reading Entries :=
  let cs := normalize text.toList
  (statements l (cs.length + 1) {} cs).map Document.entries

end Toml

end Introspect
