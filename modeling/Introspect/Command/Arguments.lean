import Introspect.Text.Quoted

/-!
# Reading command lines

A command line is read from left to right.  Options start with a dash; a long one may be shortened
as long as it stays unambiguous, and its value may follow `=`.  After `--` nothing is an option.

* `OptionSpec`, `ParserSpec`  the options of a parser, and the argument that it wants;
* `Stop`                      why reading ends early: help, the version, or a mistake;
* `Parsed`                    what was given;
* `ParserSpec.read`           reads the arguments of one parser.
-/

namespace Introspect.Command

/-- what an option does -/
inductive OptionKind where
  | help
  | version
  /-- switched on by being there -/
  | flag
  /-- takes a value, one of the choices if there are any -/
  | value (choices : List String)
  deriving DecidableEq, Repr

structure OptionSpec where
  words : List String
  kind : OptionKind

structure ParserSpec where
  program : String
  options : List OptionSpec
  /-- the name of the argument -/
  argument : String
  /-- whether everything after the argument belongs to it -/
  takesRest : Bool := false

inductive Stop where
  | help
  | version
  | usage (program message : String)

structure Parsed where
  options : List (String × String) := []
  argument : Option (List String) := none
  extras : List String := []

/-- what a word is -/
inductive Mark where
  | argument
  | separator
  /-- an option, as written, with the value after `=` if there is one; or an unknown option -/
  | option (o : Option (OptionSpec × String × Option String))

namespace OptionSpec

/-- an option in messages -/
def label (o : OptionSpec) : String := "/".intercalate o.words

/-- the word under which the value of an option is kept -/
def key (o : OptionSpec) : String := o.words.getLastD ""

end OptionSpec

namespace ParserSpec

def mistake {α : Type} (p : ParserSpec) (name message : String) : Except Stop α :=
  .error (.usage p.program ("argument " ++ name ++ ": " ++ message))

def optionWords (p : ParserSpec) : List (String × OptionSpec) :=
  p.options.flatMap fun o => o.words.map fun w => (w, o)

/-- a text before the first `=`, and after it if there is one -/
def splitValue (word : String) : String × Option String :=
  let cs := word.toList
  let head := String.ofList (cs.takeWhile (· != '='))
  match cs.dropWhile (· != '=') with
  | [] => (head, none)
  | _ :: value => (head, some (String.ofList value))

/-- what follows the letter of an option in the same word: its value if it takes one, or else
further letters, which the option goes before -/
def joinedValue (o : OptionSpec) (rest : List Char) : Option String :=
  match o.kind, rest with
  | .value _, _ | _, '-' :: _ => some (String.ofList rest)
  | _, _ => none

/-- the options that a word may stand for, each with the value after it -/
def candidates (p : ParserSpec) (word : String) : List (String × OptionSpec × Option String) :=
  match word.toList with
  | '-' :: '-' :: _ =>
    let (head, value) := splitValue word
    (p.optionWords.filter fun e => head.toList.isPrefixOf e.1.toList).map fun e =>
      (e.1, e.2, value)
  | '-' :: c :: rest =>
    p.optionWords.filterMap fun e =>
      if e.1 = String.ofList ['-', c] then some (e.1, e.2, joinedValue e.2 rest)
      else if word.toList.isPrefixOf e.1.toList then some (e.1, e.2, none)
      else none
  | _ => []

def isNegativeNumber (word : String) : Bool :=
  match word.toList with
  | '-' :: cs =>
    match cs.dropWhile Char.isDigit with
    | [] => !cs.isEmpty
    | '.' :: ds => !ds.isEmpty && ds.all Char.isDigit
    | _ => false
  | _ => false

/-- what a word before `--` is -/
def markOf (p : ParserSpec) (word : String) : Except Stop Mark :=
  let cs := word.toList
  if cs.head? != some '-' || cs.length = 1 then .ok .argument
  else
    match p.optionWords.lookup word with
    | some o => .ok (.option (some (o, word, none)))
    | none =>
      let (head, value) := splitValue word
      let exact := if value.isSome then p.optionWords.lookup head else none
      match exact with
      | some o => .ok (.option (some (o, head, value)))
      | none =>
        match p.candidates word with
        | [(w, o, v)] => .ok (.option (some (o, w, v)))
        | _ :: _ :: _ =>
          .error (.usage p.program ("ambiguous option: " ++ word ++ " could match "
            ++ ", ".intercalate ((p.candidates word).map Prod.fst)))
        | [] =>
          .ok (if isNegativeNumber word || cs.contains ' ' then .argument else .option none)

/-- the words with what they are; after `--` all are arguments -/
def marks (p : ParserSpec) : List String → Except Stop (List (String × Mark))
  | [] => .ok []
  | word :: rest =>
    if word = "--" then .ok ((word, .separator) :: rest.map fun w => (w, .argument))
    else do
      let m ← p.markOf word
      return (word, m) :: (← p.marks rest)

/-- the argument at the start of words, if it stands there, and the words after it -/
def takeArgument (p : ParserSpec) (words : List (String × Mark)) :
    Option (List String × List (String × Mark)) :=
  match words with
  | (w, .argument) :: rest =>
    if p.takesRest then some (w :: rest.map Prod.fst, [])
    else
      match rest with
      | (_, .separator) :: rest => some ([w], rest)
      | rest => some ([w], rest)
  | (s, .separator) :: (w, .argument) :: rest =>
    if p.takesRest then some (s :: w :: rest.map Prod.fst, []) else some ([w], rest)
  | _ => none

/-- whether a word is marked as an option -/
def isOption (e : String × Mark) : Bool :=
  match e.2 with
  | .option _ => true
  | _ => false

def optionValue (p : ParserSpec) (o : OptionSpec) (choices : List String) (value : String) :
    Except Stop (String × String) :=
  if choices.isEmpty || choices.contains value then .ok (o.key, value)
  else p.mistake o.label ("invalid choice: " ++ Text.quoted value ++ " (choose from "
    ++ ", ".intercalate (choices.map Text.quoted) ++ ")")

/-- the words from the left; every round takes at least one, so `n` bounds the rounds -/
def readWords (p : ParserSpec) : Nat → Parsed → List (String × Mark) → Except Stop Parsed
  | 0, parsed, words => .ok { parsed with extras := parsed.extras ++ words.map Prod.fst }
  | n + 1, parsed, words =>
    match words with
    | [] => .ok parsed
    | (_, .option none) :: rest =>
      readWords p n { parsed with extras := parsed.extras ++ (words.take 1).map Prod.fst } rest
    | (_, .option (some (o, _, explicit))) :: rest =>
      match o.kind, explicit with
      | .value choices, some v => do
        let kept ← p.optionValue o choices v
        readWords p n { parsed with options := kept :: parsed.options } rest
      | .value choices, none =>
        match rest with
        | (v, .argument) :: rest => do
          let kept ← p.optionValue o choices v
          readWords p n { parsed with options := kept :: parsed.options } rest
        | _ => p.mistake o.label "expected one argument"
      | _, some v => p.mistake o.label ("ignored explicit argument " ++ Text.quoted v)
      | .help, none => .error .help
      | .version, none => .error .version
      | .flag, none =>
        readWords p n { parsed with options := (o.key, "") :: parsed.options } rest
    | words =>
      match if parsed.argument.isNone then p.takeArgument words else none with
      | some (taken, rest) => readWords p n { parsed with argument := some taken } rest
      | none =>
        let skipped := words.takeWhile fun e => !isOption e
        readWords p n { parsed with extras := parsed.extras ++ skipped.map Prod.fst }
          (words.drop skipped.length)

def read (p : ParserSpec) (words : List String) : Except Stop Parsed := do
  let marked ← p.marks words
  let parsed ← p.readWords (2 * words.length + 1) {} marked
  if parsed.argument.isNone then
    .error (.usage p.program ("the following arguments are required: " ++ p.argument))
  else return parsed

end ParserSpec

namespace Parsed

/-- whether an option was given -/
def has (p : Parsed) (key : String) : Bool := (p.options.lookup key).isSome

/-- the value that was given last for an option -/
def value? (p : Parsed) (key : String) : Option String := p.options.lookup key

end Parsed

end Introspect.Command
