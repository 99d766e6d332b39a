import Introspect.Source.Grammar

/-!
# The grammar of module sources

* `Symbol`        the symbols: expressions by their binding strength, patterns, statements;
* `Shape`         the shapes that are asked of matched trees, such as being a place to assign to;
* `language`      the grammar itself.
-/

namespace Introspect.Source

inductive Symbol where
  -- expressions, from the loosest binding to the tightest
  | starred | starredList | named | starredNamed | yielded
  | expression | disjunction | conjunction | inversion | comparison
  | alternation | exclusive | joint | shifted | sum | product | signed | power | awaited | primary
  | attribute | call | subscript | slice
  | parenthesized | bracketed | braced | texts | formatted | replacement
  | arguments | argument | comprehension | lambda | target | targets
  -- parameters
  | parameters | plainParameter | defaultParameter | typeParameters
  -- patterns
  | patterns | pattern | closedPattern | starPattern | keyPattern | literalPattern | dottedPattern
  -- statements
  | file | statement | block | line | simple | annotated | compound | scope | caseBlock | withItem
  | imported | importedAs
  deriving DecidableEq, Repr

inductive Shape where
  /-- a place to assign to, where sequences may hold a starred place -/
  | place
  /-- a place to delete -/
  | deletable
  /-- a name, attribute or subscript, in parentheses or not -/
  | single
  /-- an attribute or subscript, not in parentheses -/
  | part
  /-- no assignment inside an expression -/
  | unnamed
  deriving DecidableEq, Repr

/-- a tree of the grammar -/
abbrev Syntree := Tree Symbol

namespace Shape

def isStarred : Syntree → Bool
  | .node .starred [_, _] | .node .starredNamed [_, _] => true
  | _ => false

def isOperator : Syntree → Bool
  | .leaf (.op _) => true
  | _ => false

/-- whether the last of some trailers is an attribute or a subscript -/
def endsInPart : List Syntree → Bool
  | [] => false
  | [.node .attribute _] | [.node .subscript _] => true
  | _ :: rest => endsInPart rest

/-- whether a node is a place, given which of its children are: a primary by its last trailer,
brackets by what they hold, anything else through its only child -/
def placeOf (stars : Bool) (s : Symbol) (cs : List (Syntree × Bool)) : Bool :=
  match s, cs with
  | .primary, [x] => x.2
  | .primary, _ :: rest => endsInPart (rest.map Prod.fst)
  | .parenthesized, [_, x, _] => x.2 && !isStarred x.1
  | .parenthesized, cs | .bracketed, cs => cs.all fun c => isOperator c.1 || c.2
  | .starred, [_, x] | .starredNamed, [_, x] => stars && x.2 && !isStarred x.1
  | .comprehension, _ | .yielded, _ => false
  | _, [x] => x.2
  | _, _ => false

/-- whether a node is a name, attribute or subscript, given which of its children are -/
def singleOf (s : Symbol) (cs : List (Syntree × Bool)) : Bool :=
  match s, cs with
  | .primary, [x] => x.2
  | .primary, _ :: rest => endsInPart (rest.map Prod.fst)
  | .parenthesized, [_, x, _] => x.2
  | .parenthesized, _ | .bracketed, _ => false
  | _, [x] => x.2
  | _, _ => false

mutual

/-- a property of trees that holds of the names, and of nodes as their children decide -/
def fromNames (decideNode : Symbol → List (Syntree × Bool) → Bool) : Syntree → Bool
  | .leaf (.word s) => !keywords.contains s
  | .leaf _ => false
  | .node s cs => decideNode s (eachFromNames decideNode cs)
termination_by structural t => t

/-- the same of several trees -/
def eachFromNames (decideNode : Symbol → List (Syntree × Bool) → Bool) :
    List Syntree → List (Syntree × Bool)
  | [] => []
  | t :: ts => (t, fromNames decideNode t) :: eachFromNames decideNode ts
termination_by structural ts => ts

end

/-- whether a tree is a place to assign to, or to delete when nothing starred is allowed -/
def isPlace (stars : Bool) : Syntree → Bool := fromNames (placeOf stars)

/-- whether a tree is a name, attribute or subscript, in parentheses or not -/
def isSingle : Syntree → Bool := fromNames singleOf

/-- whether trees have a shape -/
def holds (r : Shape) (ts : List Syntree) : Bool :=
  match r, ts with
  | .place, [t] => isPlace true t
  | .deletable, [t] => isPlace false t
  | .single, [t] => isSingle t
  | .part, [.node .primary (_ :: rest)] => endsInPart rest
  | .unnamed, [.node .named cs] => cs.length == 1
  | _, _ => false

end Shape

namespace Symbol

open Form

/-- a form of the grammar -/
abbrev Rule := Form Symbol Shape

/-- a symbol as a form -/
def sym (s : Symbol) : Rule := .symbol s

/-- operands of one level between operators -/
def level (operand : Symbol) (operators : List String) : Rule :=
  separated (sym operand) (ops operators)

def comparisons : Rule := firstOf [ops ["==", "!=", "<=", "<", ">=", ">"],
  seqs [.word "not", .word "in"], .word "in", seqs [.word "is", optional (.word "not")]]

/-- what a colon and a default may follow -/
def annotation : Rule := seqs [.op ":", firstOf [sym .starred, sym .expression]]

/-- parameters, the closing token aside.  Plain ones stand before those with a default, and a slash
after some of either; a star and named ones follow. -/
def parameterList (plain defaulted stop : Rule) (annotated : Bool) : Rule :=
  let sep : Rule := firstOf [.op ",", .ahead stop]
  let note (star : Bool) : Rule :=
    if annotated then
      optional (.seq (.op ":") (if star then sym .starred else sym .expression))
    else .empty
  let p : Rule := seqs [plain, .unless (.op "="), sep]
  let d : Rule := seqs [defaulted, sep]
  let either : Rule := firstOf [d, p]
  let slash : Rule := seqs [.op "/", sep]
  let rest : Rule := seqs [.op "**", .name, note false, sep]
  let stars : Rule := firstOf [
    seqs [.op "*", .name, note true, sep, .many either, optional rest],
    seqs [.op "*", .op ",", many1 either, optional rest],
    rest]
  seqs [firstOf [
      seqs [many1 p, slash, .many p, .many d],
      seqs [.many p, many1 d, slash, .many d],
      seqs [.many p, .many d]],
    optional stars, .ahead stop]

/-- the pieces of a comprehension: `for` with its conditions, at least once -/
def comprehensionForm : Rule := many1 (seqs [optional (.word "async"), .word "for", sym .targets,
  .word "in", sym .disjunction, .many (seqs [.word "if", sym .disjunction])])

/-- arguments by name, starred ones among them -/
def laterArguments (first : Rule) : Rule := seqs [first, .many (.seq (.op ",") first)]

/-- the arguments of a call: by position, then by name, then mappings -/
def argumentsForm : Rule :=
  let byName : Rule := seqs [.name, .op "=", sym .expression]
  let star : Rule := seqs [.op "*", sym .expression]
  let position : Rule := firstOf [star, seqs [.unless (.seq .name (.op "=")), sym .named]]
  let named : Rule := firstOf [byName, star]
  let last : Rule := firstOf [byName, seqs [.op "**", sym .expression]]
  let comma (r : Rule) : Rule := .many (.seq (.op ",") r)
  seqs [firstOf [
      seqs [laterArguments position, comma named, comma last],
      seqs [laterArguments named, comma last],
      laterArguments last],
    optional (.op ",")]

/-- a block that follows a colon -/
def body : Rule := .seq (.op ":") (sym .block)

def dotted : Rule := separated .name (.op ".")

def importedNames : Rule := separated (sym .importedAs) (.op ",")

def signedNumber : Rule := .seq (optional (.op "-")) .number

/-- what ends a simple statement -/
def lineStop : Rule := firstOf [.op ";", .mark .newline]

def form : Symbol → Rule
  -- expressions
  | .starred => firstOf [seqs [.op "*", sym .alternation], sym .expression]
  | .starredList => commas (sym .starred)
  | .starredNamed => firstOf [seqs [.op "*", sym .alternation], sym .named]
  | .named => firstOf [
      seqs [.ahead (.seq .name (.op ":=")), .name, .op ":=", sym .expression],
      seqs [sym .expression, .unless (.op ":=")]]
  | .yielded => seqs [.word "yield", firstOf [
      seqs [.word "from", sym .expression], sym .starredList, .empty]]
  | .expression => firstOf [sym .lambda, seqs [sym .disjunction, optional (seqs [
      .word "if", sym .disjunction, .word "else", sym .expression])]]
  | .disjunction => separated (sym .conjunction) (.word "or")
  | .conjunction => separated (sym .inversion) (.word "and")
  | .inversion => firstOf [seqs [.word "not", sym .inversion], sym .comparison]
  | .comparison => separated (sym .alternation) comparisons
  | .alternation => level .exclusive ["|"]
  | .exclusive => level .joint ["^"]
  | .joint => level .shifted ["&"]
  | .shifted => level .sum ["<<", ">>"]
  | .sum => level .product ["+", "-"]
  | .product => level .signed ["*", "/", "//", "%", "@"]
  | .signed => firstOf [.seq (ops ["+", "-", "~"]) (sym .signed), sym .power]
  | .power => seqs [sym .awaited, optional (seqs [.op "**", sym .signed])]
  | .awaited => firstOf [seqs [.word "await", sym .primary], sym .primary]
  | .primary => seqs [
      firstOf [.name, .word "True", .word "False", .word "None", sym .texts, .number,
        sym .parenthesized, sym .bracketed, sym .braced, .op "..."],
      .many (firstOf [sym .attribute, sym .call, sym .subscript])]
  | .attribute => .seq (.op ".") .name
  | .call => seqs [.op "(", firstOf [
      .op ")",
      seqs [sym .named, sym .comprehension, .op ")"],
      seqs [sym .arguments, .op ")"]]]
  | .arguments => argumentsForm
  | .argument => sym .named
  | .subscript => seqs [.op "[", commas (firstOf [sym .slice, seqs [.op "*", sym .alternation]]),
      .op "]"]
  | .slice => firstOf [
      seqs [optional (sym .expression), .op ":", optional (sym .expression),
        optional (seqs [.op ":", optional (sym .expression)])],
      sym .named]
  | .parenthesized => seqs [.op "(", firstOf [
      .op ")",
      seqs [sym .yielded, .op ")"],
      seqs [.ahead (.op "*"), sym .starredNamed, .op ",",
        optional (commas (sym .starredNamed)), .op ")"],
      seqs [sym .named, firstOf [
        .op ")",
        seqs [sym .comprehension, .op ")"],
        seqs [.op ",", optional (commas (sym .starredNamed)), .op ")"]]]]]
  | .bracketed => seqs [.op "[", firstOf [
      .op "]",
      seqs [sym .starredNamed, firstOf [
        seqs [sym .comprehension, .op "]"],
        seqs [.many (.seq (.op ",") (sym .starredNamed)), optional (.op ","), .op "]"]]]]]
  | .braced =>
    let pair : Rule := firstOf [seqs [.op "**", sym .alternation],
      seqs [sym .expression, .op ":", sym .expression]]
    seqs [.op "\x7b", firstOf [
      .op "\x7d",
      seqs [.ahead (.op "**"), commas pair, .op "\x7d"],
      seqs [.ahead (.op "*"), commas (sym .starredNamed), .op "\x7d"],
      seqs [.shaped .unnamed (sym .named), .op ":", sym .expression, firstOf [
        seqs [sym .comprehension, .op "\x7d"],
        seqs [.many (.seq (.op ",") pair), optional (.op ","), .op "\x7d"]]],
      seqs [sym .named, firstOf [
        seqs [sym .comprehension, .op "\x7d"],
        seqs [.many (.seq (.op ",") (sym .starredNamed)), optional (.op ","), .op "\x7d"]]]]]
  | .texts => many1 (firstOf [.text, sym .formatted])
  | .formatted => seqs [.mark .formattedStart,
      .many (firstOf [.mark .formattedPiece, sym .replacement]), .mark .formattedEnd]
  | .replacement => seqs [.op "\x7b", firstOf [sym .yielded, sym .starredList],
      optional (.op "="), optional (.seq (.op "!") .name),
      optional (.seq (.op ":") (.many (firstOf [.mark .formattedPiece, sym .replacement]))),
      .op "\x7d"]
  | .comprehension => comprehensionForm
  | .lambda => seqs [.word "lambda",
      parameterList .name (seqs [.name, .op "=", sym .expression]) (.op ":") false,
      .op ":", sym .expression]
  | .target => firstOf [seqs [.op "*", .shaped .place (sym .primary)],
      .shaped .place (sym .primary)]
  | .targets => commas (sym .target)
  -- parameters
  | .parameters => parameterList (sym .plainParameter) (sym .defaultParameter) (.op ")") true
  | .plainParameter => .seq .name (optional (.seq (.op ":") (sym .expression)))
  | .defaultParameter => seqs [sym .plainParameter, .op "=", sym .expression]
  | .typeParameters => seqs [.op "[", commas (seqs [
      firstOf [seqs [.name, optional (.seq (.op ":") (sym .expression))], .seq (.op "**") .name,
        .seq (.op "*") .name],
      optional (.seq (.op "=") (sym .starred))]), .op "]"]
  -- patterns
  | .patterns => firstOf [
      seqs [firstOf [sym .starPattern, sym .pattern], .op ",",
        optional (commas (firstOf [sym .starPattern, sym .pattern]))],
      sym .pattern]
  | .pattern => seqs [separated (sym .closedPattern) (.op "|"),
      optional (seqs [.word "as", .unless (.word "_"), .name])]
  | .starPattern => .seq (.op "*") .name
  | .literalPattern => firstOf [seqs [signedNumber, optional (.seq (ops ["+", "-"]) .number)],
      sym .texts, .word "None", .word "True", .word "False"]
  | .dottedPattern => seqs [.name, many1 (.seq (.op ".") .name)]
  | .keyPattern => seqs [firstOf [sym .literalPattern, sym .dottedPattern], .op ":", sym .pattern]
  | .closedPattern =>
    let items : Rule := commas (firstOf [sym .starPattern, sym .pattern])
    let keyword : Rule := seqs [.name, .op "=", sym .pattern]
    let later : Rule := .seq keyword (.many (.seq (.op ",") keyword))
    firstOf [
      sym .literalPattern,
      seqs [dotted, .op "(", firstOf [.op ")", seqs [firstOf [
          later,
          seqs [.unless (.seq .name (.op "=")), sym .pattern,
            .many (seqs [.op ",", .unless (.seq .name (.op "=")), sym .pattern]),
            optional (.seq (.op ",") later)]],
        optional (.op ","), .op ")"]]],
      seqs [sym .dottedPattern, .unless (ops [".", "(", "="])],
      seqs [.name, .unless (ops [".", "(", "="])],
      seqs [.op "(", firstOf [
        .op ")",
        seqs [.ahead (.op "*"), sym .starPattern, .op ",", optional items, .op ")"],
        seqs [items, .op ")"]]],
      seqs [.op "[", firstOf [.op "]", seqs [items, .op "]"]]],
      seqs [.op "\x7b", firstOf [
        .op "\x7d",
        seqs [.op "**", .unless (.word "_"), .name, optional (.op ","), .op "\x7d"],
        seqs [separated (sym .keyPattern) (.op ","),
          optional (seqs [.op ",", .op "**", .unless (.word "_"), .name]),
          optional (.op ","), .op "\x7d"]]]]
  -- statements
  | .file => .many (sym .statement)
  | .statement => firstOf [sym .scope, sym .compound, sym .line]
  | .block => firstOf [seqs [.mark .newline, .mark .indent, many1 (sym .statement), .mark .dedent],
      sym .line]
  | .line => seqs [separated (sym .simple) (.op ";"), optional (.op ";"), .mark .newline]
  | .scope => seqs [.many (seqs [.op "@", sym .named, .mark .newline]), firstOf [
      seqs [optional (.word "async"), .word "def", .name, optional (sym .typeParameters),
        .op "(", sym .parameters, .op ")", optional (.seq (.op "->") (sym .expression)), body],
      seqs [.word "class", .name, optional (sym .typeParameters),
        optional (seqs [.op "(", optional (sym .arguments), .op ")"]), body]]]
  | .compound =>
    let otherwise : Rule := optional (.seq (.word "else") body)
    let finish : Rule := .seq (.word "finally") body
    let items (r : Rule) : Rule := separated r (.op ",")
    firstOf [
      seqs [.word "if", sym .named, body, .many (seqs [.word "elif", sym .named, body]), otherwise],
      seqs [.word "while", sym .named, body, otherwise],
      seqs [optional (.word "async"), .word "for", sym .targets, .word "in", sym .starredList, body,
        otherwise],
      seqs [optional (.word "async"), .word "with", firstOf [
        seqs [.op "(", commas (sym .withItem), .op ")", body],
        seqs [items (sym .withItem), body]]],
      seqs [.word "try", body, firstOf [
        finish,
        seqs [firstOf [
            many1 (seqs [.word "except", .op "*", sym .expression,
              optional (.seq (.word "as") .name), body]),
            many1 (seqs [.word "except", optional (seqs [sym .expression,
              optional (.seq (.word "as") .name)]), body])],
          otherwise, optional finish]]],
      seqs [.word "match", firstOf [
          seqs [sym .starredNamed, .op ",", optional (commas (sym .starredNamed))],
          sym .named],
        .op ":", .mark .newline, .mark .indent, many1 (sym .caseBlock), .mark .dedent]]
  | .caseBlock =>
    seqs [.word "case", sym .patterns, optional (.seq (.word "if") (sym .named)), body]
  | .withItem => firstOf [
      seqs [sym .expression, .word "as", sym .target, .ahead (ops [",", ")", ":"])],
      sym .expression]
  | .annotated => seqs [firstOf [seqs [.name, .ahead (.op ":")], .shaped .part (sym .primary)],
      .op ":", sym .expression,
      optional (.seq (.op "=") (firstOf [sym .yielded, sym .starredList]))]
  | .imported => dotted
  | .importedAs => seqs [dotted, optional (.seq (.word "as") .name)]
  | .simple =>
    let value : Rule := firstOf [sym .yielded, sym .starredList]
    let names : Rule := separated .name (.op ",")
    let renamed : Rule := seqs [.name, optional (.seq (.word "as") .name)]
    let aliases : Rule := separated renamed (.op ",")
    firstOf [
      sym .annotated,
      seqs [many1 (.seq (sym .targets) (.op "=")), value, .unless (.op "=")],
      seqs [.shaped .single (sym .primary), ops ["+=", "-=", "*=", "@=", "/=", "%=", "&=", "|=",
        "^=", "<<=", ">>=", "**=", "//="], value],
      seqs [.word "type", .name, optional (sym .typeParameters), .op "=", sym .expression],
      sym .starredList,
      seqs [.word "return", optional (sym .starredList)],
      seqs [.word "import", importedNames],
      seqs [.word "from", firstOf [
          seqs [.many (ops [".", "..."]), dotted],
          many1 (ops [".", "..."])],
        .word "import", firstOf [
          seqs [.op "(", aliases, optional (.op ","), .op ")"],
          seqs [aliases, .unless (.op ",")],
          .op "*"]],
      seqs [.word "raise", optional (seqs [sym .expression,
        optional (.seq (.word "from") (sym .expression))])],
      .word "pass",
      seqs [.word "del", firstOf [
        seqs [.shaped .deletable (sym .primary), .ahead lineStop],
        seqs [commas (.shaped .deletable (sym .primary)), .ahead lineStop]]],
      sym .yielded,
      seqs [.word "assert", sym .expression, optional (.seq (.op ",") (sym .expression))],
      .word "break",
      .word "continue",
      seqs [.word "global", names],
      seqs [.word "nonlocal", names]]

end Symbol

def language : Grammar Symbol Shape := ⟨Symbol.form, Shape.holds⟩

end Introspect.Source
