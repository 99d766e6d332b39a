import Introspect.Console.Pictures
import Introspect.Console.Styles
import Introspect.Fault

/-!
# Markup

A tag is `[` followed by a small letter or one of `#`, `/`, `@`, and by anything but `[` up to the
next `]`.  A tag leaves no text.  Before a tag, two backslashes stand for one, and a single one
makes the tag plain text.  Names of pictures between colons are shown as pictures.

* `Piece`          a stretch of plain text, or the inside of a tag;
* `pieces`         the pieces of a text;
* `Dialect.plainOf`  the text that is shown; a closing tag has to close something.
-/

namespace Introspect.Markup

inductive Piece where
  | text (cs : List Char)
  | tag (cs : List Char)
  deriving DecidableEq, Repr

def startsTag (c : Char) : Bool := ('a' ≤ c && c ≤ 'z') || c = '#' || c = '/' || c = '@'

/-- the inside of a tag whose bracket was just read, and what follows its end -/
def tagInside (cs : List Char) : Option (List Char × List Char) :=
  match cs with
  | [] => none
  | c :: r =>
    if startsTag c then
      match r.dropWhile fun d => d != '[' && d != ']' with
      | ']' :: rest => some (c :: r.takeWhile fun d => d != '[' && d != ']', rest)
      | _ => none
    else none

/-- a stretch of text, unless it is empty -/
def textPiece (cs : List Char) : List Piece := if cs.isEmpty then [] else [.text cs]

/-- the pieces from a tag with `slashes` backslashes before it -/
def tagPieces (slashes : Nat) (inside : List Char) : List Piece :=
  textPiece (List.replicate (slashes / 2) '\\')
    ++ (if slashes % 2 = 1 then [.text ('[' :: inside ++ [']'])] else [.tag inside])

/-- the pieces of a text, `plain` being read already, backwards; `n` bounds the steps -/
def piecesWithin : Nat → List Char → List Char → List Piece
  | 0, plain, cs => textPiece (plain.reverse ++ cs)
  | _ + 1, plain, [] => textPiece plain.reverse
  | n + 1, plain, c :: r =>
    match if c = '[' then tagInside r else none with
    | none => piecesWithin n (c :: plain) r
    | some (inside, rest) =>
      let slashes := plain.takeWhile (· = '\\')
      textPiece (plain.drop slashes.length).reverse ++ tagPieces slashes.length inside
        ++ piecesWithin n [] rest

def pieces (cs : List Char) : List Piece := piecesWithin cs.length [] cs

/-- brackets after a backslash, without the backslash -/
def unescape : List Char → List Char
  | '\\' :: '[' :: r => '[' :: unescape r
  | c :: r => c :: unescape r
  | [] => []

/-- characters that move the cursor and are never shown -/
def isCursorControl (c : Char) : Bool := [7, 8, 11, 12, 13].contains c.toNat

def shownChars (cs : List Char) : List Char :=
  (Console.showPictures (unescape cs)).filter fun c => !isCursorControl c

/-! ## showing -/

/-- an open tag: its usual name, and what stands behind the sign of equality -/
structure OpenTag where
  name : String
  parameters : List Char := []

/-- the usual name of a style -/
def Dialect.nameOf (d : Dialect) (cs : List Char) : Except Fault String :=
  match d.styleName cs with
  | some name => .ok name
  | none => .error (.badMarkup .style (String.ofList cs))

/-- an open tag is closed; only then the call of a handler is read -/
def Dialect.close (d : Dialect) (t : OpenTag) : Except Fault Unit :=
  if t.name.toList.head? = some '@' ∧ t.parameters ≠ [] ∧ d.readsHandler t.parameters = false then
    .error (.badMarkup .handler (String.ofList t.parameters))
  else .ok ()

/-- the tags that stay open after a tag -/
def Dialect.afterTag (d : Dialect) (opened : List OpenTag) (inside : List Char) :
    Except Fault (List OpenTag) :=
  let name := inside.takeWhile (· != '=')
  let fault : Except Fault (List OpenTag) := .error (.badMarkup .closing (String.ofList inside))
  match name with
  | '/' :: closing =>
    let closing := Text.trimChars closing
    if closing.isEmpty then
      match opened with
      | [] => fault
      | t :: rest => do d.close t; return rest
    else do
      let wanted ← d.nameOf closing
      match opened.find? (·.name == wanted) with
      | none => fault
      | some t => do d.close t; return opened.eraseP (·.name == wanted)
  | name => do return ⟨← d.nameOf name, inside.drop (name.length + 1)⟩ :: opened

def Dialect.shownPieces (d : Dialect) : List OpenTag → List Piece → Except Fault (List Char)
  | _, [] => .ok []
  | opened, .text cs :: rest => do return shownChars cs ++ (← d.shownPieces opened rest)
  | opened, .tag inside :: rest => do d.shownPieces (← d.afterTag opened inside) rest

def Dialect.plainOf (d : Dialect) (text : String) : Except Fault (List Char) :=
  d.shownPieces [] (pieces text.toList)

end Introspect.Markup
