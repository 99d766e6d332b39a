import Introspect.Console.PictureNames
import Introspect.Text.Blank

/-!
# Pictures by name

A name between two colons, without blanks, stands for a picture when it is the short name of one, in
letters of either case; `-text` or `-emoji` after the name asks for a plain or a coloured picture.
Names that mean nothing stay as they are, with both of their colons.

* `Picture`        a picture, which holds no character with a role in markup;
* `picture?`       the picture of a short name;
* `namedPicture?`  the picture that a text between colons stands for;
* `showPictures`   a text with its pictures.
-/

namespace Introspect.Console

open Text

/-- the characters of pictures: they can be shown, and have no role in markup -/
def isPictorial (c : Char) : Bool := c != '[' && c != '\\' && 32 ≤ c.toNat

structure Picture where
  shape : List Char
  pictorial : ∀ c ∈ shape, isPictorial c = true

def Picture.ofWord? (word : String) : Option Picture :=
  if h : word.toList.all isPictorial = true then some ⟨word.toList, List.all_eq_true.mp h⟩
  else none

/-- the pictures of a list of names, each followed by its picture -/
def picturePairs : List String → List (String × Picture)
  | name :: word :: rest =>
    ((Picture.ofWord? word).map fun p => (name, p)).toList ++ picturePairs rest
  | _ => []

def picture? (name : String) : Option Picture :=
  (picturePairs (wordsOf pictureWords.toList)).lookup name

/-- the small form of a letter, for all letters whose small form occurs in a short name -/
def smallLetter (c : Char) : Char :=
  if c.toNat = 0x212a then 'k'
  else if c.toNat = 0x212b then 'å'
  else if 0xc0 ≤ c.toNat ∧ c.toNat ≤ 0xde ∧ c ≠ '×' then Char.ofNat (c.toNat + 0x20)
  else c.toLower

/-- asks for a plain picture -/
def plainMark : Char := '\ufe0e'

/-- asks for a coloured picture -/
def colouredMark : Char := '\ufe0f'

def beforeEnding? (ending : String) (cs : List Char) : Option (List Char) :=
  if ending.toList.isSuffixOf cs then some (cs.take (cs.length - ending.length)) else none

def splitEnding (cs : List Char) : List Char × List Char :=
  match beforeEnding? "-text" cs, beforeEnding? "-emoji" cs with
  | some name, _ => (name, [plainMark])
  | none, some name => (name, [colouredMark])
  | none, none => (cs, [])

def namedPicture? (cs : List Char) : Option (List Char) :=
  let (name, mark) := splitEnding cs
  (picture? (String.ofList (name.map smallLetter))).map fun p => p.shape ++ mark

/-- what is shown for a text between colons -/
def shownName (cs : List Char) : List Char := (namedPicture? cs).getD (':' :: cs ++ [':'])

/-- a text with its pictures; `opened` holds the characters after a colon that may open a name,
backwards -/
def showPicturesFrom : Option (List Char) → List Char → List Char
  | none, [] => []
  | some opened, [] => ':' :: opened.reverse
  | none, c :: cs =>
    if c = ':' then showPicturesFrom (some []) cs else c :: showPicturesFrom none cs
  | some opened, c :: cs =>
    if c = ':' then shownName opened.reverse ++ showPicturesFrom none cs
    else if isBlank c then ':' :: opened.reverse ++ c :: showPicturesFrom none cs
    else showPicturesFrom (some (c :: opened)) cs

def showPictures (cs : List Char) : List Char := showPicturesFrom none cs

theorem showPictures_of_not_mem {cs : List Char} (h : ':' ∉ cs) : showPictures cs = cs := by
  unfold showPictures
  induction cs with
  | nil => rfl
  | cons c cs ih =>
    obtain ⟨hc, hcs⟩ := not_or.mp (mt List.mem_cons.mpr h)
    simp [showPicturesFrom, Ne.symm hc, ih hcs]

end Introspect.Console
