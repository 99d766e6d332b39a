import Introspect.Text.Quoted

/-!
# Answers

What an inspection reports: plain data, with records for the things that are no plain data.

* `Answer`  null, truth values, integers, texts, lists and records.
-/

namespace Introspect

inductive Answer where
  | null
  | bool (b : Bool)
  | int (n : Int)
  | text (s : String)
  | list (items : List Answer)
  | record (fields : List (String × Answer))
  deriving Inhabited

namespace Answer

def texts (ss : List String) : Answer := .list (ss.map .text)

/-- a record with a single field -/
def tagged (tag : String) (a : Answer) : Answer := .record [(tag, a)]

/-- an answer that may be missing -/
def ofOption (a : Option Answer) : Answer := a.getD .null

end Answer

end Introspect
