import Introspect.Dispatch.Layout
import Introspect.Value.Display

/-!
# Closed vocabularies

* `Constness`       filters on whether a name is declared constant;
* `Mutability`      filters on whether a bound value can change;
* `Vocabulary`      the words of a filter or a layout;
* `Vocabulary.read` the member that a word means, or the fault that it means none.
-/

namespace Introspect

inductive Constness where
  | all
  | const
  | nonconst
  deriving DecidableEq, Repr

inductive Mutability where
  | all
  | mutable
  | immutable
  deriving DecidableEq, Repr

structure Vocabulary (α : Type) where
  name : String
  members : List (String × α)

namespace Vocabulary

def read {α : Type} (vocabulary : Vocabulary α) (s : Surroundings) (v : Value) : Except Fault α :=
  match vocabulary.members.find? fun m => v == .str m.1 with
  | some m => .ok m.2
  | none => .error (.notMember (v.display s) vocabulary.name)

def words {α : Type} (vocabulary : Vocabulary α) : List String := vocabulary.members.map Prod.fst

end Vocabulary

def Constness.vocabulary : Vocabulary Constness :=
  ⟨"Constness", [("all", .all), ("const", .const), ("nonconst", .nonconst)]⟩

def Mutability.vocabulary : Vocabulary Mutability :=
  ⟨"Mutability", [("all", .all), ("mutable", .mutable), ("immutable", .immutable)]⟩

def Layout.vocabulary : Vocabulary Layout :=
  ⟨"StorageLayout", [("slots", .slots), ("linked", .linked)]⟩

/-- whether a filter lets a constant or another name pass -/
def Constness.admits : Constness → Bool → Bool
  | .all, _ => true
  | .const, b => b
  | .nonconst, b => !b

/-- whether a filter lets an immutable or another value pass -/
def Mutability.admits : Mutability → Bool → Bool
  | .all, _ => true
  | .immutable, b => b
  | .mutable, b => !b

end Introspect
