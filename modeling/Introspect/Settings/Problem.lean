/-!
# What can be wrong with a setting

* `Setting`   the four settings, in the order in which they are checked;
* `Mismatch`  the ways in which a given value fails to be one;
* `Problem`   a mismatch together with the place where it was found.
-/

namespace Introspect

inductive Setting where
  | internalPrefix
  | includeFoundational
  | includeImported
  | foundationalModules
  deriving DecidableEq, Repr

def Setting.key : Setting → String
  | .internalPrefix => "internal_prefix"
  | .includeFoundational => "include_foundational"
  | .includeImported => "include_imported"
  | .foundationalModules => "foundational_modules"

/-- all settings, in the order in which they are checked -/
def Setting.all : List Setting :=
  [.internalPrefix, .includeFoundational, .includeImported, .foundationalModules]

inductive Mismatch where
  | notText
  | notTruth
  | unclearTruth
  | notList
  | emptyPrefix
  deriving DecidableEq, Repr

def Mismatch.tag : Mismatch → String
  | .notText => "string_type"
  | .notTruth => "bool_type"
  | .unclearTruth => "bool_parsing"
  | .notList => "list_type"
  | .emptyPrefix => "value_error"

/-- the sentence that explains a mismatch -/
def Mismatch.message : Mismatch → String
  | .notText => "Input should be a valid string"
  | .notTruth => "Input should be a valid boolean"
  | .unclearTruth => "Input should be a valid boolean, unable to interpret input"
  | .notList => "Input should be a valid list"
  | .emptyPrefix => "Value error, internal_prefix must not be empty"

structure Problem where
  setting : Setting
  item : Option Nat := none
  mismatch : Mismatch
  deriving DecidableEq, Repr

end Introspect
