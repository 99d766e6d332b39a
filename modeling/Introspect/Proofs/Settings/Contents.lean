import Introspect.Proofs.Acting
import Introspect.Proofs.Hierarchy.Growth
import Introspect.Settings.Load

/-!
# What a configuration file holds

Settings stand in the table `tool.looking_glass` of a file.  Bytes that are no text, a text that
exceeds a limit of the reader before anything in it breaks the format, and anything but a table at
that place end the loading with a fault of the runtime; a text that breaks the format counts as an
empty file.

* `Toml.listed`                what a list made of a value holds;
* `Contents`, `Contents.of`    what a file holds for an inspection;
* `Contents.eq_of_sameSort`    the sort of contents that are no settings, decided;
* `Contents.eq_of_hasTexts`    settings that are texts, decided;
* `finds_contents`             what is found for each sort of contents;
* `Settings.load_eq`           what loading comes to for each sort of contents;
* `Settings.merged_table`      a table merges with explicit arguments when its packages form a list;
* `Settings.load_ends`         how loading ends, for all bytes.
-/

namespace Introspect

open Toml (Entries)

theorem Hierarchy.base_mro_date : base.mro .date = [.date, .object] :=
  ((extends_base 60).mro .date (by decide +kernel)).trans (by decide +kernel)

/-- the classes of dates are no data in any hierarchy over the base -/
theorem Hierarchy.Extends.mro_date {h : Hierarchy} (hext : Extends base h) :
    h.mro .date = [.date, .object] := by
  have hdate : ClassId.date.index < base.size :=
    Nat.lt_of_lt_of_le (by decide +kernel) (extends_base 60).size
  exact (hext.mro .date hdate).trans base_mro_date

namespace Toml

/-- the table under a name of a table, empty when it is not there; nothing when something else
stands there -/
def tableUnder (name : String) (es : Entries) : Option Entries :=
  match es.lookup name with
  | none => some []
  | some (.table inner) => some inner
  | some _ => none

/-- what a list made of a value holds: the items of an array, the characters of a text, the names
of a table -/
def listed : Toml → Option (List Toml)
  | .array items => some items
  | .text s => some (s.toList.map fun c => .text (String.singleton c))
  | .table es => some (es.map fun e => .text e.1)
  | .int _ | .float _ | .bool _ | .moment => none

theorem lookup_toEntries (name : String) (es : Entries) :
    Value.lookup (.str name) (toEntries es) = (es.lookup name).map toValue := by
  induction es with
  | nil => rfl
  | cons e es ih =>
    have hkey : ((Value.str e.1) == Value.str name) = (e.1 == name) := rfl
    unfold Value.lookup at ih ⊢
    rw [toEntries, List.find?_cons, hkey, List.lookup_cons, BEq.comm]
    cases name == e.1 with
    | true => rfl
    | false => exact ih

theorem toValues_eq_map (ts : List Toml) : toValues ts = ts.map toValue := by
  induction ts with
  | nil => rfl
  | cons t ts ih => rw [toValues, ih, List.map_cons]

theorem map_fst_toEntries (es : Entries) :
    (toEntries es).map Prod.fst = (es.map fun e => text e.1).map toValue := by
  induction es with
  | nil => rfl
  | cons e es ih =>
    rw [toEntries, List.map_cons, ih]
    rfl

/-- only arrays, texts and tables can be iterated -/
theorem items_toValue {h : Hierarchy} (hext : Hierarchy.Extends Hierarchy.base h) (t : Toml) :
    t.toValue.items h = match t.listed with
      | some ts => .ok (ts.map toValue)
      | none => .error (.notIterable (t.toValue.className h)) := by
  cases t with
  | text s =>
    refine congrArg Except.ok ?_
    rw [List.map_map]
    rfl
  | array items => exact congrArg Except.ok (toValues_eq_map items)
  | table es => exact congrArg Except.ok (map_fst_toEntries es)
  | moment =>
    have hcore : (moment.toValue).core h = .instanceOf .date 0 := by
      rw [toValue, Value.core, hext.mro_date]
      rfl
    unfold Value.items
    rw [hcore]
    rfl
  | int _ | float _ | bool _ => rfl

end Toml

/-! ## The table of settings -/

/-- what a configuration file holds for an inspection -/
inductive Contents where
  /-- bytes that are no text -/
  | noText
  /-- a text that breaks the format -/
  | noToml
  /-- a text with a whole number that is too long -/
  | longNumber
  /-- a text with brackets that are nested too deeply -/
  | tooDeep
  /-- something else stands in place of the table of settings or of the table around it -/
  | misplaced
  /-- a table of settings, empty when there is none -/
  | settings (entries : Entries)

namespace Contents

/-- the contents of a file; of all that breaks the format or exceeds a limit, the first counts -/
def ofBytes (l : Toml.Limits) (bytes : List UInt8) : Contents :=
  match String.fromUTF8? (ByteArray.mk bytes.toArray) with
  | none => .noText
  | some text =>
    match Toml.parse l text with
    | .error .malformed => .noToml
    | .error .longNumber => .longNumber
    | .error .tooDeep => .tooDeep
    | .ok es =>
      match (Toml.tableUnder "tool" es).bind (Toml.tableUnder "looking_glass") with
      | none => .misplaced
      | some inner => .settings inner

/-- without a file there are no settings -/
def of (l : Toml.Limits) (file : Option (List UInt8)) : Contents :=
  (file.map (ofBytes l)).getD (.settings [])

end Contents

namespace Toml

/-! ## Parts that consist of texts -/

mutual

/-- whether two parts consist of the same texts, in the same arrays -/
def sameTexts : Toml → Toml → Bool
  | .text s, .text t => s == t
  | .array ts, .array us => sameItems ts us
  | _, _ => false
termination_by structural t => t

def sameItems : List Toml → List Toml → Bool
  | [], [] => true
  | t :: ts, u :: us => sameTexts t u && sameItems ts us
  | _, _ => false
termination_by structural ts => ts

end

mutual

theorem eq_of_sameTexts : ∀ {t u : Toml}, sameTexts t u = true → t = u
  | .text _, .text _, h => congrArg text (eq_of_beq h)
  | .array _, .array _, h => congrArg array (eq_of_sameItems h)

theorem eq_of_sameItems : ∀ {ts us : List Toml}, sameItems ts us = true → ts = us
  | [], [], _ => rfl
  | _ :: _, _ :: _, h => by
    obtain ⟨hfirst, hrest⟩ := Bool.and_eq_true_iff.mp h
    rw [eq_of_sameTexts hfirst, eq_of_sameItems hrest]

end

end Toml

namespace Contents

/-- whether contents that are no settings are of the same sort -/
def sameSort : Contents → Contents → Bool
  | .noText, .noText | .noToml, .noToml | .longNumber, .longNumber | .tooDeep, .tooDeep
  | .misplaced, .misplaced => true
  | _, _ => false

theorem eq_of_sameSort {c c' : Contents} (h : c.sameSort c' = true) : c = c' := by
  cases c <;> cases c' <;> first | rfl | exact nomatch h

/-- whether the settings of a file are the ones of a table of texts -/
def hasTexts (es : Entries) : Contents → Bool
  | .settings es' => es'.map Prod.fst == es.map Prod.fst
      && Toml.sameItems (es'.map Prod.snd) (es.map Prod.snd)
  | _ => false

theorem eq_of_hasTexts {es : Entries} {c : Contents} (h : c.hasTexts es = true) :
    c = .settings es := by
  cases c with
  | settings es' =>
    obtain ⟨hkeys, htexts⟩ := Bool.and_eq_true_iff.mp h
    rw [← List.zip_unzip es', ← List.zip_unzip es, List.unzip_fst, List.unzip_snd, List.unzip_fst,
      List.unzip_snd, eq_of_beq hkeys, Toml.eq_of_sameItems htexts]
  | _ => cases h

end Contents

namespace Toml

/-- the values of a table in their usual form -/
def given (es : Entries) : List (String × Value) := es.map fun e => (e.1, e.2.toValue)

theorem lookup_given (es : Entries) (name : String) :
    (given es).lookup name = (es.lookup name).map toValue := by
  induction es with
  | nil => rfl
  | cons e es ih =>
    rw [given, List.map_cons, List.lookup_cons, List.lookup_cons]
    cases name == e.1 with
    | true => rfl
    | false => exact ih

end Toml

/-- whether a value is a table -/
def Value.IsTable : Value → Prop
  | .dict _ => True
  | _ => False

theorem subtable_of_not_table {v : Value} (hv : ¬ v.IsTable) (name : String) :
    subtable name v = .error (.noAttribute "value" "get") := by
  cases v with
  | dict es => exact absurd trivial hv
  | _ => rfl

/-- what stands under a name: a table, or a value that is none -/
theorem subtable_cases (name : String) (es : Entries) :
    (∃ inner, Toml.tableUnder name es = some inner
        ∧ subtable name (.dict (Toml.toEntries es)) = .ok (.dict (Toml.toEntries inner)))
      ∨ (Toml.tableUnder name es = none
        ∧ ∃ v, ¬ v.IsTable ∧ subtable name (.dict (Toml.toEntries es)) = .ok v) := by
  unfold Toml.tableUnder subtable
  dsimp only
  rw [Toml.lookup_toEntries]
  cases hfound : es.lookup name with
  | none => exact .inl ⟨[], rfl, rfl⟩
  | some t =>
    cases t with
    | table inner => exact .inl ⟨inner, rfl, rfl⟩
    | _ => exact .inr ⟨rfl, _, id, rfl⟩

/-- what is found for the contents of a file -/
inductive Finds : Contents → Except Fault Value → Prop where
  | noText : Finds .noText (.error .undecodable)
  | noToml : Finds .noToml (.ok (.dict []))
  | longNumber : Finds .longNumber (.error .longNumber)
  | tooDeep : Finds .tooDeep (.error .tooDeep)
  | outer : Finds .misplaced (.error (.noAttribute "value" "get"))
  | inner {v : Value} (hv : ¬ v.IsTable) : Finds .misplaced (.ok v)
  | settings (es : Entries) : Finds (.settings es) (.ok (.dict (Toml.toEntries es)))

theorem finds_fileSettings (l : Toml.Limits) (bytes : List UInt8) :
    Finds (Contents.ofBytes l bytes) (fileSettings l bytes) := by
  unfold Contents.ofBytes fileSettings
  cases String.fromUTF8? (ByteArray.mk bytes.toArray) with
  | none => exact .noText
  | some text =>
    dsimp only
    cases Toml.parse l text with
    | error e =>
      cases e with
      | malformed => exact .noToml
      | longNumber => exact .longNumber
      | tooDeep => exact .tooDeep
    | ok es =>
      dsimp only
      rcases subtable_cases "tool" es with ⟨tools, htools, hsub⟩ | ⟨htools, v, hv, hsub⟩
      · rw [htools, hsub]
        show Finds (match Toml.tableUnder "looking_glass" tools with
          | none => .misplaced
          | some inner => .settings inner) (subtable "looking_glass" (.dict (Toml.toEntries tools)))
        rcases subtable_cases "looking_glass" tools with
          ⟨inner, hinner, hsub⟩ | ⟨hinner, v, hv, hsub⟩
        · rw [hinner, hsub]
          exact .settings inner
        · rw [hinner, hsub]
          exact .inner hv
      · rw [htools, hsub]
        show Finds .misplaced (subtable "looking_glass" v)
        rw [subtable_of_not_table hv]
        exact .outer

theorem finds_contents (l : Toml.Limits) (file : Option (List UInt8)) :
    Finds (Contents.of l file) ((file.map (fileSettings l)).getD (.ok (.dict []))) := by
  cases file with
  | none => exact .settings []
  | some bytes => exact finds_fileSettings l bytes

namespace Settings

variable {l : Toml.Limits} {h : Hierarchy} {es : Entries} {file : Option (List UInt8)}

/-- the packages of a table of settings, as a list -/
def packages (es : Entries) : Option (List Toml) :=
  match es.lookup Setting.foundationalModules.key with
  | none => some []
  | some t => t.listed

theorem entry?_table (es : Entries) (s : Setting) :
    entry? (.dict (Toml.toEntries es)) s = .ok ((es.lookup s.key).map Toml.toValue) :=
  congrArg Except.ok (Toml.lookup_toEntries s.key es)

theorem merged_of_not_table {v : Value} (hv : ¬ v.IsTable) (h : Hierarchy)
    (given : List (String × Value)) :
    merged h v given = .error (.noAttribute "value" "get") := by
  cases v with
  | dict es => exact absurd trivial hv
  | _ => rfl

/-- the packages among explicit arguments -/
def explicitPackages (h : Hierarchy) (given : List (String × Value)) : Except Fault (List Value) :=
  match argument? given .foundationalModules with
  | none => .ok []
  | some v => if v.truthy h then v.items h else .ok []

/-- the packages of a table are iterated, or the fault of doing so -/
theorem merged_table (hext : Hierarchy.Extends Hierarchy.base h) (es : Entries)
    (given : List (String × Value)) :
    (packages es = none ∧ ∃ owner,
        merged h (.dict (Toml.toEntries es)) given = .error (.notIterable owner))
      ∨ ∃ ts, packages es = some ts ∧ merged h (.dict (Toml.toEntries es)) given = do
          let extra ← explicitPackages h given
          return fun
            | .internalPrefix =>
              (argument? given .internalPrefix).filter (fun v => v.truthy h)
                <|> (es.lookup Setting.internalPrefix.key).map Toml.toValue
            | .includeFoundational =>
              argument? given .includeFoundational
                <|> (es.lookup Setting.includeFoundational.key).map Toml.toValue
            | .includeImported =>
              argument? given .includeImported
                <|> (es.lookup Setting.includeImported.key).map Toml.toValue
            | .foundationalModules => some (.list (joined (ts.map Toml.toValue) extra)) := by
  unfold packages merged
  dsimp only
  rw [entry?_table, entry?_table, entry?_table, entry?_table]
  cases es.lookup Setting.foundationalModules.key with
  | none =>
    refine .inr ⟨[], rfl, ?_⟩
    unfold explicitPackages
    cases argument? given .foundationalModules with
    | none => rfl
    | some v =>
      dsimp only
      cases v.truthy h <;> rfl
  | some t =>
    have hitems := Toml.items_toValue hext t
    dsimp only [Option.map_some, Option.getD_some, bind, Except.bind]
    rw [hitems]
    cases t.listed with
    | none => exact .inl ⟨rfl, _, rfl⟩
    | some ts =>
      refine .inr ⟨ts, rfl, ?_⟩
      unfold explicitPackages
      cases argument? given .foundationalModules with
      | none => rfl
      | some v =>
        dsimp only
        cases v.truthy h <;> rfl

/-! ## Loading -/

/-- what loading comes to for each sort of contents -/
theorem load_eq (l : Toml.Limits) (h : Hierarchy) (file : Option (List UInt8))
    (given : List (String × Value)) :
    load l h file given = match Contents.of l file with
      | .noText => .error .undecodable
      | .noToml => merged h (.dict []) given >>= ofValues
      | .longNumber => .error .longNumber
      | .tooDeep => .error .tooDeep
      | .misplaced => .error (.noAttribute "value" "get")
      | .settings es => merged h (.dict (Toml.toEntries es)) given >>= ofValues := by
  have hfinds := finds_contents l file
  unfold load
  generalize (file.map (fileSettings l)).getD (.ok (.dict [])) = found at hfinds
  generalize Contents.of l file = contents at hfinds
  cases hfinds with
  | inner hv => exact bind_of_error (merged_of_not_table hv h given) _
  | _ => rfl

theorem load_of_table (hfile : Contents.of l file = .settings es) (given : List (String × Value)) :
    load l h file given = merged h (.dict (Toml.toEntries es)) given >>= ofValues := by
  rw [load_eq, hfile]

/-- the packages of a table given as a list, and its other settings as they are -/
def withListed (ts : List Toml) (es : Entries) : List (String × Value) :=
  (Setting.foundationalModules.key, .list (ts.map Toml.toValue)) :: Toml.given es

/-- a table is loaded as if its packages had been given as a list -/
theorem load_of_settings (hext : Hierarchy.Extends Hierarchy.base h)
    (hfile : Contents.of l file = .settings es) :
    (packages es = none ∧ ∃ owner, load l h file [] = .error (.notIterable owner))
      ∨ ∃ ts, packages es = some ts ∧ load l h file [] = ofGiven (withListed ts es) := by
  rw [load_of_table hfile]
  rcases merged_table hext es [] with ⟨hnone, owner, hmerged⟩ | ⟨ts, hsome, hmerged⟩
  · exact .inl ⟨hnone, owner, bind_of_error hmerged _⟩
  · refine .inr ⟨ts, hsome, ?_⟩
    rw [hmerged]
    refine congrArg ofValues (funext fun s => ?_)
    cases s with
    | foundationalModules => rfl
    | _ => exact (Toml.lookup_given es _).symm

theorem ofValues_ends (given : Setting → Option Value) :
    Ends (fun _ => True) (fun e => ∃ ps, e = .badSettings ps) (ofValues given) := by
  unfold ofValues
  cases validated given with
  | ok s => exact .ok trivial
  | error ps => exact .error ⟨ps, rfl⟩

/-- a text that breaks the format gives the defaults, and a table gives settings or the problems
with them; loading ends otherwise for bytes that are no text, for a number that is too long, for
brackets that are nested too deeply, for anything but a table in place of the settings, and for
packages that cannot be iterated -/
theorem load_ends (l : Toml.Limits) (hext : Hierarchy.Extends Hierarchy.base h) (bytes : List UInt8) :
    match Contents.ofBytes l bytes with
    | .noText => load l h (some bytes) [] = .error .undecodable
    | .noToml => load l h (some bytes) [] = .ok {}
    | .longNumber => load l h (some bytes) [] = .error .longNumber
    | .tooDeep => load l h (some bytes) [] = .error .tooDeep
    | .misplaced => load l h (some bytes) [] = .error (.noAttribute "value" "get")
    | .settings es =>
      match packages es with
      | some _ => Ends (fun _ => True) (fun e => ∃ ps, e = .badSettings ps) (load l h (some bytes) [])
      | none => ∃ owner, load l h (some bytes) [] = .error (.notIterable owner) := by
  have hof : Contents.of l (some bytes) = Contents.ofBytes l bytes := rfl
  have hload := load_eq l h (some bytes) []
  rw [hof] at hload
  cases hfile : Contents.ofBytes l bytes with
  | settings es =>
    dsimp only
    rcases load_of_settings hext (hof.trans hfile) with
      ⟨hnone, owner, hload⟩ | ⟨ts, hsome, hload⟩
    · rw [hnone]
      exact ⟨owner, hload⟩
    · rw [hsome, hload]
      exact ofValues_ends _
  | _ =>
    rw [hfile] at hload
    exact hload

/-- a short number and one open bracket are the most that is read -/
def narrow : Toml.Limits where
  digits := 3
  exhausted around _ := 1 < around.length

/-- a byte that no text holds, a number that is too long, brackets that are nested too deeply, a
number in place of a table, and a number in place of packages -/
theorem load_ends_badly :
    load narrow .base (some [0xff]) [] = .error .undecodable
      ∧ load narrow .base (some "x = 1_234\ny =".toUTF8.toList) [] = .error .longNumber
      ∧ load narrow .base (some "x = [[[".toUTF8.toList) [] = .error .tooDeep
      ∧ load narrow .base (some "tool = 3".toUTF8.toList) [] = .error (.noAttribute "value" "get")
      ∧ ∃ owner, load narrow .base
          (some "[tool.looking_glass]\nfoundational_modules = 3".toUTF8.toList) []
            = .error (.notIterable owner) := by
  have hends := load_ends narrow (refl_of Hierarchy.Extends .base)
  refine ⟨?_, ?_, ?_, ?_, ?_⟩
  · have hsort : Contents.ofBytes narrow [0xff] = .noText :=
      Contents.eq_of_sameSort (by decide +kernel)
    have hload := hends [0xff]
    rwa [hsort] at hload
  · have hsort : Contents.ofBytes narrow "x = 1_234\ny =".toUTF8.toList = .longNumber :=
      Contents.eq_of_sameSort (by decide +kernel)
    have hload := hends "x = 1_234\ny =".toUTF8.toList
    rwa [hsort] at hload
  · have hsort : Contents.ofBytes narrow "x = [[[".toUTF8.toList = .tooDeep :=
      Contents.eq_of_sameSort (by decide +kernel)
    have hload := hends "x = [[[".toUTF8.toList
    rwa [hsort] at hload
  · have hsort : Contents.ofBytes narrow "tool = 3".toUTF8.toList = .misplaced :=
      Contents.eq_of_sameSort (by decide +kernel)
    have hload := hends "tool = 3".toUTF8.toList
    rwa [hsort] at hload
  · have hsort : (match Contents.ofBytes narrow
          "[tool.looking_glass]\nfoundational_modules = 3".toUTF8.toList with
        | .settings es => (packages es).isNone | _ => false) = true := by decide +kernel
    have hload := hends "[tool.looking_glass]\nfoundational_modules = 3".toUTF8.toList
    cases hfile : Contents.ofBytes narrow
        "[tool.looking_glass]\nfoundational_modules = 3".toUTF8.toList with
    | settings es =>
      rw [hfile] at hsort hload
      dsimp only at hload
      rwa [Option.isNone_iff_eq_none.mp hsort] at hload
    | _ => rw [hfile] at hsort; exact nomatch hsort

end Settings

end Introspect
