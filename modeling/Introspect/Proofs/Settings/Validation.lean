import Introspect.Proofs.Settings.Contents

/-!
# Settings of a file and settings given directly

A table is loaded like settings that are given directly, except for its packages: these are made a
list before they are validated, so that a text or a table passes where it would be refused.

* `Settings.problems_validated`    the problems of a validation, setting by setting;
* `Settings.ofValues_ne`           packages that are no list make a difference;
* `Settings.load_eq_ofGiven_iff`   when a table is loaded like settings given directly.
-/

namespace Introspect

open Toml (Entries)

namespace Settings

variable {l : Toml.Limits} {h : Hierarchy} {es : Entries} {file : Option (List UInt8)}
  {given given' : Setting → Option Value}

/-- the problems with the settings before the packages -/
def earlierProblems (given : Setting → Option Value) : List Problem :=
  let read {α : Type} (s : Setting) (f : Value → Except Mismatch α) (otherwise : α) :
      List Problem := problems ((given s).elim (.ok otherwise) (check s f))
  read .internalPrefix nonEmptyText "__" ++ read .includeFoundational truth false
    ++ read .includeImported truth false

/-- the problems with the packages -/
def packageProblems (given : Setting → Option Value) : List Problem :=
  problems ((given .foundationalModules).elim (.ok []) (checkTexts .foundationalModules))

theorem problems_validated (given : Setting → Option Value) :
    problems (validated given) = earlierProblems given ++ packageProblems given := by
  unfold validated earlierProblems packageProblems
  dsimp only
  generalize (given .internalPrefix).elim _ _ = internal
  generalize (given .includeFoundational).elim _ _ = foundational
  generalize (given .includeImported).elim _ _ = imported
  generalize (given .foundationalModules).elim _ _ = modules
  cases internal <;> cases foundational <;> cases imported <;> cases modules <;> rfl

/-- the problems that a validation reports -/
def reportedProblems (x : Except Fault Settings) : List Problem :=
  match x with
  | .error (.badSettings ps) => ps
  | _ => []

theorem reportedProblems_ofValues (given : Setting → Option Value) :
    reportedProblems (ofValues given) = problems (validated given) := by
  unfold ofValues
  cases validated given <;> rfl

theorem ofValues_ne (hearlier : ∀ s ≠ .foundationalModules, given s = given' s)
    (hpackages : (packageProblems given).length ≠ (packageProblems given').length) :
    ofValues given ≠ ofValues given' := by
  intro heq
  have hproblems := congrArg reportedProblems heq
  rw [reportedProblems_ofValues, reportedProblems_ofValues, problems_validated,
    problems_validated] at hproblems
  have hsame : earlierProblems given = earlierProblems given' := by
    unfold earlierProblems
    dsimp only
    rw [hearlier .internalPrefix nofun, hearlier .includeFoundational nofun,
      hearlier .includeImported nofun]
  rw [hsame] at hproblems
  exact hpackages (congrArg List.length (List.append_cancel_left hproblems))

/-- an empty list of packages is the default -/
theorem ofValues_of_no_packages (hearlier : ∀ s ≠ .foundationalModules, given s = given' s)
    (hlist : given .foundationalModules = some (.list []))
    (hnone : given' .foundationalModules = none) : ofValues given = ofValues given' := by
  unfold ofValues validated
  dsimp only
  rw [hearlier .internalPrefix nofun, hearlier .includeFoundational nofun,
    hearlier .includeImported nofun, hlist, hnone]
  rfl

theorem checkItems_texts (s : Setting) (i : Nat) (texts : List String) :
    checkItems s i (texts.map Value.str) = .ok texts := by
  induction texts generalizing i with
  | nil => rfl
  | cons t ts ih =>
    rw [List.map_cons, checkItems, ih]
    rfl

/-- what is made of a text or a table are texts -/
theorem listed_texts {t : Toml} {ts : List Toml} (hlisted : t.listed = some ts)
    (harray : ∀ items, t ≠ .array items) : ∃ texts : List String, ts = texts.map Toml.text := by
  cases t with
  | text s =>
    refine ⟨s.toList.map String.singleton, ?_⟩
    rw [List.map_map]
    exact (Option.some.inj hlisted).symm
  | table es =>
    refine ⟨es.map Prod.fst, ?_⟩
    rw [List.map_map]
    exact (Option.some.inj hlisted).symm
  | array items => exact absurd rfl (harray items)
  | _ => exact nomatch hlisted

theorem lookup_withListed (ts : List Toml) (es : Entries) (s : Setting)
    (hs : s ≠ .foundationalModules) :
    (withListed ts es).lookup s.key = (Toml.given es).lookup s.key := by
  cases s with
  | foundationalModules => exact absurd rfl hs
  | _ => rfl

theorem lookup_withListed_self (ts : List Toml) (es : Entries) :
    (withListed ts es).lookup Setting.foundationalModules.key
      = some (.list (ts.map Toml.toValue)) := rfl

/-- packages that are an array, or not there, are the same as a list -/
theorem ofGiven_withListed {ts : List Toml} (hsome : packages es = some ts)
    (harray : ∀ t, es.lookup Setting.foundationalModules.key = some t → ∃ items, t = .array items) :
    ofGiven (withListed ts es) = ofGiven (Toml.given es) := by
  have hdirect := Toml.lookup_given es Setting.foundationalModules.key
  unfold packages at hsome
  cases hfound : es.lookup Setting.foundationalModules.key with
  | none =>
    rw [hfound] at hsome hdirect
    obtain rfl := Option.some.inj hsome
    exact ofValues_of_no_packages (lookup_withListed [] es) rfl hdirect
  | some t =>
    obtain ⟨items, rfl⟩ := harray t hfound
    rw [hfound] at hsome hdirect
    obtain rfl := Option.some.inj hsome
    refine congrArg ofValues (funext fun s => ?_)
    by_cases hs : s = .foundationalModules
    · subst hs
      rw [hdirect, lookup_withListed_self, ← Toml.toValues_eq_map]
      rfl
    · exact lookup_withListed items es s hs

/-- packages that are a text or a table are refused, and a list of what they hold is not -/
theorem ofGiven_withListed_ne {t : Toml} {ts : List Toml}
    (hfound : es.lookup Setting.foundationalModules.key = some t) (hlisted : t.listed = some ts)
    (harray : ∀ items, t ≠ .array items) :
    ofGiven (withListed ts es) ≠ ofGiven (Toml.given es) := by
  refine ofValues_ne (lookup_withListed ts es) ?_
  obtain ⟨texts, rfl⟩ := listed_texts hlisted harray
  have hlist : packageProblems (fun s => (withListed (texts.map Toml.text) es).lookup s.key)
      = [] := by
    unfold packageProblems
    dsimp only
    rw [lookup_withListed_self, List.map_map]
    exact congrArg problems (checkItems_texts _ 0 texts)
  have hrefused : packageProblems (fun s => (Toml.given es).lookup s.key)
      = [{ setting := .foundationalModules, mismatch := .notList }] := by
    unfold packageProblems
    dsimp only
    rw [Toml.lookup_given, hfound]
    cases t with
    | array items => exact absurd rfl (harray items)
    | _ => rfl
  rw [hlist, hrefused]
  exact Nat.zero_ne_one

/-- a table is loaded as if its packages had been given as a list, unless they cannot be iterated;
this is how it would be given directly exactly when its packages are an array or not there -/
theorem load_eq_ofGiven_iff (hext : Hierarchy.Extends Hierarchy.base h)
    (hfile : Contents.of l file = .settings es) :
    (match packages es with
      | some ts => load l h file [] = ofGiven (withListed ts es)
      | none => ∃ owner, load l h file [] = .error (.notIterable owner))
    ∧ (load l h file [] = ofGiven (Toml.given es)
      ↔ ∀ t, es.lookup Setting.foundationalModules.key = some t → ∃ items, t = .array items) := by
  rcases load_of_settings hext hfile with ⟨hnone, owner, hload⟩ | ⟨ts, hsome, hload⟩
  · rw [hnone, hload]
    refine ⟨⟨owner, rfl⟩, iff_of_false (fun heq => ?_) (fun harray => ?_)⟩
    · obtain ⟨ps, hps⟩ := (ofValues_ends _).of_error heq.symm
      exact nomatch hps
    · unfold packages at hnone
      cases hfound : es.lookup Setting.foundationalModules.key with
      | none => rw [hfound] at hnone; exact nomatch hnone
      | some t =>
        obtain ⟨items, rfl⟩ := harray t hfound
        rw [hfound] at hnone
        exact nomatch hnone
  · rw [hsome, hload]
    refine ⟨rfl, fun heq t hfound => ?_, ofGiven_withListed hsome⟩
    refine Classical.byContradiction fun harray => ?_
    unfold packages at hsome
    rw [hfound] at hsome
    exact ofGiven_withListed_ne hfound hsome (fun items hitems => harray ⟨items, hitems⟩) heq

/-- a text is taken for the list of its characters, and would be refused if it were given
directly -/
theorem load_textOfPackages :
    let bytes := "[tool.looking_glass]\nfoundational_modules = \"ab\"".toUTF8.toList
    let es : Entries := [("foundational_modules", .text "ab")]
    Contents.of .standard (some bytes) = .settings es
      ∧ load .standard .base (some bytes) [] = .ok { foundationalModules := ["a", "b"] }
      ∧ load .standard .base (some bytes) [] ≠ ofGiven (Toml.given es) := by
  intro bytes es
  have hfile : Contents.of .standard (some bytes) = .settings es :=
    Contents.eq_of_hasTexts (by decide +kernel)
  have hload := load_eq_ofGiven_iff (refl_of Hierarchy.Extends .base) hfile
  refine ⟨hfile, hload.1, fun heq => ?_⟩
  obtain ⟨items, hitems⟩ := hload.2.mp heq (.text "ab") rfl
  cases hitems

end Settings

end Introspect
