import Introspect.Proofs.Settings.Validation

/-!
# Explicit arguments over a configuration file

* `Options`                      values for some of the settings, of the right types;
* `Options.overriding`           explicit values over those of a file; the packages of both;
* `Settings.joined_texts`        packages are joined as `Options.overriding` says;
* `Settings.ofGiven_keywords`    options given directly: only an empty prefix is refused;
* `Settings.load_over`           loading is as if the options had been given directly, except that
                                 an explicit empty prefix counts as not given.
-/

namespace Introspect

open Toml (Entries)

/-- values for some of the settings -/
structure Options where
  internalPrefix : Option String := none
  includeFoundational : Option Bool := none
  includeImported : Option Bool := none
  foundationalModules : Option (List String) := none

/-- names followed by the other ones that are not among them, each once -/
def withNew (listed extra : List String) : List String :=
  listed ++ (extra.filter fun name => !listed.contains name).eraseDups

namespace Options

def value? (o : Options) : Setting → Option Value
  | .internalPrefix => o.internalPrefix.map .str
  | .includeFoundational => o.includeFoundational.map .bool
  | .includeImported => o.includeImported.map .bool
  | .foundationalModules => o.foundationalModules.map fun names => .list (names.map .str)

/-- the options as named arguments -/
def keywords (o : Options) : List (String × Value) :=
  Setting.all.filterMap fun s => (o.value? s).map fun v => (s.key, v)

/-- the options are what a table of settings holds -/
def AreIn (o : Options) (es : Entries) : Prop :=
  ∀ s : Setting, (es.lookup s.key).map Toml.toValue = o.value? s

/-- the options are what is passed as arguments; nothing counts as not passed -/
def ArePassed (o : Options) (given : List (String × Value)) : Prop :=
  ∀ s : Setting, Settings.argument? given s = o.value? s

/-- explicit options over the ones of a file -/
def overriding (explicit inFile : Options) : Options where
  internalPrefix := explicit.internalPrefix <|> inFile.internalPrefix
  includeFoundational := explicit.includeFoundational <|> inFile.includeFoundational
  includeImported := explicit.includeImported <|> inFile.includeImported
  foundationalModules :=
    some (withNew (inFile.foundationalModules.getD []) (explicit.foundationalModules.getD []))

/-- the options without an empty prefix -/
def withoutEmptyPrefix (o : Options) : Options :=
  { o with internalPrefix := o.internalPrefix.filter (· ≠ "") }

theorem lookup_keywords (o : Options) (s : Setting) : o.keywords.lookup s.key = o.value? s := by
  obtain ⟨internal, foundational, imported, modules⟩ := o
  cases s <;> cases internal <;> cases foundational <;> cases imported <;> cases modules <;> rfl

end Options

namespace Settings

variable {l : Toml.Limits} {h : Hierarchy} {es : Entries} {file : Option (List UInt8)}
  {given : List (String × Value)} {explicit inFile : Options}

/-! ## Packages -/

theorem contains_texts (listed : List String) (name : String) :
    (listed.map Value.str).contains (.str name) = listed.contains name := by
  induction listed with
  | nil => rfl
  | cons n ns ih =>
    rw [List.map_cons, List.contains_cons, List.contains_cons, ih]
    rfl

theorem joined_texts (listed extra : List String) :
    joined (listed.map .str) (extra.map .str) = (withNew listed extra).map .str := by
  induction extra generalizing listed with
  | nil => exact congrArg (List.map Value.str) (List.append_nil listed).symm
  | cons name extra ih =>
    have hstep : joined (listed.map .str) ((name :: extra).map .str)
        = joined (if listed.contains name then listed.map .str
            else listed.map .str ++ [.str name]) (extra.map .str) := by
      rw [← contains_texts]
      rfl
    rw [hstep]
    unfold withNew
    by_cases hmem : listed.contains name = true
    · rw [if_pos hmem, ih, List.filter_cons_of_neg (by rw [hmem]; exact Bool.false_ne_true)]
      rfl
    · have hnew : (listed ++ [name]).map Value.str = listed.map .str ++ [.str name] :=
        List.map_append
      rw [if_neg hmem, ← hnew, ih, List.filter_cons_of_pos (by simpa using hmem),
        List.eraseDups_cons]
      unfold withNew
      rw [List.append_assoc, List.filter_filter]
      refine congrArg _ (congrArg _ (congrArg _ (congrArg List.eraseDups ?_)))
      refine List.filter_congr fun n _ => ?_
      rw [List.contains_append, List.contains_cons, List.contains_nil, Bool.or_false, Bool.not_or,
        Bool.and_comm]

/-! ## Loading -/

/-- options given directly: an empty prefix is refused, and everything else is taken -/
theorem ofGiven_keywords (o : Options) :
    ofGiven o.keywords
      = if o.internalPrefix = some "" then
          .error (.badSettings [{ setting := .internalPrefix, mismatch := .emptyPrefix }])
        else .ok {
          internalPrefix := o.internalPrefix.getD "__"
          includeFoundational := o.includeFoundational.getD false
          includeImported := o.includeImported.getD false
          foundationalModules := o.foundationalModules.getD [] } := by
  have hlookup : ofGiven o.keywords = ofValues o.value? :=
    congrArg ofValues (funext o.lookup_keywords)
  rw [hlookup]
  obtain ⟨internal, foundational, imported, modules⟩ := o
  unfold ofValues validated Options.value?
  dsimp only
  have hfoundational : (foundational.map Value.bool).elim (.ok false)
      (check .includeFoundational truth) = .ok (foundational.getD false) := by
    cases foundational <;> rfl
  have himported : (imported.map Value.bool).elim (.ok false)
      (check .includeImported truth) = .ok (imported.getD false) := by
    cases imported <;> rfl
  have hmodules : (modules.map fun names => Value.list (names.map .str)).elim (.ok [])
      (checkTexts .foundationalModules) = .ok (modules.getD []) := by
    cases modules with
    | none => rfl
    | some names => exact checkItems_texts _ 0 names
  rw [hfoundational, himported, hmodules]
  cases internal with
  | none => rfl
  | some s =>
    by_cases hs : s = ""
    · subst hs
      rfl
    · have hread : (Option.map Value.str (some s)).elim (.ok "__")
          (check .internalPrefix nonEmptyText) = .ok s := by
        have htext : nonEmptyText (.str s) = .ok s := if_neg hs
        rw [Option.map_some, Option.elim_some, check, htext]
      rw [hread, if_neg fun heq => hs (Option.some.inj heq)]
      rfl

theorem packages_of_areIn (hin : inFile.AreIn es) :
    ∃ ts, packages es = some ts
      ∧ ts.map Toml.toValue = (inFile.foundationalModules.getD []).map .str := by
  have hmodules := hin .foundationalModules
  unfold packages
  unfold Options.value? at hmodules
  cases hfound : es.lookup Setting.foundationalModules.key with
  | none =>
    rw [hfound] at hmodules
    refine ⟨[], rfl, ?_⟩
    cases hnames : inFile.foundationalModules with
    | none => rfl
    | some names => rw [hnames] at hmodules; exact nomatch hmodules
  | some t =>
    rw [hfound] at hmodules
    cases hnames : inFile.foundationalModules with
    | none => rw [hnames] at hmodules; exact nomatch hmodules
    | some names =>
      rw [hnames] at hmodules
      have ht : t.toValue = .list (names.map .str) := Option.some.inj hmodules
      cases t with
      | array items =>
        refine ⟨items, rfl, ?_⟩
        rw [← Toml.toValues_eq_map]
        exact Value.list.inj ht
      | _ => exact nomatch ht

theorem explicitPackages_of_arePassed (h : Hierarchy) (hpassed : explicit.ArePassed given) :
    explicitPackages h given = .ok ((explicit.foundationalModules.getD []).map .str) := by
  have hmodules := hpassed .foundationalModules
  unfold Options.value? at hmodules
  unfold explicitPackages
  rw [hmodules]
  cases explicit.foundationalModules with
  | none => rfl
  | some names => cases names <;> rfl

theorem filter_truthy_text (h : Hierarchy) (s : Option String) :
    (s.map Value.str).filter (fun v => v.truthy h) = (s.filter (· ≠ "")).map .str := by
  cases s with
  | none => rfl
  | some s =>
    by_cases hs : s = ""
    · subst hs
      rfl
    · rw [Option.map_some, Option.filter_some_pos, Option.filter_some_pos]
      · rfl
      · exact decide_eq_true hs
      · exact bne_iff_ne.mpr hs

theorem map_orElse {α β : Type} (f : α → β) (a b : Option α) :
    (a.map f <|> b.map f) = (a <|> b).map f := by
  cases a <;> rfl

/-- the values that options are merged to -/
theorem merged_options (hext : Hierarchy.Extends Hierarchy.base h) (hin : inFile.AreIn es)
    (hpassed : explicit.ArePassed given) :
    merged h (.dict (Toml.toEntries es)) given
      = .ok (explicit.withoutEmptyPrefix.overriding inFile).value? := by
  obtain ⟨ts, hsome, hts⟩ := packages_of_areIn hin
  rcases merged_table hext es given with ⟨hnone, -⟩ | ⟨ts', hsome', hmerged⟩
  · exact nomatch hnone.symm.trans hsome
  · obtain rfl := Option.some.inj (hsome.symm.trans hsome')
    rw [hmerged, explicitPackages_of_arePassed h hpassed]
    refine congrArg Except.ok (funext fun s => ?_)
    cases s with
    | internalPrefix =>
      dsimp only
      rw [hpassed .internalPrefix, hin .internalPrefix]
      show (Option.filter _ (explicit.internalPrefix.map Value.str) <|> _) = _
      rw [filter_truthy_text]
      exact map_orElse Value.str _ _
    | includeFoundational =>
      dsimp only
      rw [hpassed .includeFoundational, hin .includeFoundational]
      exact map_orElse Value.bool _ _
    | includeImported =>
      dsimp only
      rw [hpassed .includeImported, hin .includeImported]
      exact map_orElse Value.bool _ _
    | foundationalModules =>
      dsimp only
      rw [hts, joined_texts]
      rfl

/-- loading is as if the options had been given directly, an explicit empty prefix counting as not
given; this makes a difference exactly when the prefix of the file is not empty, too -/
theorem load_over (hext : Hierarchy.Extends Hierarchy.base h)
    (hfile : Contents.of l file = .settings es) (hin : inFile.AreIn es)
    (hpassed : explicit.ArePassed given) :
    load l h file given = ofGiven (explicit.withoutEmptyPrefix.overriding inFile).keywords
      ∧ (load l h file given = ofGiven (explicit.overriding inFile).keywords
        ↔ (explicit.internalPrefix = some "" → inFile.internalPrefix = some "")) := by
  have hload : load l h file given
      = ofGiven (explicit.withoutEmptyPrefix.overriding inFile).keywords := by
    rw [load_of_table hfile, merged_options hext hin hpassed]
    exact congrArg ofValues (funext fun s => (Options.lookup_keywords _ s).symm)
  refine ⟨hload, ?_⟩
  rw [hload, ofGiven_keywords, ofGiven_keywords]
  by_cases hempty : explicit.internalPrefix = some ""
  · have hdirect : (explicit.overriding inFile).internalPrefix = some "" := by
      unfold Options.overriding
      rw [hempty]
      rfl
    have hwithout : (explicit.withoutEmptyPrefix.overriding inFile).internalPrefix
        = inFile.internalPrefix := by
      unfold Options.overriding Options.withoutEmptyPrefix
      rw [hempty]
      rfl
    rw [if_pos hdirect, hwithout]
    by_cases hprefix : inFile.internalPrefix = some ""
    · rw [if_pos hprefix]
      exact iff_of_true rfl fun _ => hprefix
    · rw [if_neg hprefix]
      exact iff_of_false nofun fun himp => hprefix (himp hempty)
  · have hsame : explicit.withoutEmptyPrefix = explicit := by
      unfold Options.withoutEmptyPrefix
      obtain ⟨internal, foundational, imported, modules⟩ := explicit
      cases internal with
      | none => rfl
      | some s =>
        rw [Option.filter_some_pos]
        exact decide_eq_true fun hs => hempty (congrArg some hs)
    rw [hsame]
    exact iff_of_true rfl fun h => absurd h hempty

/-- an explicit empty prefix gives way to the one of the file, and would be refused if it were given
directly; the packages of both are joined -/
theorem load_emptyPrefix :
    let bytes :=
      "[tool.looking_glass]\ninternal_prefix = \"_\"\nfoundational_modules = [\"a\"]".toUTF8.toList
    let given : List (String × Value) := [("internal_prefix", .str ""), ("include_imported", .none),
      ("foundational_modules", .list [.str "b", .str "a", .str "b"])]
    let explicit : Options :=
      { internalPrefix := some "", foundationalModules := some ["b", "a", "b"] }
    let inFile : Options := { internalPrefix := some "_", foundationalModules := some ["a"] }
    load .standard .base (some bytes) given
        = .ok { internalPrefix := "_", foundationalModules := ["a", "b"] }
      ∧ load .standard .base (some bytes) given ≠ ofGiven (explicit.overriding inFile).keywords := by
  intro bytes given explicit inFile
  have hfile : Contents.of .standard (some bytes) = .settings
      [("internal_prefix", .text "_"), ("foundational_modules", .array [.text "a"])] :=
    Contents.eq_of_hasTexts (by decide +kernel)
  have hin : inFile.AreIn
      [("internal_prefix", .text "_"), ("foundational_modules", .array [.text "a"])] :=
    fun s => by cases s <;> rfl
  have hpassed : explicit.ArePassed given := fun s => by cases s <;> rfl
  have hload := load_over (refl_of Hierarchy.Extends .base) hfile hin hpassed
  refine ⟨hload.1, fun heq => ?_⟩
  have hprefix : inFile.internalPrefix = some "" := hload.2.mp heq rfl
  exact absurd hprefix (by decide)

end Settings

end Introspect
