import Introspect.Proofs.Modules.Inventory

/-!
# The two filters of an enumeration

A name is selected when it is bound to a plain value and passes two filters.  What is asked of the
constness of its binding and what is asked of its value have nothing to do with each other, so that
selections can be taken apart:

* `Catalog.Admits`           a filter on constness lets a name pass;
* `Catalog.isGlobal_iff`     a name is a global variable when it is bound to a plain value and both
                             filters let it pass;
* `Catalog.Partitioned`      how the selections of one module are made up of each other;
* `Catalog.Selects`          the selections are told, and they are made up like that;
* `Catalog.selections_cases` they are, when the names of the module can be put in order;
* `Catalog.selections_moduleWith`  a key that is no text, beside one that is, keeps them from being
                             told.
-/

namespace Introspect

namespace Catalog

variable (c : Catalog) (settings : Settings) (m : Nat)

/-! ## Single names -/

theorem plainValue_eq_some_iff (n : String) (v : Value) :
    c.plainValue settings (.module m) n = .ok (some v)
      ↔ settings.isInternal n = false
        ∧ Value.lookup (.str n) (c.module m).bindings = some v
        ∧ v.bindingKind c.hierarchy = .ok .plain := by
  have hspace : c.namespaceOf (.module m) = .ok (c.module m).bindings := rfl
  unfold plainValue
  by_cases hinternal : settings.isInternal n = true
  · rw [if_pos hinternal, hinternal]
    exact iff_of_false nofun nofun
  · rw [if_neg hinternal, hspace, bind_eq_ok_iff]
    simp only [Except.ok.injEq, exists_eq_left']
    rw [Bool.eq_false_iff.mpr hinternal]
    cases hv : Value.lookup (.str n) (c.module m).bindings with
    | none => exact iff_of_false nofun fun h => nomatch h.2.1
    | some w =>
      show (w.bindingKind c.hierarchy >>= fun k =>
        (.ok (if k == BindingKind.plain then some w else none) : Except Fault (Option Value))) = _ ↔ _
      rw [bind_eq_ok_iff, Option.some.injEq]
      constructor
      · rintro ⟨k, hk, hplain⟩
        have hkind : k = .plain := by
          by_contra hne
          rw [if_neg (by simpa using hne)] at hplain
          exact nomatch hplain
        subst hkind
        obtain rfl := Option.some.inj (Except.ok.inj hplain)
        exact ⟨rfl, rfl, hk⟩
      · rintro ⟨-, rfl, hk⟩
        exact ⟨.plain, hk, rfl⟩

/-- a filter on constness lets a name pass: it does not ask, or the final names are known and the name
is one of them or not, as the filter wants it -/
def Admits (k : Constness) (n : String) : Prop :=
  k = .all ∨ ∃ finals, c.finalNames (.module m) = .ok (some finals)
    ∧ k.admits (finals.contains (.str n)) = true

/-- a lookup for a module puts together what is bound there and its final names -/
theorem bindingThrough_own {lookup : ModuleBindings} (h : lookup.module = .module m) (n : String) :
    c.bindingThrough (.module m) n lookup
      = (c.finalNamesThrough >>= fun known =>
          (pure (known.map (BindingInfo.of (c.module m).bindings n)) :
            Acting ModuleBindings (Option BindingInfo))) lookup := by
  obtain ⟨own, known⟩ := lookup
  obtain rfl : own = .module m := h
  unfold bindingThrough
  rw [Acting.bind_of_ok (Acting.get_apply _)]
  show (if (Value.module m == .module m) = true then c.ownBinding n
    else liftM (c.binding (.module m) n)) ⟨.module m, known⟩ = _
  rw [if_pos (Value.beq_module_iff.mpr rfl)]
  rfl

/-- what a new lookup knows about a name of its module -/
theorem bindingThrough_fresh (n : String) :
    (c.bindingThrough (.module m) n (.fresh (.module m))).1
      = (c.finalNames (.module m)).map
          (Option.map (BindingInfo.of (c.module m).bindings n)) := by
  rw [c.bindingThrough_own m rfl, Acting.bind_apply, finalNamesThrough_fresh]
  cases c.finalNames (.module m) with
  | error e => rfl
  | ok known => rfl

/-- a filter that asks for the constness of a bound name gets it from the final names -/
theorem bindingThrough_admits {n : String} {v : Value} {k : Constness} (hk : k ≠ .all)
    (hbound : Value.lookup (.str n) (c.module m).bindings = some v) :
    ((c.bindingThrough (.module m) n >>= fun known => (match known with
        | none => pure false
        | some info => pure (info.isBound && k.admits info.isConst) :
          Acting ModuleBindings Bool)) (.fresh (.module m))).1 = .ok true
      ↔ c.Admits m k n := by
  have hknown := c.bindingThrough_fresh m n
  rw [Acting.bind_apply]
  rcases hrun : c.bindingThrough (.module m) n (.fresh (.module m)) with ⟨r, t⟩
  rw [hrun] at hknown
  obtain rfl : r = _ := hknown
  unfold Admits
  rw [or_iff_right hk]
  cases c.finalNames (.module m) with
  | error e => exact iff_of_false nofun fun ⟨_, h, _⟩ => nomatch h
  | ok known =>
    cases known with
    | none => exact iff_of_false nofun fun ⟨_, h, _⟩ => nomatch h
    | some finals =>
      have hinfo : BindingInfo.of (c.module m).bindings n finals
          = ⟨true, finals.contains (.str n)⟩ := by
        unfold BindingInfo.of
        rw [hbound]
        rfl
      show Except.ok ((BindingInfo.of (c.module m).bindings n finals).isBound
        && k.admits (BindingInfo.of (c.module m).bindings n finals).isConst) = _ ↔ _
      rw [hinfo, Except.ok.injEq, Bool.true_and]
      exact ⟨fun h => ⟨finals, rfl, h⟩, fun ⟨fs, hfs, h⟩ =>
        Option.some.inj (Except.ok.inj hfs) ▸ h⟩

theorem passesConstness_eq_true_iff {n : String} {v : Value}
    (hbound : Value.lookup (.str n) (c.module m).bindings = some v) (k : Constness) :
    (c.passesConstness none (.module m) n k (.fresh (.module m))).1 = .ok true
      ↔ c.Admits m k n := by
  cases k with
  | all => exact iff_of_true rfl (.inl rfl)
  | const => exact c.bindingThrough_admits m nofun hbound
  | nonconst => exact c.bindingThrough_admits m nofun hbound

/-- a name is a global variable when its examination comes to an end and says so -/
theorem isGlobal_eq_true_iff (given : Option BindingLookup) (s : Selection) (n : String) :
    c.isGlobal settings given s (.module m) n = true
      ↔ (c.qualifies settings given s (.module m) n (.fresh (.module m))).1 = .ok true := by
  unfold isGlobal examine
  rcases c.qualifies settings given s (.module m) n (.fresh (.module m)) with ⟨r, t⟩
  cases r with
  | error e => exact iff_of_false Bool.false_ne_true nofun
  | ok b => exact (Except.ok.injEq b true).symm ▸ Iff.rfl

/-- a name is a global variable when it is bound to a plain value, its binding is of the constness that
is wanted and its value of the mutability -/
theorem isGlobal_iff_passes (given : Option BindingLookup) (s : Selection) (n : String) :
    c.isGlobal settings given s (.module m) n = true
      ↔ ∃ v, c.plainValue settings (.module m) n = .ok (some v)
        ∧ (c.passesConstness given (.module m) n s.constness (.fresh (.module m))).1 = .ok true
        ∧ passesMutability c.hierarchy v s.mutability = .ok true := by
  rw [isGlobal_eq_true_iff]
  unfold qualifies
  rw [Acting.bind_apply, Acting.liftExcept_apply]
  cases hplain : c.plainValue settings (.module m) n with
  | error e => exact iff_of_false nofun fun ⟨_, h, _⟩ => nomatch h
  | ok o =>
    cases o with
    | none => exact iff_of_false nofun fun ⟨_, h, _⟩ => nomatch h
    | some v =>
      dsimp only
      rw [Acting.bind_apply]
      rcases c.passesConstness given (.module m) n s.constness (.fresh (.module m)) with ⟨r, t⟩
      rcases r with e | _ | _
      · exact iff_of_false nofun fun ⟨_, _, h, _⟩ => nomatch h
      · exact iff_of_false nofun fun ⟨_, _, h, _⟩ => nomatch h
      · show ((liftM (passesMutability c.hierarchy v s.mutability) :
          Acting ModuleBindings Bool) t).1 = .ok true ↔ _
        rw [Acting.liftExcept_apply]
        constructor
        · exact fun h => ⟨v, rfl, rfl, h⟩
        · rintro ⟨w, hw, -, h⟩
          -- another value than the one that was found cannot be meant
          obtain rfl := Option.some.inj (Except.ok.inj hw)
          exact h

/-- a name is a global variable when it is bound to a plain value and both filters let it pass -/
theorem isGlobal_iff (s : Selection) (n : String) :
    c.isGlobal settings none s (.module m) n = true
      ↔ ∃ v, c.plainValue settings (.module m) n = .ok (some v) ∧ c.Admits m s.constness n
        ∧ passesMutability c.hierarchy v s.mutability = .ok true := by
  rw [isGlobal_iff_passes]
  refine exists_congr fun v => and_congr_right fun hplain => and_congr_left' ?_
  exact c.passesConstness_eq_true_iff m ((c.plainValue_eq_some_iff settings m n v).mp hplain).2.1 _

/-! ## One filter after the other -/

theorem isGlobal_both (k : Constness) (t : Mutability) (n : String) :
    c.isGlobal settings none ⟨k, t⟩ (.module m) n
      = (c.isGlobal settings none ⟨k, .all⟩ (.module m) n
        && c.isGlobal settings none ⟨.all, t⟩ (.module m) n) := by
  rw [Bool.eq_iff_iff, Bool.and_eq_true, isGlobal_iff, isGlobal_iff, isGlobal_iff]
  constructor
  · rintro ⟨v, hv, hadmits, hpasses⟩
    exact ⟨⟨v, hv, hadmits, rfl⟩, v, hv, .inl rfl, hpasses⟩
  · rintro ⟨⟨v, hv, hadmits, -⟩, w, hw, -, hpasses⟩
    obtain rfl := Option.some.inj (Except.ok.inj (hv.symm.trans hw))
    exact ⟨v, hv, hadmits, hpasses⟩

/-- one of the two filters on constness admits a name, when the final names are known -/
theorem admits_nonconst_iff {finals : List Value}
    (h : c.finalNames (.module m) = .ok (some finals)) (n : String) :
    c.Admits m .nonconst n ↔ ¬ c.Admits m .const n := by
  unfold Admits
  rw [or_iff_right nofun, or_iff_right nofun, h]
  constructor
  · rintro ⟨fs, hfs, hnot⟩ ⟨fs', hfs', hconst⟩
    obtain rfl := Option.some.inj (Except.ok.inj (hfs.symm.trans hfs'))
    have hother : (!fs.contains (.str n)) = true := hnot
    have hone : fs.contains (.str n) = true := hconst
    rw [hone] at hother
    exact Bool.false_ne_true hother
  · intro hnot
    refine ⟨finals, rfl, ?_⟩
    show (!finals.contains (.str n)) = true
    rw [Bool.not_eq_true', Bool.eq_false_iff]
    exact fun hconst => hnot ⟨finals, rfl, hconst⟩

/-- an asked filter admits no name, when the final names are not known -/
theorem not_admits (h : ¬ ∃ finals, c.finalNames (.module m) = .ok (some finals)) {k : Constness}
    (hk : k ≠ .all) (n : String) : ¬ c.Admits m k n := by
  rintro (hall | ⟨finals, hfinals, -⟩)
  · exact hk hall
  · exact h ⟨finals, hfinals⟩

theorem passesMutability_immutable (h : Hierarchy) (v : Value) :
    passesMutability h v .immutable = .ok true ↔ v.isImmutable h = .ok true := by
  unfold passesMutability
  cases v.isImmutable h with
  | error e => exact iff_of_false nofun nofun
  | ok b => cases b <;> exact Iff.rfl

theorem passesMutability_mutable (h : Hierarchy) (v : Value) :
    passesMutability h v .mutable = .ok true ↔ v.isImmutable h = .ok false := by
  unfold passesMutability
  cases v.isImmutable h with
  | error e => exact iff_of_false nofun nofun
  | ok b => cases b <;> exact iff_of_eq (by simp [Except.map, Mutability.admits])

/-- the value of a name does not tell whether it can change -/
def Unclear (n : String) : Prop :=
  ∃ v e, Value.lookup (.str n) (c.module m).bindings = some v
    ∧ v.isImmutable c.hierarchy = .error e

/-! ## Selections of a module -/

/-- how the selections of a module are made up of each other -/
structure Partitioned (names : Selection → List String) : Prop where
  /-- both filters together keep what each of them keeps -/
  both : ∀ k t, names ⟨k, t⟩ = (names ⟨k, .all⟩).filter (· ∈ names ⟨.all, t⟩)
  /-- what is selected without asking for constness has nothing to do with the final names -/
  unasked : ∀ t n, n ∈ names ⟨.all, t⟩ ↔ ∃ v, c.plainValue settings (.module m) n = .ok (some v)
    ∧ passesMutability c.hierarchy v t = .ok true
  known : (∃ finals, c.finalNames (.module m) = .ok (some finals)) → ∀ t,
    (names ⟨.const, t⟩).Disjoint (names ⟨.nonconst, t⟩)
      ∧ ∀ n, n ∈ names ⟨.all, t⟩ ↔ n ∈ names ⟨.const, t⟩ ∨ n ∈ names ⟨.nonconst, t⟩
  unknown : (¬ ∃ finals, c.finalNames (.module m) = .ok (some finals)) → ∀ t,
    names ⟨.const, t⟩ = [] ∧ names ⟨.nonconst, t⟩ = []
  mutability : ∀ k, (names ⟨k, .mutable⟩).Disjoint (names ⟨k, .immutable⟩)
    ∧ ∀ n, n ∈ names ⟨k, .mutable⟩ ∨ n ∈ names ⟨k, .immutable⟩
      ↔ n ∈ names ⟨k, .all⟩ ∧ ¬ c.Unclear m n

/-- all selections of a module are told, and they are made up of each other -/
def Selects : Prop :=
  ∃ names : Selection → List String,
    (∀ s, c.globalNames settings none s (.module m) = .ok (names s))
      ∧ c.Partitioned settings m names

/-- lists that hold just the global variables, each in the same order, are made up of each other -/
theorem partitioned_of_filter {bound : List String}
    (hbound : ∀ n v, Value.lookup (.str n) (c.module m).bindings = some v → n ∈ bound) :
    c.Partitioned settings m fun s => bound.filter (c.isGlobal settings none s (.module m)) := by
  have hmem : ∀ s n, n ∈ bound.filter (c.isGlobal settings none s (.module m))
      ↔ ∃ v, c.plainValue settings (.module m) n = .ok (some v) ∧ c.Admits m s.constness n
        ∧ passesMutability c.hierarchy v s.mutability = .ok true := by
    intro s n
    rw [List.mem_filter, isGlobal_iff]
    refine and_iff_right_of_imp fun ⟨v, hv, _⟩ => ?_
    exact hbound n v ((c.plainValue_eq_some_iff settings m n v).mp hv).2.1
  -- a name has one value only
  have hvalue : ∀ {n v w}, c.plainValue settings (.module m) n = .ok (some v) →
      c.plainValue settings (.module m) n = .ok (some w) → v = w := fun hv hw =>
    Option.some.inj (Except.ok.inj (hv.symm.trans hw))
  refine ⟨fun k t => ?_, fun t n => ?_, ?_, fun hunknown t => ⟨?_, ?_⟩, fun k => ⟨?_, fun n => ?_⟩⟩
  · rw [List.filter_filter]
    refine List.filter_congr fun n hn => ?_
    rw [isGlobal_both, Bool.and_comm, Bool.eq_iff_iff, Bool.and_eq_true, Bool.and_eq_true,
      decide_eq_true_iff, List.mem_filter]
    exact and_congr_left' (and_iff_right hn).symm
  · rw [hmem]
    exact exists_congr fun v => and_congr_right fun _ => and_iff_right (.inl rfl)
  · rintro ⟨finals, hfinals⟩ t
    have hnonconst := c.admits_nonconst_iff m hfinals
    refine ⟨fun n hconst hnot => ?_, fun n => ?_⟩
    · obtain ⟨-, -, hadmits, -⟩ := (hmem _ _).mp hconst
      obtain ⟨-, -, hother, -⟩ := (hmem _ _).mp hnot
      exact (hnonconst n).mp hother hadmits
    · rw [hmem, hmem, hmem]
      constructor
      · rintro ⟨v, hv, -, hpasses⟩
        by_cases hconst : c.Admits m .const n
        · exact .inl ⟨v, hv, hconst, hpasses⟩
        · exact .inr ⟨v, hv, (hnonconst n).mpr hconst, hpasses⟩
      · rintro (⟨v, hv, -, hpasses⟩ | ⟨v, hv, -, hpasses⟩)
        · exact ⟨v, hv, .inl rfl, hpasses⟩
        · exact ⟨v, hv, .inl rfl, hpasses⟩
  · refine List.eq_nil_iff_forall_not_mem.mpr fun n hn => ?_
    obtain ⟨v, hv, hadmits, hpasses⟩ := (hmem ⟨.const, t⟩ n).mp hn
    exact c.not_admits m hunknown (k := .const) nofun n hadmits
  · refine List.eq_nil_iff_forall_not_mem.mpr fun n hn => ?_
    obtain ⟨v, hv, hadmits, hpasses⟩ := (hmem ⟨.nonconst, t⟩ n).mp hn
    exact c.not_admits m hunknown (k := .nonconst) nofun n hadmits
  · intro n hmutable himmutable
    obtain ⟨v, hv, -, hpasses⟩ := (hmem _ _).mp hmutable
    obtain ⟨w, hw, -, hpasses'⟩ := (hmem _ _).mp himmutable
    obtain rfl := hvalue hv hw
    rw [passesMutability_mutable] at hpasses
    rw [passesMutability_immutable] at hpasses'
    exact Bool.false_ne_true (Except.ok.inj (hpasses.symm.trans hpasses'))
  · rw [hmem, hmem, hmem]
    constructor
    · rintro (⟨v, hv, hadmits, hpasses⟩ | ⟨v, hv, hadmits, hpasses⟩)
      all_goals
        refine ⟨⟨v, hv, hadmits, rfl⟩, ?_⟩
        rintro ⟨w, e, hw, herror⟩
        obtain rfl := Option.some.inj
          (((c.plainValue_eq_some_iff settings m n v).mp hv).2.1.symm.trans hw)
      · exact nomatch herror.symm.trans ((passesMutability_mutable _ _).mp hpasses)
      · exact nomatch herror.symm.trans ((passesMutability_immutable _ _).mp hpasses)
    · rintro ⟨⟨v, hv, hadmits, -⟩, hclear⟩
      have hlookup := ((c.plainValue_eq_some_iff settings m n v).mp hv).2.1
      cases himmutable : v.isImmutable c.hierarchy with
      | error e => exact absurd ⟨v, e, hlookup, himmutable⟩ hclear
      | ok b =>
        cases b with
        | false => exact .inl ⟨v, hv, hadmits, (passesMutability_mutable _ _).mpr himmutable⟩
        | true => exact .inr ⟨v, hv, hadmits, (passesMutability_immutable _ _).mpr himmutable⟩

/-- the selections of a module are made up of each other, unless its names cannot be put in order -/
theorem selections_cases :
    (∃ e, c.Unlistable m e ∧ ∀ s, c.globalNames settings none s (.module m) = .error e)
      ∨ c.Listable m ∧ c.Selects settings m := by
  rcases c.listable_or_unlistable m with ⟨es, hes⟩ | ⟨e, he⟩
  · have hparts := c.partitioned_of_filter settings m fun n v hv =>
      (Bindings.mem_names_inOrder (h := c.hierarchy) hes).mpr ⟨v, hv⟩
    exact .inr ⟨⟨es, hes⟩, _, fun s => c.globalNames_of_entries settings none s hes, hparts⟩
  · exact .inl ⟨e, he, fun s => c.globalNames_of_unlistable settings none s he⟩

/-- a key that is no text keeps the selections of a module with a name from being told -/
theorem selections_moduleWith :
    ¬ (moduleWith [(.str "x", .int 1), (.int 1, .int 2)]).Selects {} 0 := by
  rintro ⟨names, hnames, -⟩
  exact nomatch hnames {}

end Catalog

end Introspect
