import Introspect.Proofs.Arrays
import Introspect.Proofs.Modules.Selections

/-!
# Enumerations and names that cannot be examined

The global variables of a module are told whatever its names are bound to: a name whose examination
fails is none of them, and it makes no difference to the others.  The functions of a module are
examined without that care, so that a single value that refuses to be examined keeps all of them from
being told.

* `Catalog.Told`             the names that an enumeration keeps, with their values;
* `Catalog.NamesFunction`, `Catalog.NamesRefusing`  what the names of functions are, and what keeps
                             them from being told;
* `passing`                  the elements that pass a test, unless there is one that cannot be tested;
* `Catalog.TellsFunctions`   what an enumeration of the functions of a module comes to;
* `Catalog.functionNames_of_textKeys`  it tells them when the keys are texts and no value refuses;
* `Catalog.finalNames_congr` the final names depend on annotations and source alone;
* `Catalog.without`          a module with one name less;
* `Catalog.qualified_without`  the other names are examined as before;
* `Catalog.Enumerates`       how the enumerations of a module end;
* `Catalog.enumerations_cases`   they end like that, when the names of the module can be put in order;
* `Catalog.enumerations_withCallable`  a function that is not told.
-/

namespace Introspect

/-! ## Tests that may fail -/

section
variable {α : Type} {p : α → Except Fault Bool} {x : α} {xs : List α}

/-- the elements that pass a test; one that cannot be tested keeps all from being told -/
def passing (p : α → Except Fault Bool) (xs : List α) : Except Fault (List α) :=
  xs.filterMapM fun x => return if ← p x then some x else none

theorem passing_cons_of_error {e : Fault} (h : p x = .error e) :
    passing p (x :: xs) = .error e := by
  unfold passing
  rw [List.filterMapM_cons, h]
  rfl

theorem passing_cons_of_ok {b : Bool} (h : p x = .ok b) :
    passing p (x :: xs) = (passing p xs).map fun ys => if b then x :: ys else ys := by
  unfold passing
  rw [List.filterMapM_cons, h]
  cases b with
  | false =>
    show (xs.filterMapM fun x => return if ← p x then some x else none) = _
    cases xs.filterMapM fun x => (return if ← p x then some x else none : Except Fault (Option α)) <;>
      rfl
  | true =>
    show (xs.filterMapM fun x => return if ← p x then some x else none) >>= (fun ys => .ok (x :: ys))
      = _
    cases xs.filterMapM fun x => (return if ← p x then some x else none : Except Fault (Option α)) <;>
      rfl

/-- the elements that pass are told, unless there is one that cannot be tested -/
theorem passing_cases {e : Fault} (h : ∀ x ∈ xs, p x = .error e ∨ ∃ b, p x = .ok b) :
    (∃ x ∈ xs, p x = .error e) ∧ passing p xs = .error e
      ∨ (∀ x ∈ xs, ∃ b, p x = .ok b)
        ∧ ∃ ys, passing p xs = .ok ys ∧ ys.Sublist xs ∧ ∀ y, y ∈ ys ↔ y ∈ xs ∧ p y = .ok true := by
  induction xs with
  | nil => exact .inr ⟨nofun, [], rfl, List.Sublist.refl [], fun y => by simp⟩
  | cons x xs ih =>
    obtain ⟨herror | ⟨b, hb⟩, hxs⟩ := List.forall_mem_cons.mp h
    · exact .inl ⟨⟨x, List.mem_cons_self, herror⟩, passing_cons_of_error herror⟩
    · rw [passing_cons_of_ok hb]
      rcases ih hxs with ⟨⟨y, hy, herror⟩, hfailed⟩ | ⟨hall, ys, hys, hsub, hmem⟩
      · rw [hfailed]
        exact .inl ⟨⟨y, List.mem_cons_of_mem x hy, herror⟩, rfl⟩
      · rw [hys]
        refine .inr ⟨List.forall_mem_cons.mpr ⟨⟨b, hb⟩, hall⟩, _, rfl, ?_⟩
        cases b with
        | false =>
          refine ⟨hsub.cons x, fun y => ?_⟩
          show y ∈ ys ↔ _
          rw [hmem, List.mem_cons]
          refine and_congr_left fun hy => (or_iff_right ?_).symm
          rintro rfl
          exact nomatch hb.symm.trans hy
        | true =>
          refine ⟨hsub.cons_cons x, fun y => ?_⟩
          show y ∈ x :: ys ↔ _
          rw [List.mem_cons, List.mem_cons, hmem, or_and_right]
          refine or_congr_left (and_iff_left_of_imp ?_).symm
          rintro rfl
          exact hb

end

namespace Catalog

variable (c : Catalog) (settings : Settings) (m : Nat)

/-- an enumeration of a module tells, in strict order, just the names that it should keep, and the
value of each of them is told -/
def Told (listing : Except Fault (List String)) (kept : String → Prop) : Prop :=
  ∃ names values, listing = .ok names ∧ names.Pairwise (· < ·) ∧ (∀ n, n ∈ names ↔ kept n)
    ∧ c.valuesOf (.module m) names = .ok values
    ∧ List.Forall₂ (fun n v => Value.lookup (.str n) (c.module m).bindings = some v) names values

/-- the values of names that are bound are told -/
theorem valuesOf_bound {names : List String}
    (h : ∀ n ∈ names, ∃ v, Value.lookup (.str n) (c.module m).bindings = some v) :
    ∃ values, c.valuesOf (.module m) names = .ok values
      ∧ List.Forall₂ (fun n v => Value.lookup (.str n) (c.module m).bindings = some v)
        names values := by
  refine ⟨names.filterMap fun n => Value.lookup (.str n) (c.module m).bindings, rfl, ?_⟩
  induction names with
  | nil => exact .nil
  | cons n names ih =>
    obtain ⟨⟨v, hv⟩, hnames⟩ := List.forall_mem_cons.mp h
    rw [List.filterMap_cons, hv]
    exact .cons hv (ih hnames)

/-! ## Global variables -/

/-- the examination of a name by itself comes to an end, and says that it is a global variable -/
def Qualified (given : Option BindingLookup) (s : Selection) (n : String) : Prop :=
  (c.qualifies settings given s (.module m) n (.fresh (.module m))).1 = .ok true

/-- the global variables of a module are told: a name whose examination fails is none of them -/
theorem globalNames_told (hkeyed : Bindings.Keyed (c.module m).bindings) (hlist : c.Listable m)
    (given : Option BindingLookup) (s : Selection) :
    c.Told m (c.globalNames settings given s (.module m)) (c.Qualified settings m given s) := by
  obtain ⟨-, names, hnames, hstrict, hmem⟩ :=
    (c.globalNames_cases settings given s hkeyed).resolve_left fun ⟨_, he, _⟩ =>
      he.not_listable hlist
  obtain ⟨values, hvalues, hall⟩ := c.valuesOf_bound m fun n hn => ((hmem n).mp hn).1
  refine ⟨names, values, hnames, hstrict, fun n => ?_, hvalues, hall⟩
  rw [hmem, Qualified, ← isGlobal_eq_true_iff]
  refine and_iff_right_of_imp fun h => ?_
  obtain ⟨v, hv, -⟩ := (c.isGlobal_iff_passes settings m given s n).mp h
  exact ⟨v, ((c.plainValue_eq_some_iff settings m n v).mp hv).2.1⟩

/-! ## Functions -/

/-- a name that is not internal is bound to something that can be called, other than a class -/
def NamesFunction (n : String) : Prop :=
  settings.isInternal n = false ∧ ∃ v, Value.lookup (.str n) (c.module m).bindings = some v
    ∧ v.bindingKind c.hierarchy = .ok .callable

/-- a name that is not internal is bound to a value that refuses to be examined -/
def NamesRefusing (n : String) : Prop :=
  settings.isInternal n = false ∧ ∃ v, Value.lookup (.str n) (c.module m).bindings = some v
    ∧ v.bindingKind c.hierarchy = .error .refused

theorem bindingKind_cases (h : Hierarchy) (v : Value) :
    v.bindingKind h = .error .refused ∨ ∃ k, v.bindingKind h = .ok k := by
  unfold Value.bindingKind
  split
  · exact .inl rfl
  · refine .inr ?_
    split
    · exact ⟨_, rfl⟩
    · split
      · exact ⟨_, rfl⟩
      · split <;> exact ⟨_, rfl⟩

theorem isFunction_eq_refused_iff (n : String) (v : Value) :
    c.isFunction settings (.str n, v) = .error .refused
      ↔ settings.isInternal n = false ∧ v.bindingKind c.hierarchy = .error .refused := by
  unfold isFunction
  dsimp only
  by_cases hinternal : settings.isInternal n = true
  · rw [if_pos hinternal, hinternal]
    exact iff_of_false nofun nofun
  · rw [if_neg hinternal, and_iff_right (Bool.eq_false_iff.mpr hinternal)]
    cases v.bindingKind c.hierarchy with
    | error e =>
      show Except.error e = Except.error Fault.refused ↔ _
      rw [Except.error.injEq, Except.error.injEq]
    | ok k => exact iff_of_false nofun nofun

theorem isFunction_eq_true_iff (n : String) (v : Value) :
    c.isFunction settings (.str n, v) = .ok true
      ↔ settings.isInternal n = false ∧ v.bindingKind c.hierarchy = .ok .callable := by
  unfold isFunction
  dsimp only
  by_cases hinternal : settings.isInternal n = true
  · rw [if_pos hinternal, hinternal]
    exact iff_of_false nofun nofun
  · rw [if_neg hinternal, and_iff_right (Bool.eq_false_iff.mpr hinternal)]
    cases v.bindingKind c.hierarchy with
    | error e => exact iff_of_false nofun nofun
    | ok k =>
      show Except.ok (k == .callable) = Except.ok true ↔ _
      rw [Except.ok.injEq, Except.ok.injEq, beq_iff_eq]

/-- an entry under a text is examined to the end, unless its value refuses that -/
theorem isFunction_str (n : String) (v : Value) :
    c.isFunction settings (.str n, v) = .error .refused
      ∨ ∃ b, c.isFunction settings (.str n, v) = .ok b := by
  unfold isFunction
  dsimp only
  split
  · exact .inr ⟨false, rfl⟩
  · rcases bindingKind_cases c.hierarchy v with hrefused | ⟨k, hk⟩
    · rw [hrefused]
      exact .inl rfl
    · rw [hk]
      exact .inr ⟨_, rfl⟩

theorem functionNames_eq {es : Bindings} (hes : c.entriesOf (.module m) = .ok es) :
    c.functionNames settings (.module m)
      = (passing (c.isFunction settings) es).map Bindings.names := by
  show (c.entriesOf (.module m) >>= fun es => passing (c.isFunction settings) es >>= _) = _
  rw [hes]
  rfl

/-- the functions of a module whose keys are texts are told, unless one of its names is bound to a
value that refuses to be examined -/
theorem functionNames_of_textKeys {es : Bindings} (hkeyed : Bindings.Keyed (c.module m).bindings)
    (hes : c.entriesOf (.module m) = .ok es) (htexts : Bindings.TextKeys es) :
    (∃ n, c.NamesRefusing settings m n) ∧ c.functionNames settings (.module m) = .error .refused
      ∨ (¬ ∃ n, c.NamesRefusing settings m n)
        ∧ c.Told m (c.functionNames settings (.module m)) (c.NamesFunction settings m) := by
  have hbound : ∀ n v, (.str n, v) ∈ es ↔
      Value.lookup (.str n) (c.module m).bindings = some v := fun n v => by
    rw [(c.perm_entriesOf hes).mem_iff, Bindings.lookup_eq_some_iff hkeyed]
  have hends : ∀ e ∈ es, c.isFunction settings e = .error .refused
      ∨ ∃ b, c.isFunction settings e = .ok b := by
    rintro ⟨key, v⟩ he
    obtain ⟨n, rfl⟩ := htexts _ he
    exact c.isFunction_str settings n v
  rw [c.functionNames_eq settings m hes]
  rcases passing_cases hends with ⟨⟨⟨key, v⟩, he, herror⟩, hfailed⟩ | ⟨hall, kept, hok, hsub, hkept⟩
  · obtain ⟨n, rfl⟩ := htexts _ he
    obtain ⟨hinternal, hrefused⟩ := (c.isFunction_eq_refused_iff settings n v).mp herror
    rw [hfailed]
    exact .inl ⟨⟨n, hinternal, v, (hbound n v).mp he, hrefused⟩, rfl⟩
  · have hfunction : ∀ n, n ∈ Bindings.names kept ↔ c.NamesFunction settings m n := by
      intro n
      simp only [Bindings.mem_names_iff, hkept, hbound, isFunction_eq_true_iff]
      exact ⟨fun ⟨v, hv, hinternal, hcallable⟩ => ⟨hinternal, v, hv, hcallable⟩,
        fun ⟨hinternal, v, hv, hcallable⟩ => ⟨v, hv, hinternal, hcallable⟩⟩
    obtain ⟨values, hvalues, hforall⟩ := c.valuesOf_bound m fun n hn =>
      ((hfunction n).mp hn).2.imp fun _ hv => hv.1
    have hstrict : (Bindings.names kept).Pairwise (· < ·) :=
      (Bindings.names_strict (h := c.hierarchy) hkeyed hes).sublist (hsub.filterMap _)
    rw [hok]
    refine .inr ⟨?_, _, values, rfl, hstrict, hfunction, hvalues, hforall⟩
    rintro ⟨n, hinternal, v, hv, hrefused⟩
    obtain ⟨b, hb⟩ := hall _ ((hbound n v).mpr hv)
    exact nomatch ((c.isFunction_eq_refused_iff settings n v).mpr ⟨hinternal, hrefused⟩).symm.trans hb

/-- how the functions of a module are told: a key that is no text keeps them from being told, and so
does a name that is bound to a value that refuses to be examined -/
def TellsFunctions : Prop :=
  (∃ e ∈ (c.module m).bindings, (∀ n, e.1 ≠ .str n)
      ∧ c.functionNames settings (.module m) = .error (c.notText e.1))
    ∨ Bindings.TextKeys (c.module m).bindings
      ∧ ((∃ n, c.NamesRefusing settings m n)
          ∧ c.functionNames settings (.module m) = .error .refused
        ∨ (¬ ∃ n, c.NamesRefusing settings m n)
          ∧ c.Told m (c.functionNames settings (.module m)) (c.NamesFunction settings m))

theorem functionNames_cases (hkeyed : Bindings.Keyed (c.module m).bindings)
    (hlist : c.Listable m) : c.TellsFunctions settings m := by
  obtain ⟨es, hes⟩ := hlist
  have hperm := c.perm_entriesOf hes
  have hends : Bindings.TextKeys es → c.TellsFunctions settings m := fun htexts =>
    .inr ⟨fun e he => htexts e (hperm.mem_iff.mpr he),
      c.functionNames_of_textKeys settings m hkeyed hes htexts⟩
  rcases Bindings.textKeys_or_noTextKeys hes with htexts | hnone
  · exact hends fun e he => htexts e (hperm.mem_iff.mp he)
  · cases es with
    | nil => exact hends nofun
    | cons e es =>
      -- the first key is no text
      obtain ⟨key, v⟩ := e
      have hmem : (key, v) ∈ (c.module m).bindings := hperm.mem_iff.mp List.mem_cons_self
      have hkey : ∀ n, key ≠ .str n := fun n hn => hnone _ hmem ⟨n, hn⟩
      have hfirst : c.isFunction settings (key, v) = .error (c.notText key) := by
        unfold isFunction
        split
        · next n hn => exact absurd hn (hkey n)
        · rfl
      refine .inl ⟨_, hmem, hkey, ?_⟩
      rw [c.functionNames_eq settings m hes, passing_cons_of_error hfirst]
      rfl

/-! ## Declarations of a module -/

section

variable {c c' : Catalog} {m : Nat}

/-- results that are the same up to their faults -/
theorem toOption_eq_cases {α : Type} {r r' : Except Fault α} (h : r'.toOption = r.toOption) :
    (∃ a, r = .ok a ∧ r' = .ok a) ∨ ∃ e e', r = .error e ∧ r' = .error e' := by
  cases r with
  | error e =>
    cases r' with
    | error e' => exact .inr ⟨e, e', rfl, rfl⟩
    | ok a => exact nomatch h
  | ok a =>
    cases r' with
    | error e' => exact nomatch h
    | ok a' => exact .inl ⟨a, rfl, congrArg Except.ok (Option.some.inj h)⟩

/-- the final names are a matter of what can be read of the annotations and of the source -/
theorem finalNames_congr (hierarchy : c'.hierarchy = c.hierarchy)
    (characters : c'.characters = c.characters)
    (hannotations : (c'.annotations (.module m)).toOption = (c.annotations (.module m)).toOption)
    (hsource : (c'.source (.module m)).toOption = (c.source (.module m)).toOption) :
    c'.finalNames (.module m) = c.finalNames (.module m) := by
  have hfallback : c'.finalNamesInSource (.module m) = c.finalNamesInSource (.module m) := by
    unfold finalNamesInSource
    rcases toOption_eq_cases hsource with ⟨text, hs, hs'⟩ | ⟨e, e', hs, hs'⟩
    · rw [hs, hs', characters]
    · rw [hs, hs']
  unfold finalNames
  rcases toOption_eq_cases hannotations with ⟨entries, ha, ha'⟩ | ⟨e, e', ha, ha'⟩
  · rw [ha, ha', hierarchy]
  · rw [ha, ha']
    exact hfallback

theorem annotations_toOption_congr (hierarchy : c'.hierarchy = c.hierarchy)
    (h : (c'.module m).get? "__annotations__" = (c.module m).get? "__annotations__") :
    (c'.annotations (.module m)).toOption = (c.annotations (.module m)).toOption := by
  unfold annotations
  dsimp only
  rw [h, hierarchy]
  split
  · rfl
  · rfl
  · rfl
  · split <;> rfl

theorem source_toOption_congr (hierarchy : c'.hierarchy = c.hierarchy)
    (hfile : (c'.module m).get? "__file__" = (c.module m).get? "__file__")
    (htext : (c'.module m).source = (c.module m).source) :
    (c'.source (.module m)).toOption = (c.source (.module m)).toOption := by
  unfold source
  dsimp only
  rw [hfile, htext, hierarchy]
  split
  · rfl
  · split
    · rfl
    · split <;> rfl

end

/-! ## One name less -/

/-- the catalog with a name of a module no longer bound -/
def without (x : String) : Catalog := { c with modules := c.modules.modify m (·.unbind x) }

variable {n x : String}

theorem get?_unbind (hne : n ≠ x) (md : Module) : (md.unbind x).get? n = md.get? n := by
  unfold Module.get? Module.unbind Value.lookup
  have htest : ∀ e : Value × Value,
      decide ((!(e.1 == .str x)) = true ∧ (e.1 == .str n) = true) = (e.1 == .str n) := by
    intro e
    rw [Bool.eq_iff_iff, decide_eq_true_iff]
    refine and_iff_right_of_imp fun hkey => ?_
    rw [(Value.beq_str_iff _ _).mp hkey, Bool.not_eq_true', Bool.eq_false_iff, ne_eq,
      Value.beq_str_iff, Value.str.injEq]
    exact hne
  rw [List.find?_filter, funext htest]

theorem get?_without (hne : n ≠ x) : ((c.without m x).module m).get? n = (c.module m).get? n :=
  apply_getD_modify (·.get? n) (get?_unbind hne) c.modules default m m

theorem finalNames_without (hannotations : x ≠ "__annotations__") (hfile : x ≠ "__file__") :
    (c.without m x).finalNames (.module m) = c.finalNames (.module m) := by
  have htext : ((c.without m x).module m).source = (c.module m).source :=
    apply_getD_modify (f := (Module.unbind · x)) Module.source (fun _ => rfl) c.modules default m m
  exact finalNames_congr rfl rfl
    (annotations_toOption_congr rfl (c.get?_without m hannotations.symm))
    (source_toOption_congr rfl (c.get?_without m hfile.symm) htext)

theorem lookup_without (hne : n ≠ x) :
    Value.lookup (.str n) ((c.without m x).module m).bindings
      = Value.lookup (.str n) (c.module m).bindings := c.get?_without m hne

theorem plainValue_without (hne : n ≠ x) (v : Value) :
    (c.without m x).plainValue settings (.module m) n = .ok (some v)
      ↔ c.plainValue settings (.module m) n = .ok (some v) := by
  rw [plainValue_eq_some_iff, plainValue_eq_some_iff, c.lookup_without m hne]
  exact Iff.rfl

theorem namesFunction_without (hne : n ≠ x) :
    (c.without m x).NamesFunction settings m n ↔ c.NamesFunction settings m n := by
  unfold NamesFunction
  rw [c.lookup_without m hne]
  exact Iff.rfl

/-- a lookup asked about another name tells the same, unless it reads the final names of the module and
they depend on what is gone -/
theorem passesConstness_without (hne : n ≠ x) {given : Option BindingLookup} {k : Constness}
    {v : Value} (hbound : Value.lookup (.str n) (c.module m).bindings = some v)
    (h : given.isSome ∨ k = .all ∨ x ≠ "__annotations__" ∧ x ≠ "__file__") :
    ((c.without m x).passesConstness given (.module m) n k (.fresh (.module m))).1 = .ok true
      ↔ (c.passesConstness given (.module m) n k (.fresh (.module m))).1 = .ok true := by
  cases given with
  | some lookup => cases k <;> exact Iff.rfl
  | none =>
    rw [(c.without m x).passesConstness_eq_true_iff m ((c.get?_without m hne).trans hbound),
      c.passesConstness_eq_true_iff m hbound]
    rcases h with hgiven | rfl | ⟨hannotations, hfile⟩
    · exact nomatch hgiven
    · exact iff_of_true (.inl rfl) (.inl rfl)
    · unfold Admits
      rw [c.finalNames_without m hannotations hfile]

/-- other names are examined as before -/
theorem qualified_without (hne : n ≠ x) {given : Option BindingLookup} {s : Selection}
    (h : given.isSome ∨ s.constness = .all ∨ x ≠ "__annotations__" ∧ x ≠ "__file__") :
    (c.without m x).Qualified settings m given s n ↔ c.Qualified settings m given s n := by
  unfold Qualified
  rw [← isGlobal_eq_true_iff, ← isGlobal_eq_true_iff, isGlobal_iff_passes, isGlobal_iff_passes]
  refine exists_congr fun v => ?_
  rw [c.plainValue_without settings m hne]
  refine and_congr_right fun hplain => and_congr_left' ?_
  exact c.passesConstness_without m hne ((c.plainValue_eq_some_iff settings m n v).mp hplain).2.1 h

/-! ## All enumerations of a module -/

/-- how the enumerations of a module end, and what a name has to do with the others -/
structure Enumerates (given : Option BindingLookup) : Prop where
  globals : ∀ s,
    c.Told m (c.globalNames settings given s (.module m)) (c.Qualified settings m given s)
  functions : c.TellsFunctions settings m
  /-- it makes no difference whether another name is bound, unless that name says where the final
  names are to be read and a filter asks for them -/
  globalAlone : ∀ n x s, n ≠ x → given.isSome ∨ s.constness = .all
      ∨ x ≠ "__annotations__" ∧ x ≠ "__file__" →
    ((c.without m x).Qualified settings m given s n ↔ c.Qualified settings m given s n)
  functionAlone : ∀ n x, n ≠ x →
    ((c.without m x).NamesFunction settings m n ↔ c.NamesFunction settings m n)

/-- the names of a module cannot be put in order, or its global variables are told, and its functions
unless a value refuses to be examined -/
theorem enumerations_cases (given : Option BindingLookup)
    (hkeyed : Bindings.Keyed (c.module m).bindings) :
    (∃ e, c.Unlistable m e
        ∧ (∀ s, c.globalNames settings given s (.module m) = .error e)
        ∧ c.functionNames settings (.module m) = .error e)
      ∨ c.Listable m ∧ c.Enumerates settings m given := by
  rcases c.listable_or_unlistable m with hlist | ⟨e, he⟩
  · exact .inr ⟨hlist, {
      globals := c.globalNames_told settings m hkeyed hlist given
      functions := c.functionNames_cases settings m hkeyed hlist
      globalAlone := fun _ _ _ hne h => c.qualified_without settings m hne h
      functionAlone := fun _ _ hne => c.namesFunction_without settings m hne }⟩
  · exact .inl ⟨e, he, fun s => c.globalNames_of_unlistable settings given s he,
      congrArg (· >>= _) he⟩

/-- a module with a function beside a value that refuses to be examined -/
def withCallable : Catalog where
  view :=
    { (moduleWith []).view with
      hierarchy := (moduleWith []).hierarchy.extend
        (blueprint "Callable" "pkg" [.object] false { callable := true }) }
  modules := #[{ bindings := [(.str "f", .instanceOf ⟨2⟩ 0), (.str "odd", refusing)] }]

/-- the function is not told -/
theorem enumerations_withCallable :
    Bindings.Keyed (withCallable.module 0).bindings ∧ withCallable.NamesFunction {} 0 "f"
      ∧ withCallable.functionNames {} (.module 0) = .error .refused := by
  have hkeyed : Bindings.Keyed (withCallable.module 0).bindings := by
    refine List.pairwise_cons.mpr ⟨fun e he => ?_, List.pairwise_singleton _ _⟩
    obtain rfl := List.mem_singleton.mp he
    decide +kernel
  have hrefusing : withCallable.NamesRefusing {} 0 "odd" :=
    ⟨by decide +kernel, refusing, rfl, rfl⟩
  have hfunction : withCallable.NamesFunction {} 0 "f" :=
    ⟨by decide +kernel, .instanceOf ⟨2⟩ 0, rfl, rfl⟩
  refine ⟨hkeyed, hfunction, ?_⟩
  rcases withCallable.enumerations_cases {} 0 none hkeyed with ⟨e, he, -⟩ | ⟨-, henumerates⟩
  · exact absurd ⟨_, rfl⟩ he.not_listable
  · rcases henumerates.functions with ⟨e, hmem, hkey, -⟩ | ⟨-, ⟨-, hfailed⟩ | ⟨hnone, -⟩⟩
    · rcases List.mem_pair.mp hmem with rfl | rfl
      · exact absurd rfl (hkey "f")
      · exact absurd rfl (hkey "odd")
    · exact hfailed
    · exact absurd ⟨"odd", hrefusing⟩ hnone

end Catalog

end Introspect
