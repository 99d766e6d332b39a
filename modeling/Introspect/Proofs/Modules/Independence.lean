import Introspect.Proofs.Modules.Enumerations

/-!
# What one name has to do with the others

Two modules that differ in one name only, in what it is bound to and in what it is annotated with.  The
other names are classified alike in both, with one exception: the annotations of a module are all
examined before the first name is judged, so that an annotation that refuses to be examined keeps every
name of its module from passing a filter that asks for constness.

* `Bindings.others`          a namespace, or annotations, without one name;
* `Catalog.finalKeys_cases`  annotations are examined to the end, unless one of them refuses that;
* `Catalog.DifferAt`         two modules that differ in one name only;
* `Catalog.Refuses`          the annotation of a name refuses to be examined;
* `Catalog.BoundAlike`       a name is bound to the same in both, or to a mapping in both;
* `Catalog.Compared`         how another name is classified in the two modules;
* `Catalog.compared_of_differAt`   it is classified like that;
* `Catalog.compared_besideRefusing`   a constant that is none beside an annotation that refuses.
-/

namespace Introspect

theorem Value.str_beq_iff (s : String) (v : Value) : (Value.str s == v) = true ↔ v = .str s := by
  show (Value.str s).same v = true ↔ v = .str s
  cases v with
  | str t =>
    have hsame : (Value.str s).same (.str t) = (s == t) := rfl
    rw [hsame, beq_iff_eq, Value.str.injEq, eq_comm]
  | complex x y =>
    have hsame : (Value.str s).same (.complex x y) = (y == 0.0 && false) := rfl
    rw [hsame, Bool.and_false]
    exact iff_of_false Bool.false_ne_true nofun
  | _ => exact iff_of_false Bool.false_ne_true nofun

theorem Value.contains_str_iff (vs : List Value) (s : String) :
    vs.contains (.str s) = true ↔ .str s ∈ vs := by
  rw [List.contains_eq_any_beq, List.any_eq_true]
  constructor
  · rintro ⟨v, hv, hbeq⟩
    exact (Value.str_beq_iff s v).mp hbeq ▸ hv
  · intro hs
    exact ⟨_, hs, (Value.str_beq_iff s _).mpr rfl⟩

/-! ## Namespaces without one name -/

namespace Bindings

variable {b b' : Bindings} {x n : String}

/-- the entries under other keys than a name -/
def others (x : String) (b : Bindings) : Bindings := b.filter fun e => !(e.1 == .str x)

theorem mem_others_iff {e : Value × Value} : e ∈ b.others x ↔ e ∈ b ∧ e.1 ≠ .str x := by
  unfold others
  rw [List.mem_filter, Bool.not_eq_true', Bool.eq_false_iff, ne_eq, Value.beq_str_iff]

/-- entries that are the same under all other keys tell the same about every other name -/
theorem mem_congr_of_others (h : (b.others x).Perm (b'.others x)) (hn : n ≠ x) (v : Value) :
    (.str n, v) ∈ b ↔ (.str n, v) ∈ b' := by
  have hkey : Value.str n ≠ .str x := fun heq => hn (Value.str.inj heq)
  have hmem := h.mem_iff (a := (.str n, v))
  rw [mem_others_iff, mem_others_iff, and_iff_left hkey, and_iff_left hkey] at hmem
  exact hmem

theorem lookup_congr_of_others (hb : b.Keyed) (hb' : b'.Keyed)
    (h : (b.others x).Perm (b'.others x)) (hn : n ≠ x) :
    Value.lookup (.str n) b = Value.lookup (.str n) b' := by
  apply Option.ext
  intro v
  rw [lookup_eq_some_iff hb, lookup_eq_some_iff hb', mem_congr_of_others h hn]

theorem textKeys_others_iff : (b.others x).TextKeys ↔ b.TextKeys := by
  unfold TextKeys
  refine ⟨fun h e he => ?_, fun h e he => h e (mem_others_iff.mp he).1⟩
  by_cases hx : e.1 = .str x
  · exact ⟨x, hx⟩
  · exact h e (mem_others_iff.mpr ⟨he, hx⟩)

theorem textKeys_congr (h : b.Perm b') : b.TextKeys ↔ b'.TextKeys := by
  unfold TextKeys
  simp only [h.mem_iff]

end Bindings

namespace Catalog

/-! ## Examined annotations -/

theorem isFinal_of_refuses {h : Hierarchy} {v : Value} (hv : v.refuses h = true) :
    v.isFinal h = .error .refused := by
  unfold Value.isFinal
  rw [if_pos hv]

theorem isFinal_of_not_refuses {h : Hierarchy} {v : Value} (hv : v.refuses h = false) :
    ∃ final, v.isFinal h = .ok final := by
  unfold Value.isFinal
  rw [if_neg (Bool.eq_false_iff.mp hv)]
  split <;> exact ⟨_, rfl⟩

/-- annotations are examined to the end, unless one of them refuses that -/
theorem finalKeys_cases (h : Hierarchy) (notes : Bindings) :
    (∃ e ∈ notes, e.2.refuses h = true) ∧ finalKeys h notes = .error .refused
      ∨ (¬ ∃ e ∈ notes, e.2.refuses h = true) ∧ ∃ keys, finalKeys h notes = .ok keys
        ∧ ∀ k, k ∈ keys ↔ ∃ a, (k, a) ∈ notes ∧ a.isFinal h = .ok true := by
  induction notes with
  | nil =>
    refine .inr ⟨?_, [], rfl, fun k => iff_of_false List.not_mem_nil ?_⟩
    · rintro ⟨e, he, -⟩
      exact List.not_mem_nil he
    · rintro ⟨a, ha, -⟩
      exact List.not_mem_nil ha
  | cons e notes ih =>
    obtain ⟨k, a⟩ := e
    unfold finalKeys
    by_cases ha : a.refuses h = true
    · rw [isFinal_of_refuses ha]
      exact .inl ⟨⟨(k, a), List.mem_cons_self, ha⟩, rfl⟩
    · obtain ⟨final, hfinal⟩ := isFinal_of_not_refuses (Bool.eq_false_iff.mpr ha)
      rw [hfinal]
      rcases ih with ⟨⟨e, he, hrefuses⟩, herror⟩ | ⟨hnone, keys, hkeys, hmem⟩
      · rw [herror]
        exact .inl ⟨⟨e, List.mem_cons_of_mem _ he, hrefuses⟩, rfl⟩
      · rw [hkeys]
        refine .inr ⟨?_, if final then k :: keys else keys, rfl, fun key => ?_⟩
        · rintro ⟨e, he, hrefuses⟩
          rcases List.mem_cons.mp he with rfl | he
          · exact ha hrefuses
          · exact hnone ⟨e, he, hrefuses⟩
        · have htail : (∃ a', (key, a') ∈ (k, a) :: notes ∧ a'.isFinal h = .ok true)
              ↔ (key = k ∧ final = true) ∨ key ∈ keys := by
            rw [hmem]
            constructor
            · rintro ⟨a', ha', htrue⟩
              rcases List.mem_cons.mp ha' with heq | ha'
              · obtain ⟨rfl, rfl⟩ := Prod.mk.inj heq
                exact .inl ⟨rfl, Except.ok.inj (hfinal.symm.trans htrue)⟩
              · exact .inr ⟨a', ha', htrue⟩
            · rintro (⟨rfl, rfl⟩ | ⟨a', ha', htrue⟩)
              · exact ⟨a, List.mem_cons_self, hfinal⟩
              · exact ⟨a', List.mem_cons_of_mem _ ha', htrue⟩
          rw [htail]
          cases final with
          | false => simp
          | true => simp

/-! ## Two modules -/

/-- two modules with the same classes around them, the annotations of both being there to be read,
that differ in what one name is bound to and annotated with -/
structure DifferAt (c : Catalog) (m : Nat) (notes : Bindings) (c' : Catalog) (m' : Nat)
    (notes' : Bindings) (x : String) : Prop where
  hierarchy : c.hierarchy = c'.hierarchy
  keyed : Bindings.Keyed (c.module m).bindings
  keyed' : Bindings.Keyed (c'.module m').bindings
  annotations : c.annotations (.module m) = .ok notes
  annotations' : c'.annotations (.module m') = .ok notes'
  bound : (((c.module m).bindings.others "__annotations__").others x).Perm
    (((c'.module m').bindings.others "__annotations__").others x)
  annotated : (notes.others x).Perm (notes'.others x)

/-- the annotation of a name refuses to be examined -/
def Refuses (c : Catalog) (notes : Bindings) (x : String) : Prop :=
  ∃ a, (.str x, a) ∈ notes ∧ a.refuses c.hierarchy = true

/-- a name is bound to the same in two modules, or to a mapping in both of them -/
def BoundAlike (c : Catalog) (m : Nat) (c' : Catalog) (m' : Nat) (n : String) : Prop :=
  Value.lookup (.str n) (c.module m).bindings = Value.lookup (.str n) (c'.module m').bindings
    ∨ ∃ es es', Value.lookup (.str n) (c.module m).bindings = some (.dict es)
      ∧ Value.lookup (.str n) (c'.module m').bindings = some (.dict es')

variable {c c' : Catalog} {m m' : Nat} {notes notes' : Bindings} {x n : String}

theorem DifferAt.symm (h : c.DifferAt m notes c' m' notes' x) :
    c'.DifferAt m' notes' c m notes x :=
  ⟨h.hierarchy.symm, h.keyed', h.keyed, h.annotations', h.annotations, h.bound.symm,
    h.annotated.symm⟩

theorem BoundAlike.symm (h : c.BoundAlike m c' m' n) : c'.BoundAlike m' c m n :=
  h.imp Eq.symm fun ⟨es, es', hes, hes'⟩ => ⟨es', es, hes', hes⟩

/-- the mapping of the annotations apart, another name is bound to the same -/
theorem DifferAt.boundAlike (h : c.DifferAt m notes c' m' notes' x) (hn : n ≠ x)
    (hmapping : n ≠ "__annotations__") : c.BoundAlike m c' m' n := by
  left
  have hother : ∀ {b : Bindings}, b.Keyed → (b.others "__annotations__").Keyed := fun hb =>
    hb.filter _
  have hkept : ∀ {b : Bindings}, b.Keyed →
      Value.lookup (.str n) (b.others "__annotations__") = Value.lookup (.str n) b := by
    intro b hb
    apply Option.ext
    intro v
    rw [Bindings.lookup_eq_some_iff (hother hb), Bindings.lookup_eq_some_iff hb,
      Bindings.mem_others_iff]
    exact and_iff_left fun heq => hmapping (Value.str.inj heq)
  rw [← hkept h.keyed, ← hkept h.keyed']
  exact Bindings.lookup_congr_of_others (hother h.keyed) (hother h.keyed') h.bound hn

/-- a module with a name can be listed when all its keys are texts -/
theorem listable_iff_textKeys {v : Value}
    (hv : Value.lookup (.str n) (c.module m).bindings = some v) :
    c.Listable m ↔ Bindings.TextKeys (c.module m).bindings := by
  constructor
  · rintro ⟨es, hes⟩
    refine (Bindings.textKeys_or_noTextKeys hes).resolve_right fun hnone => ?_
    exact hnone _ (Value.mem_of_lookup_str hv) ⟨n, rfl⟩
  · intro htexts
    obtain ⟨es, hes, -⟩ := Bindings.names_inOrder c.hierarchy htexts
    exact ⟨es, hes⟩

/-- so another name that is bound is listed in both modules or in none -/
theorem DifferAt.listable_iff (h : c.DifferAt m notes c' m' notes' x)
    (hbound : c.BoundAlike m c' m' n) {v : Value}
    (hv : Value.lookup (.str n) (c.module m).bindings = some v) :
    c.Listable m ↔ c'.Listable m' := by
  obtain ⟨v', hv'⟩ : ∃ v', Value.lookup (.str n) (c'.module m').bindings = some v' := by
    rcases hbound with hsame | ⟨es, es', -, hes'⟩
    · exact ⟨v, hsame.symm.trans hv⟩
    · exact ⟨_, hes'⟩
  have hkeys := Bindings.textKeys_congr h.bound
  rw [Bindings.textKeys_others_iff, Bindings.textKeys_others_iff, Bindings.textKeys_others_iff,
    Bindings.textKeys_others_iff] at hkeys
  rw [listable_iff_textKeys hv, listable_iff_textKeys hv', hkeys]

/-- when the annotation of the name refuses in none of two modules or in both, then one of the
annotations refuses in none of them or in both -/
theorem DifferAt.someRefuses_iff (h : c.DifferAt m notes c' m' notes' x)
    (hx : c.Refuses notes x ↔ c'.Refuses notes' x) :
    (∃ e ∈ notes, e.2.refuses c.hierarchy = true)
      ↔ ∃ e ∈ notes', e.2.refuses c'.hierarchy = true := by
  have hsplit : ∀ (c : Catalog) (notes : Bindings),
      (∃ e ∈ notes, e.2.refuses c.hierarchy = true) ↔ c.Refuses notes x
        ∨ ∃ e ∈ notes.others x, e.2.refuses c.hierarchy = true := by
    intro c notes
    constructor
    · rintro ⟨⟨k, a⟩, he, ha⟩
      by_cases hk : k = .str x
      · exact .inl ⟨a, hk ▸ he, ha⟩
      · exact .inr ⟨(k, a), Bindings.mem_others_iff.mpr ⟨he, hk⟩, ha⟩
    · rintro (⟨a, he, ha⟩ | ⟨e, he, ha⟩)
      · exact ⟨_, he, ha⟩
      · exact ⟨e, (Bindings.mem_others_iff.mp he).1, ha⟩
  rw [hsplit c notes, hsplit c' notes', h.hierarchy]
  refine or_congr hx (exists_congr fun e => ?_)
  rw [h.annotated.mem_iff]

/-! ## Another name -/

theorem finalNames_of_annotations (h : c.annotations (.module m) = .ok notes) :
    c.finalNames (.module m) = (finalKeys c.hierarchy notes).map some := by
  unfold finalNames
  rw [h]

/-- a filter admits another name in both modules or in none, when their annotations can be examined
alike -/
theorem DifferAt.admits (h : c.DifferAt m notes c' m' notes' x) (hn : n ≠ x) {k : Constness}
    (hk : k = .all ∨ (c.Refuses notes x ↔ c'.Refuses notes' x)) (hadmits : c.Admits m k n) :
    c'.Admits m' k n := by
  rcases hadmits with hall | ⟨finals, hfinals, hone⟩
  · exact .inl hall
  · rcases hk with hall | hrefuses
    · exact .inl hall
    · have hsome := h.someRefuses_iff hrefuses
      rw [finalNames_of_annotations h.annotations] at hfinals
      -- the final names are known in the one module, so that no annotation refuses in the other
      rcases finalKeys_cases c.hierarchy notes with ⟨-, herror⟩ | ⟨hnone, keys, hkeys, hmem⟩
      · rw [herror] at hfinals
        exact nomatch hfinals
      · rcases finalKeys_cases c'.hierarchy notes' with ⟨hsome', -⟩ | ⟨-, keys', hkeys', hmem'⟩
        · exact absurd (hsome.mpr hsome') hnone
        · rw [hkeys] at hfinals
          obtain rfl : keys = finals := Option.some.inj (Except.ok.inj hfinals)
          have hsame : keys.contains (.str n) = keys'.contains (.str n) := by
            rw [Bool.eq_iff_iff, Value.contains_str_iff, Value.contains_str_iff, hmem, hmem',
              h.hierarchy]
            exact exists_congr fun a => and_congr_left' (Bindings.mem_congr_of_others h.annotated hn a)
          refine .inr ⟨keys', ?_, hsame ▸ hone⟩
          rw [finalNames_of_annotations h.annotations', hkeys']
          rfl

/-- no filter that asks for constness admits a name of a module with an annotation that refuses -/
theorem not_admits_of_refuses (h : c.annotations (.module m) = .ok notes)
    (hx : c.Refuses notes x) {k : Constness} (hk : k ≠ .all) (n : String) : ¬ c.Admits m k n := by
  apply c.not_admits m _ hk
  rintro ⟨finals, hfinals⟩
  obtain ⟨a, ha, hrefuses⟩ := hx
  rw [finalNames_of_annotations h] at hfinals
  rcases finalKeys_cases c.hierarchy notes with ⟨-, herror⟩ | ⟨hnone, -⟩
  · rw [herror] at hfinals
    exact nomatch hfinals
  · exact hnone ⟨_, ha, hrefuses⟩

variable (settings : Settings) (s : Selection)

/-- a name that is bound alike, and that the same filters admit, stays a global variable -/
theorem isGlobal_of_boundAlike (hierarchy : c.hierarchy = c'.hierarchy)
    (hbound : c.BoundAlike m c' m' n)
    (hadmits : c.Admits m s.constness n → c'.Admits m' s.constness n)
    (hglobal : c.isGlobal settings none s (.module m) n = true) :
    c'.isGlobal settings none s (.module m') n = true := by
  rw [isGlobal_iff] at hglobal ⊢
  obtain ⟨v, hv, hk, hpasses⟩ := hglobal
  obtain ⟨hinternal, hlookup, hkind⟩ := (c.plainValue_eq_some_iff settings m n v).mp hv
  rw [hierarchy] at hkind hpasses
  rcases hbound with hsame | ⟨es, es', hes, hes'⟩
  · rw [hsame] at hlookup
    exact ⟨v, (c'.plainValue_eq_some_iff settings m' n v).mpr ⟨hinternal, hlookup, hkind⟩,
      hadmits hk, hpasses⟩
  · -- neither the kind nor the mutability of a mapping depends on what is in it
    obtain rfl : v = .dict es := Option.some.inj (hlookup.symm.trans hes)
    have hkind' : (Value.dict es').bindingKind c'.hierarchy = .ok .plain := hkind
    have hpasses' : passesMutability c'.hierarchy (.dict es') s.mutability = .ok true := by
      cases hm : s.mutability with
      | all => rfl
      | mutable => rw [hm] at hpasses; exact hpasses
      | immutable => rw [hm] at hpasses; exact hpasses
    exact ⟨.dict es', (c'.plainValue_eq_some_iff settings m' n _).mpr ⟨hinternal, hes', hkind'⟩,
      hadmits hk, hpasses'⟩

/-- how another name is classified in two modules that differ in one name -/
structure Compared (c : Catalog) (m : Nat) (notes : Bindings) (c' : Catalog) (m' : Nat)
    (notes' : Bindings) (x n : String) (settings : Settings) (s : Selection) : Prop where
  /-- alike, unless the filters ask for constness and the annotation of the one name refuses to be
  examined in one of the modules only -/
  alike : s.constness = .all ∨ (c.Refuses notes x ↔ c'.Refuses notes' x) →
    c.isGlobal settings none s (.module m) n = c'.isGlobal settings none s (.module m') n
  /-- where it refuses, no name passes a filter that asks for constness -/
  refused : s.constness ≠ .all → c.Refuses notes x →
    c.isGlobal settings none s (.module m) n = false
  refused' : s.constness ≠ .all → c'.Refuses notes' x →
    c'.isGlobal settings none s (.module m') n = false
  /-- where the names of a module are told, this one is among them when it is a global variable -/
  listed : ∀ names, c.globalNames settings none s (.module m) = .ok names →
    (n ∈ names ↔ c.isGlobal settings none s (.module m) n = true)
  listed' : ∀ names, c'.globalNames settings none s (.module m') = .ok names →
    (n ∈ names ↔ c'.isGlobal settings none s (.module m') n = true)
  /-- when it is bound, the names of both modules are told, or those of neither can be put in order -/
  told : (∃ v, Value.lookup (.str n) (c.module m).bindings = some v) →
    (∃ names names', c.globalNames settings none s (.module m) = .ok names
        ∧ c'.globalNames settings none s (.module m') = .ok names')
      ∨ ∃ e e', c.Unlistable m e ∧ c.globalNames settings none s (.module m) = .error e
        ∧ c'.Unlistable m' e' ∧ c'.globalNames settings none s (.module m') = .error e'

theorem global_iff_isGlobal (n : String) :
    c.Global settings none s m n ↔ c.isGlobal settings none s (.module m) n = true := by
  refine and_iff_right_of_imp fun hglobal => ?_
  obtain ⟨v, hv, -⟩ := (c.isGlobal_iff settings m s n).mp hglobal
  exact ⟨v, ((c.plainValue_eq_some_iff settings m n v).mp hv).2.1⟩

theorem mem_globalNames_iff (hkeyed : Bindings.Keyed (c.module m).bindings) {names : List String}
    (h : c.globalNames settings none s (.module m) = .ok names) :
    n ∈ names ↔ c.isGlobal settings none s (.module m) n = true := by
  rcases c.globalNames_cases settings none s hkeyed with ⟨e, -, herror⟩ | ⟨-, names', hok, -, hmem⟩
  · exact nomatch herror.symm.trans h
  · obtain rfl := Except.ok.inj (hok.symm.trans h)
    exact (hmem n).trans (global_iff_isGlobal settings s n)

/-- two modules that differ in one name classify every other name like that -/
theorem compared_of_differAt (h : c.DifferAt m notes c' m' notes' x) (hn : n ≠ x)
    (hmapping : n = "__annotations__" → c.BoundAlike m c' m' n) :
    c.Compared m notes c' m' notes' x n settings s := by
  have hbound : c.BoundAlike m c' m' n := by
    by_cases hname : n = "__annotations__"
    · exact hmapping hname
    · exact h.boundAlike hn hname
  refine ⟨fun hasked => ?_, fun hasks hx => ?_, fun hasks hx => ?_,
    fun _ => mem_globalNames_iff settings s h.keyed,
    fun _ => mem_globalNames_iff settings s h.keyed', fun ⟨v, hv⟩ => ?_⟩
  · rw [Bool.eq_iff_iff]
    constructor
    · exact isGlobal_of_boundAlike settings s h.hierarchy hbound (h.admits hn hasked)
    · exact isGlobal_of_boundAlike settings s h.symm.hierarchy hbound.symm
        (h.symm.admits hn (hasked.imp_right Iff.symm))
  · rw [Bool.eq_false_iff, ne_eq, isGlobal_iff]
    rintro ⟨v, -, hadmits, -⟩
    exact not_admits_of_refuses h.annotations hx hasks n hadmits
  · rw [Bool.eq_false_iff, ne_eq, isGlobal_iff]
    rintro ⟨v, -, hadmits, -⟩
    exact not_admits_of_refuses h.annotations' hx hasks n hadmits
  · have hlistable := h.listable_iff hbound hv
    rcases c.globalNames_cases settings none s h.keyed with
      ⟨e, hnot, herror⟩ | ⟨hlist, names, hnames, -⟩
    · rcases c'.globalNames_cases settings none s h.keyed' with ⟨e', hnot', herror'⟩ | ⟨hlist', -⟩
      · exact .inr ⟨e, e', hnot, herror, hnot', herror'⟩
      · exact absurd (hlistable.mpr hlist') hnot.not_listable
    · rcases c'.globalNames_cases settings none s h.keyed' with
        ⟨e', hnot', -⟩ | ⟨-, names', hnames', -⟩
      · exact absurd (hlistable.mp hlist) hnot'.not_listable
      · exact .inl ⟨names, names', hnames, hnames'⟩

/-- a module with a constant, and another name with an annotation -/
def annotatedWith (a : Value) : Catalog :=
  moduleWith [(.str "__annotations__", .dict [(.str "limit", .typing .final []), (.str "x", a)]),
    (.str "limit", .int 1)]

theorem keyed_annotatedWith (a : Value) : Bindings.Keyed ((annotatedWith a).module 0).bindings := by
  refine List.pairwise_cons.mpr ⟨fun e he => ?_, List.pairwise_singleton _ _⟩
  obtain rfl := List.mem_singleton.mp he
  exact of_decide_eq_true rfl

/-- a constant is none beside an annotation that refuses to be examined -/
theorem compared_besideRefusing :
    (annotatedWith (.str "int")).DifferAt 0 [(.str "limit", .typing .final []), (.str "x", .str "int")]
        (annotatedWith refusing) 0 [(.str "limit", .typing .final []), (.str "x", refusing)] "x"
      ∧ "limit" ≠ "x"
      ∧ (annotatedWith (.str "int")).isGlobal {} none ⟨.const, .all⟩ (.module 0) "limit" = true
      ∧ (annotatedWith refusing).isGlobal {} none ⟨.const, .all⟩ (.module 0) "limit" = false := by
  have hdiffer : (annotatedWith (.str "int")).DifferAt 0
      [(.str "limit", .typing .final []), (.str "x", .str "int")]
      (annotatedWith refusing) 0 [(.str "limit", .typing .final []), (.str "x", refusing)] "x" := {
    hierarchy := rfl
    keyed := keyed_annotatedWith _
    keyed' := keyed_annotatedWith _
    annotations := rfl
    annotations' := rfl
    bound := List.Perm.refl _
    annotated := List.Perm.refl _ }
  have hname : "limit" ≠ "x" := by decide
  have hcompared := compared_of_differAt {} ⟨.const, .all⟩ hdiffer hname fun h => nomatch h
  have hrefuses : (annotatedWith refusing).Refuses
      [(.str "limit", .typing .final []), (.str "x", refusing)] "x" :=
    ⟨refusing, List.mem_cons_of_mem _ List.mem_cons_self, by decide +kernel⟩
  exact ⟨hdiffer, hname, by decide +kernel, hcompared.refused' nofun hrefuses⟩

end Catalog

end Introspect
