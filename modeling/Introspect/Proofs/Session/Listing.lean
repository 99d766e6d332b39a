import Introspect.Proofs.Reflection.Specializations
import Introspect.Proofs.Session.Reached

/-!
# Listings hold the variants that were called

* `Called`                         some call with given types found a method;
* `Session.specializations_iff_called`   with the reader of the version that fixed its layout, the
                                   listing of a function has one variant for each of its methods and
                                   each tuple of types with which the method was called.
-/

namespace Introspect

open Signature (ofClasses)

/-- some call with the types found the method -/
def Called (cs : List MadeCall) (m : Nat) (ts : List ClassId) : Prop :=
  ∃ c ∈ cs, c.dispatch.method = m ∧ c.dispatch.types = ts

/-- a version that is not empty is not left open -/
theorem Layout.ofVersionOrCurrent_eq (h : Hierarchy) {version : List Int} (hne : version ≠ []) :
    Layout.ofVersionOrCurrent h (.tuple (version.map .int))
      = Layout.ofVersion h (.tuple (version.map .int)) := by
  have htruthy : (Value.tuple (version.map .int)).truthy h = true := by
    show (!(version.map Value.int).isEmpty) = true
    rw [List.isEmpty_map, Bool.not_eq_true', List.isEmpty_eq_false_iff]
    exact hne
  unfold ofVersionOrCurrent
  rw [if_pos htruthy]

/-- the variants of a method that a reader of a layout finds in its storage -/
def Store.variantsFor (s : Store) (reader : Layout) (m : Nat) : List Nat :=
  if reader = (s.method m).layout then (s.method m).storage.entries.map Prod.snd else []

namespace Running.Faithful

variable {hier : Hierarchy} {s : Store} {saved : List (Option Nat)}

/-- the variants in the storage of a method are those of its calls -/
theorem mem_storage_iff (h : Faithful hier ⟨s, saved⟩) {m : Nat} (hm : m < s.methods.size) (v : Nat) :
    v ∈ (s.method m).storage.entries.map Prod.snd
      ↔ ∃ c ∈ calls s.journal, c.dispatch.method = m ∧ c.dispatch.variant = v := by
  rw [List.mem_map]
  constructor
  · rintro ⟨⟨sig, w⟩, hmem, rfl⟩
    obtain ⟨ts, rfl⟩ := (h.stored.sound m hm).keys _ hmem
    obtain ⟨c, hc, hcm, -, hcv⟩ := (h.stored.entry_iff m hm ts w).mp hmem
    exact ⟨c, hc, hcm, hcv⟩
  · rintro ⟨c, hc, hcm, hcv⟩
    exact ⟨(ofClasses c.dispatch.types, v),
      (h.stored.entry_iff m hm _ v).mpr ⟨c, hc, hcm, rfl, hcv⟩, rfl⟩

theorem method_of_mem_storage (h : Faithful hier ⟨s, saved⟩) {m : Nat} (hm : m < s.methods.size)
    {v : Nat} (hv : v ∈ (s.method m).storage.entries.map Prod.snd) : (s.variant v).method = m := by
  obtain ⟨c, hc, hcm, hcv⟩ := (h.mem_storage_iff hm v).mp hv
  obtain ⟨-, -, -, hmethod, -⟩ := h.stored.called c hc
  rw [← hcv, hmethod, hcm]

theorem method_of_mem_variantsFor (h : Faithful hier ⟨s, saved⟩) {m : Nat}
    (hm : m < s.methods.size) {reader : Layout} {v : Nat} (hv : v ∈ s.variantsFor reader m) :
    (s.variant v).method = m := by
  unfold Store.variantsFor at hv
  split at hv
  · exact h.method_of_mem_storage hm hv
  · exact absurd hv List.not_mem_nil

/-- two calls that found the same method have the same variant when they have the same types -/
theorem variant_unique (h : Faithful hier ⟨s, saved⟩) {c c' : MadeCall} (hc : c ∈ calls s.journal)
    (hc' : c' ∈ calls s.journal) (hm : c.dispatch.method = c'.dispatch.method) :
    c.dispatch.variant = c'.dispatch.variant ↔ c.dispatch.types = c'.dispatch.types := by
  obtain ⟨hlt, -, -, -, htypes⟩ := h.stored.called c hc
  obtain ⟨-, -, -, -, htypes'⟩ := h.stored.called c' hc'
  constructor
  · intro hv
    rw [hv, htypes'] at htypes
    exact (Signature.ofClasses_injective htypes).symm
  · intro hts
    exact (h.stored.sound _ hlt).unique
      ((h.stored.entry_iff _ hlt c.dispatch.types _).mpr ⟨c, hc, rfl, rfl, rfl⟩)
      ((h.stored.entry_iff _ hlt c.dispatch.types _).mpr ⟨c', hc', hm.symm, hts.symm, rfl⟩)

/-- with or without a filter, a reader lists what it finds in the storage of the methods -/
theorem listing_eq (h : Faithful hier ⟨s, saved⟩) {f : Nat} {tb : Table}
    (htb : (s.function f).table = some tb) {view : Surroundings} {filter : Option Signature}
    {ms : List Nat} (hms : s.methodsOf view.hierarchy f filter = .ok ms) (hsub : ms ⊆ tb.methods)
    (reader : Layout) :
    ∃ owned, (specializations s view reader.source (.generic f) filter).result = .ok owned
      ∧ (owned.map Prod.fst).Nodup
      ∧ ∀ v m, (v, m) ∈ owned ↔ m ∈ ms ∧ v ∈ s.variantsFor reader m := by
  have hlt : ∀ m ∈ ms, m < s.methods.size := fun m hm => (h.shaped.listed f tb htb m (hsub hm)).1
  have hcollects : ∀ m ∈ ms, Collects s view reader.source m (s.variantsFor reader m) :=
    fun m hm => (h.stored.sound m (hlt m hm)).collects view reader
  have hown : ∀ m ∈ ms, ∀ v ∈ s.variantsFor reader m, (s.variant v).method = m :=
    fun m hm v hv => h.method_of_mem_variantsFor (hlt m hm) hv
  obtain ⟨notes, hres⟩ := specializations_of_methodsOf hms hcollects []
  obtain ⟨hby, hmem⟩ := ownedBy_foldl hown (ownedBy_nil fun v => (s.variant v).method)
  exact ⟨_, congrArg Prod.fst hres, hby.nodup, fun v m =>
    (hmem (v, m)).trans (or_iff_right List.not_mem_nil)⟩

/-- the reader of its layout lists the variants of the calls that found a method of a function -/
theorem specializations_eq (h : Faithful hier ⟨s, saved⟩) {f : Nat} (hf : f < s.functions.size)
    (view : Surroundings) :
    ∃ t owned, (s.function f).table = some t
      ∧ (specializations s view (s.function f).layout.source (.generic f) none).result = .ok owned
      ∧ (owned.map Prod.fst).Nodup
      ∧ ∀ v m, (v, m) ∈ owned ↔ m ∈ t.methods
          ∧ ∃ c ∈ calls s.journal, c.dispatch.method = m ∧ c.dispatch.variant = v := by
  obtain ⟨ms, hms⟩ := h.tabled f hf
  obtain ⟨owned, hres, hnodup, hmem⟩ := h.listing_eq hms (Store.methodsOf_none hms view.hierarchy)
    (List.Subset.refl _) (s.function f).layout
  refine ⟨_, owned, hms, hres, hnodup, fun v m => (hmem v m).trans (and_congr_right fun hm => ?_)⟩
  obtain ⟨hlt, hown⟩ := h.shaped.listed f _ hms m hm
  have hlayout := (h.shaped.owner m hlt).2
  rw [hown] at hlayout
  unfold Store.variantsFor
  rw [if_pos hlayout.symm]
  exact h.mem_storage_iff hlt v

end Running.Faithful

namespace Session

variable {s : Session}

/-- the listing of a function, read for the version that its layout is that of, has one variant for
each of its methods and each tuple of types with which the method was called, and no others; all calls
with these types reach that variant -/
theorem specializations_iff_called (hs : s.Reached) {f : Nat} (hf : f < s.store.functions.size)
    (version : List Int) (hne : version ≠ [])
    (hlayout : Layout.ofVersion s.hierarchy (.tuple (version.map .int))
      = .ok (s.store.function f).layout) :
    ∃ reader t owned,
      Layout.ofVersionOrCurrent s.hierarchy (.tuple (version.map .int)) = .ok reader
      ∧ (s.store.function f).table = some t
      ∧ (specializations s.store s.view reader.source (.generic f) none).result = .ok owned
      ∧ (owned.map Prod.fst).Nodup
      ∧ (∀ e ∈ owned, e.2 ∈ t.methods ∧ ∃ ts, (s.store.variant e.1).types = ofClasses ts)
      ∧ ∀ m ∈ t.methods, ∀ ts,
          (Called (calls s.store.journal) m ts → ∃ v,
            (∀ w, (w, m) ∈ owned ∧ (s.store.variant w).types = ofClasses ts ↔ w = v)
            ∧ ∀ c ∈ calls s.store.journal, c.dispatch.method = m → c.dispatch.types = ts →
                c.dispatch.variant = v)
          ∧ (¬ Called (calls s.store.journal) m ts →
              ∀ w, (w, m) ∈ owned → (s.store.variant w).types ≠ ofClasses ts) := by
  obtain ⟨saved, h⟩ := hs.faithful
  obtain ⟨t, owned, ht, hres, hnodup, hmem⟩ := h.specializations_eq hf s.view
  -- the types of a variant in the listing are those of the calls that reached it
  have htypes : ∀ {w m ts}, (w, m) ∈ owned → (s.store.variant w).types = ofClasses ts →
      ∃ c ∈ calls s.store.journal, c.dispatch.method = m ∧ c.dispatch.types = ts
        ∧ c.dispatch.variant = w := by
    intro w m ts hw hts
    obtain ⟨-, c, hc, hcm, hcw⟩ := (hmem w m).mp hw
    obtain ⟨-, -, -, -, hct⟩ := h.stored.called c hc
    rw [hcw, hts] at hct
    exact ⟨c, hc, hcm, (Signature.ofClasses_injective hct).symm, hcw⟩
  refine ⟨(s.store.function f).layout, t, owned, ?_, ht, hres, hnodup, ?_, ?_⟩
  · rw [Layout.ofVersionOrCurrent_eq s.hierarchy hne, hlayout]
  · rintro ⟨v, m⟩ he
    obtain ⟨hm, c, hc, -, hcv⟩ := (hmem v m).mp he
    obtain ⟨-, -, -, -, hct⟩ := h.stored.called c hc
    rw [hcv] at hct
    exact ⟨hm, c.dispatch.types, hct⟩
  · intro m hm ts
    refine ⟨?_, fun hno w hw hts => ?_⟩
    · rintro ⟨c, hc, hcm, hct⟩
      obtain ⟨-, -, -, -, hctypes⟩ := h.stored.called c hc
      have hsame : ∀ c' ∈ calls s.store.journal, c'.dispatch.method = m → c'.dispatch.types = ts →
          c'.dispatch.variant = c.dispatch.variant := fun c' hc' hcm' hct' =>
        (h.variant_unique hc' hc (hcm'.trans hcm.symm)).mpr (hct'.trans hct.symm)
      refine ⟨c.dispatch.variant, fun w => ⟨fun ⟨hw, hts⟩ => ?_, ?_⟩, hsame⟩
      · obtain ⟨c', hc', hcm', hct', rfl⟩ := htypes hw hts
        exact hsame c' hc' hcm' hct'
      · rintro rfl
        exact ⟨(hmem _ m).mpr ⟨hm, c, hc, hcm, rfl⟩, hctypes.trans (congrArg ofClasses hct)⟩
    · obtain ⟨c, hc, hcm, hct, -⟩ := htypes hw hts
      exact hno ⟨c, hc, hcm, hct⟩

/-- a method that fails each time it is called without arguments has one variant -/
theorem specializations_failingTwice :
    ∃ owned v, (specializations failingTwice.store failingTwice.view slotsSource (.generic 0)
        none).result = .ok owned
      ∧ ∀ w, (w, 0) ∈ owned ∧ (failingTwice.store.variant w).types = [] ↔ w = v := by
  obtain ⟨reader, t, owned, hreader, ht, hres, -, -, hone⟩ :=
    specializations_iff_called reached_failingTwice (f := 0) (by decide +kernel)
      [2, 1] (by decide) rfl
  obtain rfl : Layout.slots = reader := Except.ok.inj ((by rfl : _ = _).trans hreader)
  obtain rfl : (⟨[0], .held []⟩ : Table) = t := Option.some.inj ((by rfl : _ = _).trans ht)
  obtain ⟨v, hv, -⟩ := (hone 0 List.mem_cons_self []).1
    ⟨⟨⟨0, [], 0, 1⟩, some 0⟩, by decide +kernel, rfl, rfl⟩
  exact ⟨owned, v, hres, hv⟩

end Session

end Introspect
