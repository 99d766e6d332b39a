import Mathlib.Data.List.Nodup
import Introspect.Proofs.Dispatch.Signature
import Introspect.Proofs.Dispatch.Store
import Introspect.Reflection.Source

/-!
# The storage of a method is a finite map from signatures to variants

Both layouts are covered at once: a table of slots and a chain hold entries, a lookup finds the
entry with a signature, and a variant that is made adds one.

* `Storage.entries`, `Storage.find`, `Storage.add`   the entries, and the two operations on them;
* `Storage.Sound layout`      the storage has the shape of the layout, its keys are signatures of
                              classes, and no two entries have the same key;
* `Sound.find_eq_some_iff`, `Sound.mem_entries_add`   the operations act on the map of the entries;
* `Store.variantFor_eq`       a variant is found or made by these operations;
* `Sound.source_eq`           the reader of the layout yields the values of all entries.
-/

namespace Introspect

open Signature (IsClasses ofClasses keyLaws_isClasses)

/-! ## Chains -/

namespace Chain

variable {ν : Type}

/-- the chain was made by pushing entries with different signatures of classes -/
structure Sound (c : Chain ν) : Prop where
  ending : c.ending = .mark
  keys : ∀ e ∈ c.entries, IsClasses e.1
  nodup : (c.entries.map Prod.fst).Nodup

theorem sound_empty : Sound (empty : Chain ν) := ⟨rfl, by simp [empty], List.nodup_nil⟩

theorem lookup_eq_some_iff {c : Chain ν} (hc : c.Sound) {sig : Signature} (hsig : IsClasses sig)
    (v : ν) : c.lookup sig = some v ↔ (sig, v) ∈ c.entries := by
  obtain ⟨entries, ending⟩ := c
  obtain ⟨-, hkeys, hnodup⟩ := hc
  unfold lookup
  dsimp only at *
  induction entries with
  | nil => simp
  | cons e es ih =>
    rw [List.map_cons, List.nodup_cons] at hnodup
    have ih := ih (fun x hx => hkeys x (List.mem_cons_of_mem _ hx)) hnodup.2
    rw [List.find?_cons, List.mem_cons]
    cases h : e.1 == sig with
    | true =>
      obtain rfl := (Signature.beq_iff_of_isClasses hsig).mp h
      -- no later entry has the signature of the first one
      have hno : (e.1, v) ∉ es := fun hmem => hnodup.1 (List.mem_map.mpr ⟨_, hmem, rfl⟩)
      rw [Option.map_some, Option.some.injEq, or_iff_left hno]
      exact ⟨fun hv => by rw [← hv], fun he => (congrArg Prod.snd he).symm⟩
    | false =>
      have hne : (sig, v) ≠ e := by
        rintro rfl
        rw [(Signature.beq_iff_of_isClasses hsig).mpr rfl] at h
        exact Bool.noConfusion h
      rw [ih, or_iff_right hne]

theorem sound_push {c : Chain ν} (hc : c.Sound) {sig : Signature} (hsig : IsClasses sig)
    (hnew : c.lookup sig = none) (v : ν) : (c.push sig v).Sound := by
  refine ⟨hc.ending, ?_, ?_⟩
  · intro e he
    rcases List.mem_cons.mp he with rfl | he
    · exact hsig
    · exact hc.keys e he
  · show ((sig, v) :: c.entries |>.map Prod.fst).Nodup
    rw [List.map_cons, List.nodup_cons]
    refine ⟨fun hmem => ?_, hc.nodup⟩
    obtain ⟨⟨_, w⟩, he, rfl⟩ := List.mem_map.mp hmem
    rw [(lookup_eq_some_iff hc hsig w).mpr he] at hnew
    exact nomatch hnew

end Chain

/-! ## Storage of either layout -/

namespace Storage

/-- the entries, in the order in which a reader meets them -/
def entries : Storage → List (Signature × Nat)
  | .slots t => t.entries
  | .chain c => c.entries
  | .missing => []

/-- the variant under a signature -/
def find (sig : Signature) : Storage → Option Nat
  | .slots t => t.get? sig
  | .chain c => c.lookup sig
  | .missing => none

/-- one more entry -/
def add (sig : Signature) (v : Nat) : Storage → Storage
  | .slots t => .slots (t.insert sig v)
  | .chain c => .chain (c.push sig v)
  | .missing => .missing

/-- the storage has the shape of a layout and is a map -/
def Sound : Layout → Storage → Prop
  | .slots, .slots t => ProbeTable.Sound IsClasses t
  | .linked, .chain c => c.Sound
  | _, _ => False

theorem sound_empty (layout : Layout) : Sound layout (empty layout) := by
  cases layout with
  | slots => exact ProbeTable.sound_empty IsClasses 4
  | linked => exact Chain.sound_empty

theorem entries_empty (layout : Layout) : (empty layout).entries = [] := by
  cases layout with
  | slots => exact ProbeTable.entries_empty 4
  | linked => rfl

namespace Sound

variable {layout : Layout} {storage : Storage}

/-- storage of another shape than that of the layout is not sound -/
theorem cases_on (h : Sound layout storage) :
    (∃ t, layout = .slots ∧ storage = .slots t ∧ ProbeTable.Sound IsClasses t)
      ∨ ∃ c, layout = .linked ∧ storage = .chain c ∧ c.Sound := by
  cases layout with
  | slots =>
    cases storage with
    | slots t => exact Or.inl ⟨t, rfl, rfl, h⟩
    | chain c => exact h.elim
    | missing => exact h.elim
  | linked =>
    cases storage with
    | slots t => exact h.elim
    | chain c => exact Or.inr ⟨c, rfl, rfl, h⟩
    | missing => exact h.elim

theorem keys (h : Sound layout storage) : ∀ e ∈ storage.entries, IsClasses e.1 := by
  rcases h.cases_on with ⟨t, rfl, rfl, ht⟩ | ⟨c, rfl, rfl, hc⟩
  · exact ht.keys
  · exact hc.keys

/-- a lookup finds the entry with the signature -/
theorem find_eq_some_iff (h : Sound layout storage) {sig : Signature} (hsig : IsClasses sig)
    (v : Nat) : storage.find sig = some v ↔ (sig, v) ∈ storage.entries := by
  rcases h.cases_on with ⟨t, rfl, rfl, ht⟩ | ⟨c, rfl, rfl, hc⟩
  · refine (ht.get?_eq_some_iff keyLaws_isClasses hsig).trans ⟨?_, fun hmem => ?_⟩
    · rintro ⟨k, hmem, hk⟩
      obtain rfl := (Signature.beq_iff_of_isClasses hsig).mp hk
      exact hmem
    · exact ⟨sig, hmem, (Signature.beq_iff_of_isClasses hsig).mpr rfl⟩
  · exact Chain.lookup_eq_some_iff hc hsig v

/-- two entries with the same signature are the same -/
theorem unique (h : Sound layout storage) {sig : Signature} {v w : Nat}
    (hv : (sig, v) ∈ storage.entries) (hw : (sig, w) ∈ storage.entries) : v = w := by
  have hsig := h.keys _ hv
  have h1 := (h.find_eq_some_iff hsig v).mpr hv
  rw [(h.find_eq_some_iff hsig w).mpr hw] at h1
  exact (Option.some.inj h1).symm

theorem not_mem_of_find (h : Sound layout storage) {sig : Signature} (hsig : IsClasses sig)
    (hnew : storage.find sig = none) (v : Nat) : (sig, v) ∉ storage.entries := by
  intro hmem
  rw [(h.find_eq_some_iff hsig v).mpr hmem] at hnew
  exact nomatch hnew

theorem add (h : Sound layout storage) {sig : Signature} (hsig : IsClasses sig)
    (hnew : storage.find sig = none) (v : Nat) : Sound layout (storage.add sig v) := by
  rcases h.cases_on with ⟨t, rfl, rfl, ht⟩ | ⟨c, rfl, rfl, hc⟩
  · exact ht.insert keyLaws_isClasses hsig v
  · exact Chain.sound_push hc hsig hnew v

/-- under a signature that is not there, a new entry replaces none -/
theorem mem_entries_add (h : Sound layout storage) {sig : Signature} (hsig : IsClasses sig)
    (hnew : storage.find sig = none) (v : Nat) (e : Signature × Nat) :
    e ∈ (storage.add sig v).entries ↔ e = (sig, v) ∨ e ∈ storage.entries := by
  have hno := fun w => h.not_mem_of_find hsig hnew w
  rcases h.cases_on with ⟨t, rfl, rfl, ht⟩ | ⟨c, rfl, rfl, hc⟩
  · refine (ht.mem_entries_insert keyLaws_isClasses hsig v e).trans (or_congr_right ?_)
    refine ⟨fun he => he.1, fun he => ⟨he, ?_⟩⟩
    rw [← Bool.not_eq_true, Signature.beq_iff_of_isClasses hsig]
    rintro rfl
    exact hno e.2 he
  · exact List.mem_cons

/-- no entry is there twice -/
theorem nodup (h : Sound layout storage) : storage.entries.Nodup := by
  rcases h.cases_on with ⟨t, rfl, rfl, ht⟩ | ⟨c, rfl, rfl, hc⟩
  · exact ht.nodup_entries keyLaws_isClasses
  · exact List.Nodup.of_map Prod.fst hc.nodup

/-- the reader of the layout yields the values of all entries -/
theorem source_eq {m : Method} (h : Sound m.layout m.storage) (hier : Hierarchy) :
    m.layout.source hier m = ⟨m.storage.entries.map Prod.snd, none⟩ := by
  rcases h.cases_on with ⟨t, hl, hs, -⟩ | ⟨c, hl, hs, -⟩
  · rw [hl]
    show slotsSource hier m = _
    unfold slotsSource
    rw [hs]
    rfl
  · rw [hl]
    show linkedSource hier m = _
    unfold linkedSource
    rw [hs]
    rfl

end Sound

end Storage

/-- the variant of a method for a tuple of types is the one in its storage, or a new one that its
storage then has -/
theorem Store.variantFor_eq {s : Store} {m : Nat}
    (h : (s.method m).storage.Sound (s.method m).layout) (view : Hierarchy) (types : Signature) :
    Store.variantFor view m types s =
      match (s.method m).storage.find types with
      | some v => (.ok v, s)
      | none => (.ok s.variants.size, (s.addVariant m types).1.modifyMethod m fun i =>
          { i with storage := (s.method m).storage.add types s.variants.size }) := by
  unfold Store.variantFor
  rcases h.cases_on with ⟨t, hl, hs, -⟩ | ⟨c, hl, hs, -⟩
  · simp only [hl, hs]
    show _ = match t.get? types with | some v => _ | none => _
    cases t.get? types <;> rfl
  · simp only [hl, hs]
    show _ = match c.lookup types with | some v => _ | none => _
    cases c.lookup types <;> rfl

end Introspect
