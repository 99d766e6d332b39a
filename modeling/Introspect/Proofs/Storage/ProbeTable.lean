import Mathlib.Data.List.Basic
import Introspect.Storage.ProbeTable

/-!
# Probe tables are finite maps

A walk ends at the first slot that is empty or holds its key (`landing`).  The invariant is that the
walk of every stored key ends at its own slot; two slots then never hold equal keys, for the walks
of equal keys are the same.

* `KeyLaws p`            on the keys of `p` equality is an equivalence that the weights respect;
* `Placed p t`           the invariant;
* `Sound p t`            the invariant, together with the count of the entries, of which there are at
                         most half as many as slots;
* `sound_empty`, `Sound.insert`   every table made by insertions is sound;
* `get?_eq_some_iff`     the value under a key is that of the entry with an equal key;
* `mem_entries_insert`   an insertion replaces the entry with an equal key, and no other.
-/

namespace Introspect

/-- on the keys of `p` equality is an equivalence that the weights respect -/
structure KeyLaws {κ : Type} [BEq κ] [Weighted κ] (p : κ → Prop) : Prop where
  refl : ∀ {a : κ}, p a → (a == a) = true
  symm : ∀ {a b : κ}, p a → p b → (a == b) = true → (b == a) = true
  trans : ∀ {a b c : κ}, p a → p b → p c → (a == b) = true → (b == c) = true → (a == c) = true
  weight : ∀ {a b : κ}, p a → p b → (a == b) = true → Weighted.weight a = Weighted.weight b

namespace ProbeTable

variable {κ ν : Type}

/-! ## Slots and entries -/

theorem mem_entries_iff {t : ProbeTable κ ν} {e : κ × ν} :
    e ∈ t.entries ↔ ∃ i : Nat, t.slots[i]? = some (some e) := by
  unfold entries
  rw [List.mem_filterMap]
  constructor
  · rintro ⟨slot, hmem, rfl⟩
    obtain ⟨i, hi⟩ := List.mem_iff_getElem?.mp hmem
    exact ⟨i, by rw [← hi, Array.getElem?_toList]⟩
  · rintro ⟨i, hi⟩
    exact ⟨some e, List.mem_iff_getElem?.mpr ⟨i, by rw [Array.getElem?_toList, hi]⟩, rfl⟩

theorem length_entries (t : ProbeTable κ ν) :
    t.entries.length = t.slots.toList.countP Option.isSome := by
  unfold entries
  rw [List.length_filterMap_eq_countP]
  rfl

theorem entries_empty (capacity : Nat) : (empty capacity : ProbeTable κ ν).entries = [] := by
  unfold entries empty
  rw [Array.toList_replicate, List.filterMap_replicate_of_none rfl]

@[simp] theorem size_empty (capacity : Nat) :
    (empty capacity : ProbeTable κ ν).size = max 1 capacity := by
  unfold size empty
  rw [Array.size_replicate]

/-- a table with fewer entries than slots has an empty slot -/
theorem exists_empty_slot {t : ProbeTable κ ν} (h : t.entries.length < t.size) :
    ∃ i : Nat, i < t.size ∧ t.slots[i]? = some none := by
  rw [length_entries] at h
  have hne : t.slots.toList.countP Option.isSome ≠ t.slots.toList.length := by
    rw [Array.length_toList]
    exact Nat.ne_of_lt h
  have hall : ¬ ∀ a ∈ t.slots.toList, Option.isSome a = true :=
    fun hs => hne (List.countP_eq_length.mpr hs)
  push Not at hall
  obtain ⟨slot, hmem, hslot⟩ := hall
  obtain ⟨i, hi⟩ := List.mem_iff_getElem?.mp hmem
  rw [Array.getElem?_toList] at hi
  obtain ⟨hlt, -⟩ := Array.getElem?_eq_some_iff.mp hi
  refine ⟨i, hlt, ?_⟩
  rw [hi, Option.not_isSome_iff_eq_none.mp hslot]

/-! ## An entry in a slot -/

/-- the table with an entry in a slot -/
def store (t : ProbeTable κ ν) (i : Nat) (e : κ × ν) : ProbeTable κ ν :=
  ⟨t.slots.set! i (some e), if (t.slots[i]?.join).isSome then t.count else t.count + 1⟩

@[simp] theorem size_store (t : ProbeTable κ ν) (i : Nat) (e : κ × ν) :
    (t.store i e).size = t.size := by
  unfold size store
  rw [Array.set!_eq_setIfInBounds, Array.size_setIfInBounds]

theorem getElem?_store (t : ProbeTable κ ν) {i : Nat} (hi : i < t.size) (e : κ × ν) (j : Nat) :
    (t.store i e).slots[j]? = if i = j then some (some e) else t.slots[j]? := by
  unfold store
  rw [Array.set!_eq_setIfInBounds, Array.getElem?_setIfInBounds]
  by_cases h : i = j
  · subst h
    rw [if_pos rfl, if_pos rfl]
    exact if_pos hi
  · rw [if_neg h, if_neg h]

/-- the number of entries goes up by one when the slot was empty -/
theorem length_entries_store {t : ProbeTable κ ν} {i : Nat} (hi : i < t.size) (e : κ × ν) :
    (t.store i e).entries.length
      = if (t.slots[i]?.join).isSome then t.entries.length else t.entries.length + 1 := by
  have hlt : i < t.slots.toList.length := by
    rw [Array.length_toList]
    exact hi
  have hslot : t.slots[i]?.join = t.slots.toList[i] := by
    rw [← Array.getElem?_toList, List.getElem?_eq_getElem hlt]
    rfl
  have hpos : t.slots.toList[i].isSome = true → 0 < t.slots.toList.countP Option.isSome :=
    fun hs => List.countP_pos_iff.mpr ⟨_, List.getElem_mem _, hs⟩
  rw [length_entries, length_entries, hslot]
  unfold store
  rw [Array.set!_eq_setIfInBounds, Array.toList_setIfInBounds, List.countP_set hlt]
  split
  · next hs =>
    have h1 := hpos hs
    simp only [Option.isSome_some, if_true]
    omega
  · simp

/-! ## The walk of a key -/

theorem start_lt {n : Nat} (h : 0 < n) (w : Int) : start n w < n := by
  unfold start
  have h0 : 0 ≤ w % (n : Int) := Int.emod_nonneg w (by omega)
  have h1 : w % (n : Int) < n := Int.emod_lt_of_pos w (by omega)
  omega

/-- a walk meets every slot -/
theorem mem_path {n s i : Nat} (hs : s < n) (hi : i < n) : i ∈ path n s := by
  unfold path
  rw [List.mem_map]
  by_cases h : s ≤ i
  · refine ⟨i - s, List.mem_range.mpr (by omega), ?_⟩
    rw [Nat.add_sub_cancel' h, Nat.mod_eq_of_lt hi]
  · refine ⟨i + n - s, List.mem_range.mpr (by omega), ?_⟩
    rw [show s + (i + n - s) = i + n by omega, Nat.add_mod_right, Nat.mod_eq_of_lt hi]

theorem lt_of_mem_path {n s i : Nat} (h : i ∈ path n s) : i < n := by
  obtain ⟨o, ho, rfl⟩ := List.mem_map.mp h
  exact Nat.mod_lt _ (Nat.lt_of_le_of_lt (Nat.zero_le o) (List.mem_range.mp ho))

section
variable [BEq κ]

/-- whether a walk ends at a slot: it is empty, or holds the key -/
def fits (slots : Array (Option (κ × ν))) (key : κ) (i : Nat) : Bool :=
  match slots[i]?.join with
  | none => true
  | some e => e.1 == key

theorem fits_of_empty {slots : Array (Option (κ × ν))} {i : Nat} (h : slots[i]? = some none)
    (key : κ) : fits slots key i = true := by
  unfold fits
  rw [h]
  rfl

theorem fits_of_entry {slots : Array (Option (κ × ν))} {i : Nat} {e : κ × ν}
    (h : slots[i]? = some (some e)) (key : κ) : fits slots key i = (e.1 == key) := by
  unfold fits
  rw [h]
  rfl

theorem fits_store {t : ProbeTable κ ν} {i : Nat} (hi : i < t.size) (e : κ × ν) (key : κ) (x : Nat) :
    fits (t.store i e).slots key x = if i = x then e.1 == key else fits t.slots key x := by
  unfold fits
  rw [getElem?_store t hi]
  by_cases h : i = x
  · rw [if_pos h, if_pos h]
    rfl
  · rw [if_neg h, if_neg h]

theorem getAlong_eq_find? (slots : Array (Option (κ × ν))) (key : κ) (w : List Nat) :
    getAlong slots key w
      = ((w.find? (fits slots key)).bind fun i => slots[i]?.join).map Prod.snd := by
  induction w with
  | nil => rfl
  | cons i rest ih =>
    unfold getAlong
    rw [List.find?_cons]
    cases h : slots[i]?.join with
    | none => simp [fits, h]
    | some e => cases hk : e.1 == key <;> simp [fits, h, hk, ih]

theorem placeAlong_eq_find? (t : ProbeTable κ ν) (key : κ) (value : ν) (w : List Nat) :
    t.placeAlong key value w
      = ((w.find? (fits t.slots key)).map fun i => t.store i (key, value)).getD t := by
  induction w with
  | nil => rfl
  | cons i rest ih =>
    unfold placeAlong
    rw [List.find?_cons]
    cases h : t.slots[i]?.join with
    | none => simp [fits, store, h]
    | some e => cases hk : e.1 == key <;> simp [fits, store, h, hk, ih]

variable [Weighted κ]

/-- the slot at which the walk of a key ends -/
def landing (t : ProbeTable κ ν) (key : κ) : Option Nat := (t.walk key).find? (fits t.slots key)

theorem get?_eq_landing (t : ProbeTable κ ν) (key : κ) :
    t.get? key = ((t.landing key).bind fun i => t.slots[i]?.join).map Prod.snd :=
  getAlong_eq_find? t.slots key (t.walk key)

theorem place_of_landing {t : ProbeTable κ ν} {key : κ} {i : Nat} (h : t.landing key = some i)
    (value : ν) : t.place key value = t.store i (key, value) := by
  unfold place
  rw [placeAlong_eq_find?, show (t.walk key).find? (fits t.slots key) = some i from h]
  rfl

theorem landing_lt {t : ProbeTable κ ν} {key : κ} {i : Nat} (h : t.landing key = some i) :
    i < t.size :=
  lt_of_mem_path (List.mem_of_find?_eq_some h)

theorem fits_landing {t : ProbeTable κ ν} {key : κ} {i : Nat} (h : t.landing key = some i) :
    fits t.slots key i = true :=
  List.find?_some h

/-- with an empty slot left every walk ends -/
theorem exists_landing {t : ProbeTable κ ν} (h : t.entries.length < t.size) (key : κ) :
    ∃ i, t.landing key = some i := by
  obtain ⟨i, hi, hslot⟩ := exists_empty_slot h
  have hmem : i ∈ t.walk key := mem_path (start_lt (by omega) _) hi
  have hsome : ((t.walk key).find? (fits t.slots key)).isSome = true := by
    rw [List.find?_isSome]
    exact ⟨i, hmem, fits_of_empty hslot key⟩
  exact Option.isSome_iff_exists.mp hsome

/-! ## Walks past a new entry -/

/-- a search with a stricter test finds the same element, if that still passes -/
theorem find?_eq_some_of_imp {l : List Nat} {p q : Nat → Bool} {j : Nat} (h : l.find? p = some j)
    (hj : q j = true) (himp : ∀ x, q x = true → p x = true) : l.find? q = some j := by
  obtain ⟨-, as, bs, hl, has⟩ := List.find?_eq_some_iff_append.mp h
  refine List.find?_eq_some_iff_append.mpr ⟨hj, as, bs, hl, fun x hx => ?_⟩
  have hpx := has x hx
  cases hqx : q x with
  | false => rfl
  | true => rw [himp x hqx] at hpx; exact absurd hpx (by simp)

theorem landing_store_self {t : ProbeTable κ ν} {key : κ} {i : Nat} (hi : t.landing key = some i)
    (hrefl : (key == key) = true) (v : ν) : (t.store i (key, v)).landing key = some i := by
  have hlt := landing_lt hi
  refine find?_eq_some_of_imp (l := (t.store i (key, v)).walk key) (p := fits t.slots key) ?_ ?_ ?_
  · show (path (t.store i (key, v)).size (start (t.store i (key, v)).size _)).find? _ = _
    rw [size_store]
    exact hi
  · rw [fits_store hlt, if_pos rfl]
    exact hrefl
  · intro x hx
    rw [fits_store hlt] at hx
    by_cases h : i = x
    · rw [← h]
      exact fits_landing hi
    · rwa [if_neg h] at hx

theorem landing_store_of_ne {t : ProbeTable κ ν} {i j : Nat} {e e' : κ × ν} (hi : i < t.size)
    (hij : i ≠ j) (hj : t.landing e'.1 = some j) (hslot : t.slots[j]? = some (some e'))
    (hrefl : (e'.1 == e'.1) = true) (hne : (e.1 == e'.1) = false) :
    (t.store i e).landing e'.1 = some j := by
  refine find?_eq_some_of_imp (l := (t.store i e).walk e'.1) (p := fits t.slots e'.1) ?_ ?_ ?_
  · show (path (t.store i e).size (start (t.store i e).size _)).find? _ = _
    rw [size_store]
    exact hj
  · rw [fits_store hi, if_neg hij, fits_of_entry hslot]
    exact hrefl
  · intro x hx
    rw [fits_store hi] at hx
    by_cases h : i = x
    · rw [if_pos h, hne] at hx
      exact absurd hx Bool.false_ne_true
    · rwa [if_neg h] at hx

/-! ## Entries where their walks end -/

/-- the walk of every stored key ends at its own slot -/
structure Placed (p : κ → Prop) (t : ProbeTable κ ν) : Prop where
  keys : ∀ e ∈ t.entries, p e.1
  placed : ∀ (i : Nat) (e : κ × ν), t.slots[i]? = some (some e) → t.landing e.1 = some i

variable {p : κ → Prop} {t : ProbeTable κ ν}

theorem placed_empty (p : κ → Prop) (capacity : Nat) :
    Placed p (empty capacity : ProbeTable κ ν) := by
  refine ⟨fun e he => ?_, fun i e hi => ?_⟩
  · rw [entries_empty] at he
    exact absurd he List.not_mem_nil
  · have hmem := mem_entries_iff.mpr ⟨i, hi⟩
    rw [entries_empty] at hmem
    exact absurd hmem List.not_mem_nil

namespace Placed

variable (hp : KeyLaws p)
include hp

/-- equal keys have the same walk, which ends at the same slot -/
theorem landing_congr (ht : Placed p t) {a b : κ} (ha : p a) (hb : p b) (hab : (a == b) = true) :
    t.landing a = t.landing b := by
  have hw : t.walk a = t.walk b := by
    unfold walk
    rw [hp.weight ha hb hab]
  have hf : fits t.slots a = fits t.slots b := by
    funext i
    unfold fits
    split
    · rfl
    · next e he =>
      have hi : t.slots[i]? = some (some e) := by
        cases h : t.slots[i]? with
        | none => rw [h] at he; exact absurd he (by simp)
        | some slot => rw [h] at he; exact congrArg some he
      have hk := ht.keys e (mem_entries_iff.mpr ⟨i, hi⟩)
      rw [Bool.eq_iff_iff]
      exact ⟨fun h => hp.trans hk ha hb h hab, fun h => hp.trans hk hb ha h (hp.symm ha hb hab)⟩
  unfold landing
  rw [hw, hf]

/-- no two slots hold equal keys -/
theorem slot_unique (ht : Placed p t) {i j : Nat} {e e' : κ × ν}
    (hi : t.slots[i]? = some (some e)) (hj : t.slots[j]? = some (some e'))
    (he : (e.1 == e'.1) = true) : i = j := by
  have h1 := ht.placed i e hi
  rw [ht.landing_congr hp (ht.keys e (mem_entries_iff.mpr ⟨i, hi⟩))
    (ht.keys e' (mem_entries_iff.mpr ⟨j, hj⟩)) he, ht.placed j e' hj] at h1
  exact (Option.some.inj h1).symm

/-- an equal key has its entry where the walk of the key ends -/
theorem slot_of_landing (ht : Placed p t) {key : κ} (hkey : p key) {i j : Nat} {e : κ × ν}
    (hi : t.landing key = some i) (hj : t.slots[j]? = some (some e))
    (he : (e.1 == key) = true) : i = j := by
  have hland := ht.placed j e hj
  rw [ht.landing_congr hp (ht.keys e (mem_entries_iff.mpr ⟨j, hj⟩)) hkey he, hi] at hland
  exact Option.some.inj hland

/-- an entry where the walk of its key ends replaces the entry with an equal key, and no other -/
theorem mem_entries_store (ht : Placed p t) {key : κ} (hkey : p key) {i : Nat}
    (hi : t.landing key = some i) (v : ν) (e : κ × ν) :
    e ∈ (t.store i (key, v)).entries ↔ e = (key, v) ∨ e ∈ t.entries ∧ (e.1 == key) = false := by
  have hlt := landing_lt hi
  rw [mem_entries_iff, mem_entries_iff]
  constructor
  · rintro ⟨j, hj⟩
    rw [getElem?_store t hlt] at hj
    by_cases hij : i = j
    · rw [if_pos hij] at hj
      exact Or.inl (Option.some.inj (Option.some.inj hj)).symm
    · rw [if_neg hij] at hj
      refine Or.inr ⟨⟨j, hj⟩, ?_⟩
      rw [← Bool.not_eq_true]
      exact fun he => hij (ht.slot_of_landing hp hkey hi hj he)
  · rintro (rfl | ⟨⟨j, hj⟩, he⟩)
    · exact ⟨i, by rw [getElem?_store t hlt, if_pos rfl]⟩
    · refine ⟨j, ?_⟩
      rw [getElem?_store t hlt, if_neg, hj]
      rintro rfl
      have hfit := fits_landing hi
      rw [fits_of_entry hj, he] at hfit
      exact Bool.false_ne_true hfit

/-- an entry where the walk of its key ends leaves the other entries where theirs end -/
theorem store (ht : Placed p t) {key : κ} (hkey : p key) {i : Nat} (hi : t.landing key = some i)
    (v : ν) : Placed p (t.store i (key, v)) := by
  have hlt := landing_lt hi
  refine ⟨fun e he => ?_, fun j e hj => ?_⟩
  · rcases (ht.mem_entries_store hp hkey hi v e).mp he with rfl | ⟨he, -⟩
    · exact hkey
    · exact ht.keys e he
  · rw [getElem?_store t hlt] at hj
    by_cases hij : i = j
    · subst hij
      rw [if_pos rfl] at hj
      obtain rfl := Option.some.inj (Option.some.inj hj)
      exact landing_store_self hi (hp.refl hkey) v
    · rw [if_neg hij] at hj
      have hmem := mem_entries_iff.mpr ⟨j, hj⟩
      refine landing_store_of_ne hlt hij (ht.placed j e hj) hj (hp.refl (ht.keys e hmem)) ?_
      rw [← Bool.not_eq_true]
      intro hke
      exact hij (ht.slot_of_landing hp hkey hi hj (hp.symm hkey (ht.keys e hmem) hke))

end Placed

/-! ## Soundness -/

/-- the walk of every stored key ends at its own slot, and at most half of the slots are taken -/
structure Sound (p : κ → Prop) (t : ProbeTable κ ν) : Prop where
  keys : ∀ e ∈ t.entries, p e.1
  placed : ∀ (i : Nat) (e : κ × ν), t.slots[i]? = some (some e) → t.landing e.1 = some i
  count : t.count = t.entries.length
  half : 2 * t.count ≤ t.size
  pos : 0 < t.size

theorem sound_empty (p : κ → Prop) (capacity : Nat) :
    Sound p (empty capacity : ProbeTable κ ν) := by
  obtain ⟨hkeys, hplaced⟩ := placed_empty (ν := ν) p capacity
  refine ⟨hkeys, hplaced, ?_, Nat.zero_le _, ?_⟩
  · rw [entries_empty]
    rfl
  · rw [size_empty]
    omega

namespace Sound

theorem toPlaced (ht : Sound p t) : Placed p t := ⟨ht.keys, ht.placed⟩

theorem exists_landing (ht : Sound p t) (key : κ) : ∃ i, t.landing key = some i := by
  have h1 := ht.count
  have h2 := ht.half
  have h3 := ht.pos
  exact ProbeTable.exists_landing (by omega) key

section
variable (hp : KeyLaws p)
include hp

/-- the keys of the entries are pairwise different -/
theorem pairwise (ht : Sound p t) : t.entries.Pairwise fun e e' => (e.1 == e'.1) = false := by
  unfold entries
  rw [List.pairwise_filterMap, List.pairwise_iff_getElem]
  intro i j hi hj hij e he e' he'
  have hslot : ∀ (k : Nat) (hk : k < t.slots.toList.length) (x : κ × ν),
      id t.slots.toList[k] = some x → t.slots[k]? = some (some x) := by
    intro k hk x hx
    rw [← Array.getElem?_toList, List.getElem?_eq_getElem hk]
    exact congrArg some hx
  cases h : e.1 == e'.1 with
  | false => rfl
  | true =>
    have := ht.toPlaced.slot_unique hp (hslot i hi e he) (hslot j hj e' he') h
    omega

/-- no entry is there twice -/
theorem nodup_entries (ht : Sound p t) : t.entries.Nodup := by
  refine List.Pairwise.imp_of_mem ?_ (ht.pairwise hp)
  rintro e e' he - hne rfl
  rw [hp.refl (ht.keys e he)] at hne
  exact Bool.noConfusion hne

/-- the value under a key is that of the entry with an equal key -/
theorem get?_eq_some_iff (ht : Sound p t) {key : κ} (hkey : p key) {v : ν} :
    t.get? key = some v ↔ ∃ k, (k, v) ∈ t.entries ∧ (k == key) = true := by
  rw [get?_eq_landing]
  obtain ⟨i, hi⟩ := ht.exists_landing key
  rw [hi]
  have hfit := fits_landing hi
  have hlt : i < t.slots.size := landing_lt hi
  constructor
  · intro h
    cases hs : t.slots[i]? with
    | none => rw [Option.bind_some, hs] at h; exact absurd h (by simp)
    | some slot =>
      cases slot with
      | none => rw [Option.bind_some, hs] at h; exact absurd h (by simp)
      | some e =>
        rw [Option.bind_some, hs] at h
        rw [fits_of_entry hs] at hfit
        obtain rfl : e.2 = v := Option.some.inj h
        exact ⟨e.1, mem_entries_iff.mpr ⟨i, hs⟩, hfit⟩
  · rintro ⟨k, hmem, hk⟩
    obtain ⟨j, hj⟩ := mem_entries_iff.mp hmem
    have hland := ht.placed j (k, v) hj
    rw [ht.toPlaced.landing_congr hp (ht.keys _ hmem) hkey hk, hi] at hland
    obtain rfl := Option.some.inj hland
    rw [Option.bind_some, hj]
    rfl

theorem store (ht : Sound p t) {key : κ} (hkey : p key) {i : Nat} (hi : t.landing key = some i)
    (v : ν) (hroom : 2 * (t.count + 1) ≤ t.size) : Sound p (t.store i (key, v)) := by
  obtain ⟨hkeys, hplaced⟩ := ht.toPlaced.store hp hkey hi v
  refine ⟨hkeys, hplaced, ?_, ?_, ?_⟩
  · rw [length_entries_store (landing_lt hi), ← ht.count]
    rfl
  · have hle : (t.store i (key, v)).count ≤ t.count + 1 := by
      unfold ProbeTable.store
      dsimp only
      split <;> omega
    rw [size_store]
    omega
  · rw [size_store]
    exact ht.pos

theorem place (ht : Sound p t) {key : κ} (hkey : p key) (v : ν)
    (hroom : 2 * (t.count + 1) ≤ t.size) : Sound p (t.place key v) := by
  obtain ⟨i, hi⟩ := ht.exists_landing key
  rw [place_of_landing hi]
  exact ht.store hp hkey hi v hroom

theorem mem_entries_place (ht : Sound p t) {key : κ} (hkey : p key) (v : ν) (e : κ × ν) :
    e ∈ (t.place key v).entries ↔ e = (key, v) ∨ e ∈ t.entries ∧ (e.1 == key) = false := by
  obtain ⟨i, hi⟩ := ht.exists_landing key
  rw [place_of_landing hi]
  exact ht.toPlaced.mem_entries_store hp hkey hi v e

/-- entries with keys that are different from each other and from those of a table, placed one
after the other with enough room for all -/
theorem foldl_place (es : List (κ × ν)) (hkeys : ∀ e ∈ es, p e.1)
    (hes : es.Pairwise fun e e' => (e.1 == e'.1) = false) (ht : Sound p t)
    (hnew : ∀ e ∈ t.entries, ∀ e' ∈ es, (e.1 == e'.1) = false)
    (hroom : 2 * (t.count + es.length) ≤ t.size) :
    Sound p (es.foldl (fun t e => t.place e.1 e.2) t)
      ∧ (es.foldl (fun t e => t.place e.1 e.2) t).size = t.size
      ∧ (es.foldl (fun t e => t.place e.1 e.2) t).count ≤ t.count + es.length
      ∧ ∀ e, e ∈ (es.foldl (fun t e => t.place e.1 e.2) t).entries ↔ e ∈ t.entries ∨ e ∈ es := by
  induction es generalizing t with
  | nil => exact ⟨ht, rfl, Nat.le_refl _, fun e => by simp⟩
  | cons x es ih =>
    obtain ⟨hx, hes⟩ := List.pairwise_cons.mp hes
    have hkx := hkeys x List.mem_cons_self
    have hroom1 : 2 * (t.count + 1) ≤ t.size := by
      rw [List.length_cons] at hroom
      omega
    obtain ⟨i, hi⟩ := ht.exists_landing x.1
    have hplace := place_of_landing hi x.2
    have hcount : (t.place x.1 x.2).count ≤ t.count + 1 := by
      rw [hplace]
      unfold ProbeTable.store
      dsimp only
      split <;> omega
    have hsize : (t.place x.1 x.2).size = t.size := by rw [hplace, size_store]
    have hmem := ht.mem_entries_place hp hkx x.2
    obtain ⟨h1, h2, h3, h4⟩ := ih (fun e he => hkeys e (List.mem_cons_of_mem _ he)) hes
      (ht.place hp hkx x.2 hroom1)
      (fun e he e' he' => by
        rcases (hmem e).mp he with rfl | ⟨he, -⟩
        · exact hx e' he'
        · exact hnew e he e' (List.mem_cons_of_mem _ he'))
      (by rw [hsize]; rw [List.length_cons] at hroom; omega)
    rw [List.foldl_cons]
    refine ⟨h1, by rw [h2, hsize], by rw [List.length_cons]; omega, fun e => ?_⟩
    rw [h4, hmem, List.mem_cons]
    constructor
    · rintro ((rfl | ⟨he, -⟩) | he)
      · exact Or.inr (Or.inl rfl)
      · exact Or.inl he
      · exact Or.inr (Or.inr he)
    · rintro (he | rfl | he)
      · exact Or.inl (Or.inr ⟨he, hnew e he x List.mem_cons_self⟩)
      · exact Or.inl (Or.inl rfl)
      · exact Or.inr he

/-- a table with twice the slots has the same entries, and room for one more -/
theorem grow (ht : Sound p t) :
    Sound p t.grow ∧ 2 * (t.grow.count + 1) ≤ t.grow.size
      ∧ ∀ e, e ∈ t.grow.entries ↔ e ∈ t.entries := by
  have hsize : (empty (t.size * 2) : ProbeTable κ ν).size = t.size * 2 := by
    have := ht.pos
    rw [size_empty]
    omega
  have hzero : (empty (t.size * 2) : ProbeTable κ ν).count = 0 := rfl
  have hlen := ht.count
  have hhalf := ht.half
  have hpos := ht.pos
  obtain ⟨h1, h2, h3, h4⟩ := foldl_place hp t.entries ht.keys (ht.pairwise hp)
    (sound_empty p (t.size * 2)) (by rw [entries_empty]; exact fun e he => absurd he List.not_mem_nil)
    (by rw [hsize, hzero]; omega)
  refine ⟨h1, ?_, fun e => ?_⟩
  · show 2 * ((t.entries.foldl (fun t e => t.place e.1 e.2) (empty (t.size * 2))).count + 1)
      ≤ (t.entries.foldl (fun t e => t.place e.1 e.2) (empty (t.size * 2))).size
    rw [h2, hsize]
    omega
  · show e ∈ (t.entries.foldl (fun t e => t.place e.1 e.2) (empty (t.size * 2))).entries ↔ _
    rw [h4, entries_empty]
    simp

/-- before an entry is placed there is room for it, and the entries are the same -/
theorem spacious (ht : Sound p t) :
    Sound p (if t.isCrowded then t.grow else t)
      ∧ 2 * ((if t.isCrowded then t.grow else t).count + 1)
        ≤ (if t.isCrowded then t.grow else t).size
      ∧ ∀ e, e ∈ (if t.isCrowded then t.grow else t).entries ↔ e ∈ t.entries := by
  by_cases h : t.isCrowded = true
  · rw [if_pos h]
    exact ht.grow hp
  · rw [if_neg h]
    refine ⟨ht, ?_, fun e => Iff.rfl⟩
    unfold isCrowded at h
    rw [decide_eq_true_iff] at h
    omega

theorem insert (ht : Sound p t) {key : κ} (hkey : p key) (v : ν) : Sound p (t.insert key v) := by
  obtain ⟨h1, h2, -⟩ := ht.spacious hp
  exact h1.place hp hkey v h2

/-- an insertion replaces the entry with an equal key, and no other -/
theorem mem_entries_insert (ht : Sound p t) {key : κ} (hkey : p key) (v : ν) (e : κ × ν) :
    e ∈ (t.insert key v).entries ↔ e = (key, v) ∨ e ∈ t.entries ∧ (e.1 == key) = false := by
  obtain ⟨h1, -, h3⟩ := ht.spacious hp
  show e ∈ ((if t.isCrowded then t.grow else t).place key v).entries ↔ _
  rw [h1.mem_entries_place hp hkey, h3]

end

end Sound

end

end ProbeTable

end Introspect
