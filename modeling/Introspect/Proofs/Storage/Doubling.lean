import Mathlib.Algebra.Group.Nat.Defs
import Introspect.Proofs.Storage.Insertions

/-!
# How full probe tables are

Whatever the keys are, equal ones of different weights included, an insertion finds a slot: at most
half of the slots are taken, and before that would change the slots are doubled.  Doubling inserts
the entries anew, which leaves room for one more, so that none of these insertions doubles the slots
again.

* `insertWithin`            an insertion as it runs, with a bound on how deep doublings are nested;
* `Counted t`               the count is that of the entries, which take at most half of the slots;
* `Counted.insertWithin_eq` one level of doubling is enough;
* `Occupancy`, `StoresOnce` what holds of a table that was made by insertions, and of one more
                            insertion;
* `Sound.count_le_insert`   where equal keys weigh the same, no insertion loses an entry;
* `insertAll_occupancy`     all of this after any insertions, whatever the capacity.
-/

namespace Introspect

namespace ProbeTable

variable {κ ν : Type} {t : ProbeTable κ ν}

/-! ## Counting entries -/

/-- the count is that of the entries, which take at most half of the slots -/
structure Counted (t : ProbeTable κ ν) : Prop where
  count : t.count = t.entries.length
  half : 2 * t.count ≤ t.size
  pos : 0 < t.size

theorem counted_empty (capacity : Nat) : Counted (empty capacity : ProbeTable κ ν) := by
  refine ⟨?_, Nat.zero_le _, ?_⟩
  · rw [entries_empty]
    rfl
  · rw [size_empty]
    omega

/-- the table that the entries are inserted into anew -/
theorem Counted.size_empty (h : Counted t) :
    (empty (t.size * 2) : ProbeTable κ ν).size = 2 * t.size := by
  have := h.pos
  rw [ProbeTable.size_empty]
  omega

/-- twice the slots are enough for all entries -/
theorem Counted.room (h : Counted t) : 2 * ((empty (t.size * 2) : ProbeTable κ ν).count
    + t.entries.length) ≤ (empty (t.size * 2) : ProbeTable κ ν).size := by
  have hcount := h.count
  have hhalf := h.half
  show 2 * (0 + _) ≤ _
  rw [h.size_empty]
  omega

/-! ## Insertions into a table with room -/

variable [BEq κ] [Weighted κ]

/-- an insertion as it runs: when the slots double, the entries are inserted anew, and each of these
insertions may make the slots double again, up to a depth; beyond it there is no result -/
def insertWithin : Nat → ProbeTable κ ν → κ → ν → Option (ProbeTable κ ν)
  | 0, t, key, value => if t.isCrowded then none else some (t.place key value)
  | depth + 1, t, key, value => do
    let u ←
      if t.isCrowded then
        t.entries.foldlM (fun u e => insertWithin depth u e.1 e.2) (empty (t.size * 2))
      else some t
    return u.place key value

theorem insertWithin_of_not_crowded (h : t.isCrowded = false) (depth : Nat) (key : κ) (value : ν) :
    t.insertWithin depth key value = some (t.place key value) := by
  cases depth with
  | zero =>
    unfold insertWithin
    rw [h]
    rfl
  | succ depth =>
    unfold insertWithin
    rw [h]
    rfl

/-- with enough room for all of them, no entry that is inserted makes the slots double -/
theorem foldlM_insertWithin (depth : Nat) {es : List (κ × ν)}
    (hroom : 2 * (t.count + es.length) ≤ t.size) :
    es.foldlM (fun u e => insertWithin depth u e.1 e.2) t = some (t.insertAll es) := by
  induction es generalizing t with
  | nil => rfl
  | cons e es ih =>
    rw [List.length_cons] at hroom
    have hspacious := not_crowded (t := t) (by omega)
    have hcount : (t.place e.1 e.2).count ≤ t.count + 1 := count_placeAlong_le t _ _ _
    have hsize : (t.place e.1 e.2).size = t.size := size_placeAlong t _ _ _
    have hinsert := insert_of_not_crowded hspacious e.1 e.2
    rw [List.foldlM_cons, insertWithin_of_not_crowded hspacious, ← hinsert]
    refine ih ?_
    rw [hinsert, hsize]
    omega

namespace Counted

theorem exists_landing (h : Counted t) (key : κ) : ∃ i, t.landing key = some i := by
  have h1 := h.count
  have h2 := h.half
  have h3 := h.pos
  exact ProbeTable.exists_landing (by omega) key

theorem place (h : Counted t) (hroom : 2 * (t.count + 1) ≤ t.size) (key : κ) (value : ν) :
    Counted (t.place key value) := by
  obtain ⟨i, hi⟩ := h.exists_landing key
  have hsize : (t.place key value).size = t.size := size_placeAlong t _ _ _
  have hcount : (t.place key value).count ≤ t.count + 1 := count_placeAlong_le t _ _ _
  refine ⟨?_, by omega, hsize ▸ h.pos⟩
  rw [place_of_landing hi, length_entries_store (landing_lt hi), ← h.count]
  rfl

/-- entries placed one after the other with enough room for all -/
theorem foldl_place {es : List (κ × ν)} (h : Counted t)
    (hroom : 2 * (t.count + es.length) ≤ t.size) :
    Counted (es.foldl (fun t e => t.place e.1 e.2) t)
      ∧ (es.foldl (fun t e => t.place e.1 e.2) t).size = t.size
      ∧ (es.foldl (fun t e => t.place e.1 e.2) t).count ≤ t.count + es.length := by
  induction es generalizing t with
  | nil => exact ⟨h, rfl, Nat.le_refl _⟩
  | cons e es ih =>
    rw [List.length_cons] at hroom ⊢
    have hsize : (t.place e.1 e.2).size = t.size := size_placeAlong t _ _ _
    have hcount : (t.place e.1 e.2).count ≤ t.count + 1 := count_placeAlong_le t _ _ _
    obtain ⟨h1, h2, h3⟩ := ih (h.place (by omega) e.1 e.2) (by omega)
    exact ⟨h1, h2.trans hsize, by rw [List.foldl_cons]; omega⟩

/-- a table with twice the slots has no more entries -/
theorem grow (h : Counted t) :
    Counted t.grow ∧ t.grow.size = 2 * t.size ∧ t.grow.count ≤ t.count := by
  obtain ⟨h1, h2, h3⟩ := (counted_empty (t.size * 2)).foldl_place h.room
  have hzero : (empty (t.size * 2) : ProbeTable κ ν).count = 0 := rfl
  rw [hzero, Nat.zero_add, ← h.count] at h3
  exact ⟨h1, h2.trans h.size_empty, h3⟩

/-- before an entry is placed there is room for it -/
theorem spacious (h : Counted t) :
    Counted (if t.isCrowded then t.grow else t)
      ∧ (if t.isCrowded then t.grow else t).size = (if t.isCrowded then 2 * t.size else t.size)
      ∧ 2 * ((if t.isCrowded then t.grow else t).count + 1)
        ≤ (if t.isCrowded then t.grow else t).size := by
  have hhalf := h.half
  have hpos := h.pos
  by_cases hc : t.isCrowded = true
  · obtain ⟨h1, h2, h3⟩ := h.grow
    rw [if_pos hc, if_pos hc]
    exact ⟨h1, h2, by omega⟩
  · rw [if_neg hc, if_neg hc]
    refine ⟨h, rfl, ?_⟩
    unfold isCrowded at hc
    rw [decide_eq_true_iff] at hc
    omega

theorem insert (h : Counted t) (key : κ) (value : ν) : Counted (t.insert key value) := by
  obtain ⟨h1, -, h3⟩ := h.spacious
  exact h1.place h3 key value

theorem size_insert (h : Counted t) (key : κ) (value : ν) :
    (t.insert key value).size = if t.isCrowded then 2 * t.size else t.size :=
  (size_placeAlong _ _ _ _).trans h.spacious.2.1

/-- one level of doubling is enough: no entry that is inserted anew makes the slots double again -/
theorem insertWithin_eq (h : Counted t) (depth : Nat) (key : κ) (value : ν) :
    t.insertWithin (depth + 1) key value = some (t.insert key value) := by
  cases hc : t.isCrowded with
  | false => rw [insertWithin_of_not_crowded hc, insert_of_not_crowded hc]
  | true =>
    unfold insertWithin ProbeTable.insert
    rw [if_pos hc, if_pos hc, foldlM_insertWithin depth h.room, grow_eq_insertAll]
    rfl

/-- the walk of the key ends where the entry is put, before the insertion and after it -/
theorem stored (h : Counted t) (key : κ) (value : ν) :
    (key, value) ∈ (t.insert key value).entries
      ∧ ((key == key) = true → (t.insert key value).get? key = some value) := by
  obtain ⟨h1, -, -⟩ := h.spacious
  obtain ⟨i, hi⟩ := h1.exists_landing key
  have hslot := getElem?_store (if t.isCrowded then t.grow else t) (landing_lt hi) (key, value) i
  rw [if_pos rfl] at hslot
  unfold ProbeTable.insert
  rw [place_of_landing hi]
  refine ⟨mem_entries_iff.mpr ⟨i, hslot⟩, fun hrefl => ?_⟩
  rw [get?_eq_landing, landing_store_self hi hrefl, Option.bind_some, hslot]
  rfl

end Counted

/-! ## After any insertions -/

/-- how full a table is that had some number of slots at first -/
structure Occupancy (initial : Nat) (t : ProbeTable κ ν) : Prop where
  count : t.count = t.slots.toList.countP Option.isSome
  half : 2 * t.count ≤ t.size
  doubled : ∃ k, t.size = initial * 2 ^ k

/-- an insertion ends, with one level of doubling at most; the entry has a slot then, and is found
under its key -/
structure StoresOnce (t : ProbeTable κ ν) (key : κ) (value : ν) : Prop where
  ends : ∀ depth, t.insertWithin (depth + 1) key value = some (t.insert key value)
  size : (t.insert key value).size = if t.isCrowded then 2 * t.size else t.size
  stored : (key, value) ∈ (t.insert key value).entries
  found : (key == key) = true → (t.insert key value).get? key = some value

theorem Counted.storesOnce (h : Counted t) (key : κ) (value : ν) : StoresOnce t key value :=
  ⟨fun depth => h.insertWithin_eq depth key value, h.size_insert key value, (h.stored key value).1,
    (h.stored key value).2⟩

theorem Counted.insertAll (h : Counted t) (es : List (κ × ν)) :
    Counted (t.insertAll es) ∧ ∃ k, (t.insertAll es).size = t.size * 2 ^ k := by
  induction es generalizing t with
  | nil => exact ⟨h, 0, (Nat.mul_one _).symm⟩
  | cons e es ih =>
    obtain ⟨h1, k, hk⟩ := ih (h.insert e.1 e.2)
    rw [h.size_insert] at hk
    refine ⟨h1, ?_⟩
    show ∃ k, ((t.insert e.1 e.2).insertAll es).size = _
    rw [hk]
    split
    · exact ⟨k + 1, by rw [Nat.pow_succ']; ac_rfl⟩
    · exact ⟨k, rfl⟩

theorem Counted.occupancy (h : Counted t) (es : List (κ × ν)) :
    Occupancy t.size (t.insertAll es) := by
  obtain ⟨h1, h2⟩ := h.insertAll es
  exact ⟨h1.count.trans (length_entries _), h1.half, h2⟩

theorem Counted.count_le_place (h : Counted t) (key : κ) (value : ν) :
    t.count ≤ (t.place key value).count := by
  obtain ⟨i, hi⟩ := h.exists_landing key
  rw [place_of_landing hi]
  unfold store
  dsimp only
  split <;> omega

/-! ## Where equal keys weigh the same -/

namespace Sound

variable {p : κ → Prop}

theorem counted (ht : Sound p t) : Counted t := ⟨ht.count, ht.half, ht.pos⟩

variable (hp : KeyLaws p)
include hp

/-- doubling the slots loses no entry -/
theorem count_grow (ht : Sound p t) : t.grow.count = t.count := by
  obtain ⟨hgrow, -, hmem⟩ := ht.grow hp
  rw [hgrow.count, ht.count]
  exact ((List.perm_ext_iff_of_nodup (hgrow.nodup_entries hp) (ht.nodup_entries hp)).mpr
    hmem).length_eq

/-- no insertion loses an entry -/
theorem count_le_insert (ht : Sound p t) (key : κ) (value : ν) :
    t.count ≤ (t.insert key value).count := by
  refine Nat.le_trans (Nat.le_of_eq ?_) (ht.counted.spacious.1.count_le_place key value)
  split
  · exact (ht.count_grow hp).symm
  · rfl

theorem insertAll {es : List (κ × ν)} (ht : Sound p t) (hes : ∀ e ∈ es, p e.1) :
    Sound p (t.insertAll es) := by
  induction es generalizing t with
  | nil => exact ht
  | cons e es ih =>
    exact ih (ht.insert hp (hes e List.mem_cons_self) e.2) fun x hx =>
      hes x (List.mem_cons_of_mem _ hx)

/-- the slots are those of the beginning, or fewer than four for each entry and one more -/
theorem size_insertAll {es : List (κ × ν)} (ht : Sound p t) (hes : ∀ e ∈ es, p e.1) :
    (t.insertAll es).size = t.size ∨ (t.insertAll es).size < 4 * ((t.insertAll es).count + 1) := by
  -- from the end of the list: the last insertion that doubled the slots was into a crowded table
  induction es using List.reverseRecOn with
  | nil => exact Or.inl rfl
  | append_singleton es e ih =>
    have hes' : ∀ x ∈ es, p x.1 := fun x hx => hes x (List.mem_append_left _ hx)
    have hsound := ht.insertAll hp hes'
    have hcount := hsound.count_le_insert hp e.1 e.2
    rw [insertAll_concat, hsound.counted.size_insert]
    split
    · next hc =>
      unfold isCrowded at hc
      rw [decide_eq_true_iff] at hc
      omega
    · have := ih hes'
      omega

end Sound

/-- after any insertions, whatever the capacity and however keys are compared and weighed: the count
is that of the slots that are taken, at most half of them, and the slots were doubled some times;
one more insertion ends, doubles the slots once at most, and stores its entry.  Where equal keys
weigh the same, no insertion loses an entry, and the slots are those of the beginning or fewer than
four for each entry and one more -/
theorem insertAll_occupancy (capacity : Int) (es : List (κ × ν)) :
    ∃ n, slotCount (.int capacity) = .ok n ∧ (n : Int) = max 1 capacity
      ∧ Occupancy n ((empty n).insertAll es)
      ∧ (∀ key value, StoresOnce ((empty n).insertAll es) key value)
      ∧ ∀ p : κ → Prop, KeyLaws p → (∀ e ∈ es, p e.1) →
          (∀ key value, p key → ((empty n).insertAll es).count
              ≤ (((empty n).insertAll es).insert key value).count)
          ∧ (((empty n).insertAll es).size = n
            ∨ ((empty n).insertAll es).size < 4 * (((empty n).insertAll es).count + 1)) := by
  let n := max 1 capacity.toNat
  have hsize : (empty n : ProbeTable κ ν).size = n := by
    rw [size_empty]
    omega
  have hcounted : Counted (empty n : ProbeTable κ ν) := counted_empty n
  refine ⟨n, rfl, by omega, ?_, fun key value => (hcounted.insertAll es).1.storesOnce key value,
    fun p hp hes => ⟨fun key value _ => ?_, ?_⟩⟩
  · have := hcounted.occupancy es
    rwa [hsize] at this
  · exact ((sound_empty p n).insertAll hp hes).count_le_insert hp key value
  · have := (sound_empty p n).size_insertAll hp hes
    rwa [hsize] at this

/-! ## Equal keys of different weights -/

/-- two equal keys that weigh differently, between them a number -/
def crossedLabels : List (SlotKey × Nat) :=
  [(.label 1 (.str "a"), 10), (.number 3, 20), (.label 2 (.str "a"), 30)]

/-- both of the equal keys have a slot, and the first one is found again when it is inserted anew;
two numbers take two slots, and a third insertion does not make them fewer -/
theorem insertAll_crossedLabels :
    ∃ n, slotCount (.int (-1)) = .ok n
      ∧ ((empty n).insertAll crossedLabels).count = 3
      ∧ ((empty n).insertAll crossedLabels).size = 8
      ∧ (((empty n).insertAll crossedLabels).insertWithin 1 (.label 1 (.str "a")) 40).isSome = true
      ∧ (((empty n).insertAll crossedLabels).insert (.label 1 (.str "a")) 40).get?
          (.label 1 (.str "a")) = some 40
      ∧ 2 ≤ (((empty n).insertAll [(SlotKey.number 1, 10), (.number 2, 20)]).insert
          (.number 1) 30).count
      ∧ (4 = n ∨ 4 < 4 * (2 + 1)) := by
  obtain ⟨n, hn, hmax, hoccupancy, hstores, -⟩ := insertAll_occupancy (-1) crossedLabels
  obtain rfl : 1 = n := Except.ok.inj hn
  have h := hstores (.label 1 (.str "a")) 40
  have hends : (((empty 1).insertAll crossedLabels).insertWithin 1
      (.label 1 (.str "a")) 40).isSome = true := by
    rw [h.ends]
    rfl
  obtain ⟨n, hn, -, -, -, hlaws⟩ :=
    insertAll_occupancy (-1) [(SlotKey.number 1, 10), (.number 2, 20)]
  obtain rfl : 1 = n := Except.ok.inj hn
  obtain ⟨hcount, hsize⟩ := hlaws _ SlotKey.keyLaws_numbers (by decide)
  exact ⟨1, rfl, rfl, rfl, hends, h.found rfl, hcount (.number 1) 30 rfl, hsize⟩

end ProbeTable

end Introspect
