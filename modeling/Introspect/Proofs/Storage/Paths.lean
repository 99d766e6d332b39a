import Introspect.Proofs.Storage.Insertions

/-!
# What a walk passes

A look-up gives up at the first empty slot, so a stored key is found only if there is no gap on the
way to its slot: from where its weight starts, around the end, every slot before its own holds
another key.  No two slots hold equal keys.  Both facts together survive every placing of an entry,
whether the slot was empty or held the key, and every doubling of the slots, however full the table
is.

* `step`                  the slot that a walk comes to after some steps;
* `Passes t key j`        a walk comes to a slot past other keys only;
* `Probed p t`            the two facts;
* `placed_iff_probed`     they say that the walk of every stored key ends at its own slot;
* `Placed.insert`, `Placed.grow`   what an insertion and a doubling leave;
* `probed_insertions`     both facts after any insertions, and after any one of them.
-/

namespace Introspect.ProbeTable

variable {κ ν : Type}

/-! ## Steps of a walk -/

/-- the slot that a walk comes to after some steps -/
def step (size start n : Nat) : Nat := (start + n) % size

/-- the first slot of a walk that passes a test, by the number of steps to it -/
theorem find?_path_eq_some_iff {size start j : Nat} {test : Nat → Bool} :
    (path size start).find? test = some j ↔ test j = true ∧ ∃ n < size, step size start n = j
      ∧ ∀ m < n, test (step size start m) = false := by
  unfold path
  rw [List.find?_eq_some_iff_getElem]
  simp only [List.length_map, List.length_range, List.getElem_map, List.getElem_range,
    Bool.not_eq_true']
  refine and_congr_right fun _ => ⟨?_, ?_⟩
  · rintro ⟨n, hn, hj, hbefore⟩
    exact ⟨n, hn, hj, hbefore⟩
  · rintro ⟨n, hn, hj, hbefore⟩
    exact ⟨n, hn, hj, hbefore⟩

variable [BEq κ]

/-- a slot at which no walk of a key ends holds another key -/
theorem fits_eq_false_iff {slots : Array (Option (κ × ν))} {key : κ} {i : Nat} :
    fits slots key i = false ↔ ∃ e, slots[i]? = some (some e) ∧ (e.1 == key) = false := by
  constructor
  · intro h
    match hi : slots[i]? with
    | some (some e) => exact ⟨e, rfl, (fits_of_entry hi key).symm.trans h⟩
    | some none => exact absurd ((fits_of_empty hi key).symm.trans h) Bool.noConfusion
    | none =>
      unfold fits at h
      rw [hi] at h
      exact absurd h Bool.noConfusion
  · rintro ⟨e, hi, he⟩
    exact (fits_of_entry hi key).trans he

variable [Weighted κ] {t : ProbeTable κ ν} {p : κ → Prop}

/-- the walk of a key comes to a slot past slots that hold other keys -/
def Passes (t : ProbeTable κ ν) (key : κ) (j : Nat) : Prop :=
  ∃ n < t.size, step t.size (start t.size (Weighted.weight key)) n = j
    ∧ ∀ m < n, ∃ e, t.slots[step t.size (start t.size (Weighted.weight key)) m]? = some (some e)
      ∧ (e.1 == key) = false

theorem landing_eq_some_iff {key : κ} {j : Nat} :
    t.landing key = some j ↔ fits t.slots key j = true ∧ t.Passes key j := by
  simp only [Passes, ← fits_eq_false_iff]
  exact find?_path_eq_some_iff

/-- the walk of every stored key, which is one of `p`, comes to its slot past other keys only, and
no two slots hold equal keys -/
structure Probed (p : κ → Prop) (t : ProbeTable κ ν) : Prop where
  keys : ∀ e ∈ t.entries, p e.1
  passes : ∀ (j : Nat) (e : κ × ν), t.slots[j]? = some (some e) → t.Passes e.1 j
  distinct : ∀ (i j : Nat) (e e' : κ × ν), t.slots[i]? = some (some e) →
    t.slots[j]? = some (some e') → (e.1 == e'.1) = true → i = j

/-- what every step of a fold keeps, the fold keeps -/
theorem Placed.foldl {f : ProbeTable κ ν → κ × ν → ProbeTable κ ν}
    (hf : ∀ e t, p e.1 → Placed p t → Placed p (f t e)) {es : List (κ × ν)} (ht : Placed p t)
    (hes : ∀ e ∈ es, p e.1) : Placed p (es.foldl f t) := by
  induction es generalizing t with
  | nil => exact ht
  | cons e es ih =>
    obtain ⟨he, hes⟩ := List.forall_mem_cons.mp hes
    exact ih (hf e t he ht) hes

section
variable (hp : KeyLaws p)
include hp

theorem placed_iff_probed : Placed p t ↔ Probed p t := by
  constructor
  · intro ht
    exact ⟨ht.keys, fun j e hj => (landing_eq_some_iff.mp (ht.placed j e hj)).2,
      fun i j e e' hi hj he => ht.slot_unique hp hi hj he⟩
  · intro ht
    refine ⟨ht.keys, fun j e hj => landing_eq_some_iff.mpr ⟨?_, ht.passes j e hj⟩⟩
    rw [fits_of_entry hj]
    exact hp.refl (ht.keys e (mem_entries_iff.mpr ⟨j, hj⟩))

/-! ## Placing and doubling -/

namespace Placed

/-- an entry is placed where the walk of its key ends, or nowhere when the walk does not end -/
theorem place (ht : Placed p t) {key : κ} (hkey : p key) (value : ν) :
    Placed p (t.place key value) := by
  cases hi : t.landing key with
  | some i =>
    rw [place_of_landing hi]
    exact ht.store hp hkey hi value
  | none =>
    have hsame : t.place key value = t := by
      unfold landing at hi
      unfold ProbeTable.place
      rw [placeAlong_eq_find?, hi]
      rfl
    rwa [hsame]

/-- the entries are placed anew, under walks that start elsewhere -/
theorem grow (ht : Placed p t) : Placed p t.grow :=
  (placed_empty p (t.size * 2)).foldl (fun e _ he ht => ht.place hp he e.2) ht.keys

theorem insert (ht : Placed p t) {key : κ} (hkey : p key) (value : ν) :
    Placed p (t.insert key value) := by
  unfold ProbeTable.insert
  split
  · exact (ht.grow hp).place hp hkey value
  · exact ht.place hp hkey value

theorem insertAll {es : List (κ × ν)} (ht : Placed p t) (hes : ∀ e ∈ es, p e.1) :
    Placed p (t.insertAll es) :=
  ht.foldl (fun e _ he ht => ht.insert hp he e.2) hes

end Placed

/-- after any insertions, whatever the capacity, the walk of every stored key comes to its slot past
other keys only, and no two slots hold equal keys; in whatever table this holds, it holds after a
doubling of the slots, after the placing of an entry, which may replace one with an equal key, and
after an insertion -/
theorem probed_insertions :
    (∀ (capacity : Int) (es : List (κ × ν)), (∀ e ∈ es, p e.1) →
      ∃ n, slotCount (.int capacity) = .ok n ∧ Probed p ((empty n).insertAll es))
    ∧ ∀ t : ProbeTable κ ν, Probed p t →
        Probed p t.grow
          ∧ ∀ key value, p key → Probed p (t.place key value) ∧ Probed p (t.insert key value) := by
  constructor
  · intro capacity es hes
    exact ⟨max 1 capacity.toNat, rfl,
      (placed_iff_probed hp).mp ((placed_empty p _).insertAll hp hes)⟩
  · intro t ht
    have ht := (placed_iff_probed hp).mpr ht
    exact ⟨(placed_iff_probed hp).mp (ht.grow hp), fun key value hkey =>
      ⟨(placed_iff_probed hp).mp (ht.place hp hkey value),
        (placed_iff_probed hp).mp (ht.insert hp hkey value)⟩⟩

end

/-- three keys that start at the last of eight slots, one of them inserted again -/
def startingLast : List (SlotKey × Nat) :=
  [(.number 7, 10), (.number 15, 20), (.number 23, 30), (.number 15, 40)]

/-- the third key has its slot behind the other two, around the end -/
theorem probed_startingLast :
    ∃ n, slotCount (.int 8) = .ok n
      ∧ ((empty n).insertAll startingLast).slots[1]? = some (some (.number 23, 30))
      ∧ ((empty n).insertAll startingLast).Passes (.number 23) 1
      ∧ Probed (fun k => k.number?.isSome = true) ((empty n).insertAll startingLast).grow
      ∧ Probed (fun k => k.number?.isSome = true)
          (((empty n).insertAll startingLast).insert (.truth true) 50) := by
  obtain ⟨hreached, hkept⟩ := probed_insertions (ν := Nat) SlotKey.keyLaws_numbers
  obtain ⟨n, hn, hprobed⟩ := hreached 8 startingLast (by decide)
  obtain rfl : 8 = n := Except.ok.inj hn
  have hslot : ((empty 8).insertAll startingLast).slots[1]? = some (some (.number 23, 30)) := rfl
  obtain ⟨hgrow, hinsert⟩ := hkept _ hprobed
  exact ⟨8, rfl, hslot, hprobed.passes 1 _ hslot, hgrow, (hinsert (.truth true) 50 rfl).2⟩

end Introspect.ProbeTable
