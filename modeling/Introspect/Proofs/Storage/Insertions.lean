import Introspect.Proofs.Lists
import Introspect.Proofs.Storage.ProbeTable
import Introspect.Storage.SlotKey

/-!
# Probe tables after insertions

A table that starts empty, with any number of slots, holds after some insertions just the last one
with each key, and a reader that tests every slot meets these and nothing else.

* `lastInserted`           the last of several insertions with an equal key;
* `insertAll`              a table after several insertions;
* `scan`                   what a reader meets that takes the values of the slots that are assigned;
* `grow_eq_insertAll`      the entries of a grown table might as well be inserted anew;
* `Sound.filter_entries`   one entry for each key class;
* `insertAll_eq_map`       a table is the finite map of the last insertions, whatever its capacity.
-/

namespace Introspect

namespace ProbeTable

variable {κ ν : Type}

/-- the last of several insertions with an equal key -/
def lastInserted [BEq κ] (es : List (κ × ν)) (key : κ) : Option (κ × ν) :=
  es.reverse.find? fun e => e.1 == key

/-- a table after several insertions -/
def insertAll [BEq κ] [Weighted κ] (t : ProbeTable κ ν) (es : List (κ × ν)) : ProbeTable κ ν :=
  es.foldl (fun t e => t.insert e.1 e.2) t

/-- the values at those of several indices that are assigned -/
def scanAlong (t : ProbeTable κ ν) : List Nat → Except Fault (List ν)
  | [] => .ok []
  | i :: rest => do
    if ← t.isAssigned i then
      let v ← t.item i
      return v :: (← t.scanAlong rest)
    else t.scanAlong rest

/-- the values that a reader meets at the indices of all slots -/
def scan (t : ProbeTable κ ν) : Except Fault (List ν) := t.scanAlong (List.range t.size)

theorem not_crowded {t : ProbeTable κ ν} (hroom : 2 * (t.count + 1) ≤ t.size) :
    t.isCrowded = false := by
  unfold isCrowded
  rw [decide_eq_false_iff_not]
  omega

/-! ## Reading slot by slot -/

theorem slotAt_of_lt {t : ProbeTable κ ν} {i : Nat} (hi : i < t.size) :
    t.slotAt i = .ok t.slots[i]?.join := by
  have hslot : t.slots[i]? = some t.slots[i] := Array.getElem?_eq_getElem hi
  have hneg : ¬ (i : Int) < 0 := by omega
  unfold slotAt
  simp only [if_neg hneg, Int.toNat_natCast, hslot]
  rw [if_pos (by omega)]
  rfl

theorem scanAlong_eq {t : ProbeTable κ ν} {is : List Nat} (his : ∀ i ∈ is, i < t.size) :
    t.scanAlong is = .ok (is.filterMap fun i => t.slots[i]?.join.map Prod.snd) := by
  induction is with
  | nil => rfl
  | cons i rest ih =>
    have hslot := slotAt_of_lt (his i List.mem_cons_self)
    have ih := ih fun j hj => his j (List.mem_cons_of_mem _ hj)
    unfold scanAlong isAssigned item
    rw [hslot, ih]
    cases h : t.slots[i]?.join with
    | none =>
      rw [List.filterMap_cons_none (by rw [h]; rfl)]
      rfl
    | some e =>
      rw [List.filterMap_cons_some (by rw [h]; rfl)]
      rfl

/-- a reader that tests every slot meets the values of the table, in the order of the slots -/
theorem scan_eq_values (t : ProbeTable κ ν) : t.scan = .ok t.values := by
  have hslots : t.slots.toList = (List.range t.size).map fun i => t.slots[i]?.join := by
    refine List.ext_getElem (by simp [size]) fun i hi hi' => ?_
    have hlt : i < t.slots.size := by simpa using hi
    simp [hlt]
  unfold scan values entries
  rw [scanAlong_eq fun i hi => List.mem_range.mp hi, hslots, List.filterMap_map,
    List.map_filterMap]
  rfl

/-! ## The last insertions -/

section
variable [BEq κ] {es : List (κ × ν)} {e : κ × ν} {key : κ}

theorem lastInserted_concat (es : List (κ × ν)) (e : κ × ν) (key : κ) :
    lastInserted (es ++ [e]) key = if e.1 == key then some e else lastInserted es key := by
  unfold lastInserted
  rw [List.reverse_append, List.reverse_singleton, List.singleton_append, List.find?_cons]
  cases e.1 == key <;> rfl

theorem mem_of_lastInserted (h : lastInserted es key = some e) : e ∈ es :=
  List.mem_reverse.mp (List.mem_of_find?_eq_some h)

theorem beq_of_lastInserted (h : lastInserted es key = some e) : (e.1 == key) = true :=
  List.find?_some (p := fun e : κ × ν => e.1 == key) h

/-! ## Growing is inserting anew -/

theorem size_placeAlong (t : ProbeTable κ ν) (key : κ) (v : ν) (w : List Nat) :
    (t.placeAlong key v w).size = t.size := by
  rw [placeAlong_eq_find?]
  cases w.find? (fits t.slots key) with
  | none => rfl
  | some i => exact size_store t i _

theorem count_placeAlong_le (t : ProbeTable κ ν) (key : κ) (v : ν) (w : List Nat) :
    (t.placeAlong key v w).count ≤ t.count + 1 := by
  rw [placeAlong_eq_find?]
  cases w.find? (fits t.slots key) with
  | none => exact Nat.le_succ _
  | some i =>
    rw [Option.map_some, Option.getD_some]
    unfold store
    dsimp only
    split <;> omega

variable [Weighted κ]

theorem insertAll_nil (t : ProbeTable κ ν) : t.insertAll [] = t := rfl

theorem insertAll_concat (t : ProbeTable κ ν) (es : List (κ × ν)) (e : κ × ν) :
    t.insertAll (es ++ [e]) = (t.insertAll es).insert e.1 e.2 := by
  unfold insertAll
  rw [List.foldl_append]
  rfl

theorem insert_of_not_crowded {t : ProbeTable κ ν} (h : t.isCrowded = false) (key : κ)
    (value : ν) : t.insert key value = t.place key value := by
  unfold insert
  rw [h]
  rfl

/-- with enough room for all of them, no entry that is inserted finds the table crowded -/
theorem insertAll_eq_foldl_place {t : ProbeTable κ ν} (hroom : 2 * (t.count + es.length) ≤ t.size) :
    t.insertAll es = es.foldl (fun t e => t.place e.1 e.2) t := by
  induction es generalizing t with
  | nil => rfl
  | cons e es ih =>
    rw [List.length_cons] at hroom
    have hinsert : t.insert e.1 e.2 = t.place e.1 e.2 :=
      insert_of_not_crowded (not_crowded (by omega)) e.1 e.2
    have hcount : (t.place e.1 e.2).count ≤ t.count + 1 := count_placeAlong_le t _ _ _
    have hsize : (t.place e.1 e.2).size = t.size := size_placeAlong t _ _ _
    have hrest : 2 * ((t.place e.1 e.2).count + es.length) ≤ (t.place e.1 e.2).size := by
      rw [hsize]
      omega
    show (t.insert e.1 e.2).insertAll es = es.foldl _ (t.place e.1 e.2)
    rw [hinsert]
    exact ih hrest

/-- the entries of a grown table might as well be inserted anew: none of them makes it grow again -/
theorem grow_eq_insertAll (t : ProbeTable κ ν) :
    t.grow = (empty (t.size * 2) : ProbeTable κ ν).insertAll t.entries := by
  have hle : t.entries.length ≤ t.size := by
    unfold entries size
    rw [← Array.length_toList]
    exact List.length_filterMap_le _ _
  have hroom : 2 * ((empty (t.size * 2) : ProbeTable κ ν).count + t.entries.length)
      ≤ (empty (t.size * 2) : ProbeTable κ ν).size := by
    show 2 * (0 + _) ≤ _
    rw [size_empty]
    omega
  exact (insertAll_eq_foldl_place hroom).symm

/-! ## A table is the map of the last insertions -/

variable {p : κ → Prop} (hp : KeyLaws p)
include hp

/-- equal keys have the same last insertion -/
theorem lastInserted_congr {a b : κ} (ha : p a) (hb : p b) (hab : (a == b) = true)
    (hes : ∀ e ∈ es, p e.1) : lastInserted es a = lastInserted es b := by
  have htest : ∀ e ∈ es.reverse, (e.1 == a) = (e.1 == b) := by
    intro e he
    have hk := hes e (List.mem_reverse.mp he)
    rw [Bool.eq_iff_iff]
    exact ⟨fun h => hp.trans hk ha hb h hab, fun h => hp.trans hk hb ha h (hp.symm ha hb hab)⟩
  unfold lastInserted
  rw [← List.head?_filter, ← List.head?_filter, List.filter_congr htest]

/-- the entries are those insertions that no later one with an equal key replaced -/
theorem insertAll_inv {t : ProbeTable κ ν} (ht : Sound p t) (hempty : t.entries = [])
    (hes : ∀ e ∈ es, p e.1) :
    Sound p (t.insertAll es)
      ∧ ∀ e, e ∈ (t.insertAll es).entries ↔ lastInserted es e.1 = some e := by
  -- from the end of the list, since the last insertion is the one that counts
  induction es using List.reverseRecOn with
  | nil =>
    refine ⟨ht, fun e => ?_⟩
    rw [insertAll_nil, hempty]
    exact iff_of_false List.not_mem_nil nofun
  | append_singleton es x ih =>
    have hx := hes x (List.mem_append_right _ (List.mem_singleton.mpr rfl))
    obtain ⟨hsound, hmem⟩ := ih fun e he => hes e (List.mem_append_left _ he)
    rw [insertAll_concat]
    refine ⟨hsound.insert hp hx x.2, fun e => ?_⟩
    rw [hsound.mem_entries_insert hp hx, lastInserted_concat]
    cases hxe : x.1 == e.1 with
    | true =>
      rw [if_pos rfl, Option.some.injEq]
      refine ⟨?_, fun h => Or.inl h.symm⟩
      rintro (rfl | ⟨he, hne⟩)
      · rfl
      · rw [hp.symm hx (hsound.keys e he) hxe] at hne
        exact Bool.noConfusion hne
    | false =>
      rw [if_neg Bool.false_ne_true, ← hmem]
      refine ⟨?_, fun he => Or.inr ⟨he, ?_⟩⟩
      · rintro (rfl | ⟨he, -⟩)
        · rw [hp.refl hx] at hxe
          exact Bool.noConfusion hxe
        · exact he
      · rw [← Bool.not_eq_true] at hxe ⊢
        exact fun h => hxe (hp.symm (hsound.keys e he) hx h)

/-- the value under a key is that of the last insertion with an equal key -/
theorem get?_eq_lastInserted {t : ProbeTable κ ν} (ht : Sound p t) (hes : ∀ e ∈ es, p e.1)
    (hmem : ∀ e, e ∈ t.entries ↔ lastInserted es e.1 = some e) (hkey : p key) :
    t.get? key = (lastInserted es key).map Prod.snd := by
  refine Option.ext fun v => ?_
  rw [ht.get?_eq_some_iff hp hkey, Option.map_eq_some_iff]
  constructor
  · rintro ⟨k, hk, hbeq⟩
    rw [← lastInserted_congr hp (ht.keys _ hk) hkey hbeq hes, (hmem _).mp hk]
    exact ⟨_, rfl, rfl⟩
  · rintro ⟨e, he, rfl⟩
    have hbeq := beq_of_lastInserted he
    have hek := hes e (mem_of_lastInserted he)
    rw [← lastInserted_congr hp hek hkey hbeq hes] at he
    exact ⟨e.1, (hmem e).mpr he, hbeq⟩

/-- there is one entry with a key equal to a given one, the last insertion with such a key, if there
was one -/
theorem Sound.filter_entries {t : ProbeTable κ ν} (ht : Sound p t) (hes : ∀ e ∈ es, p e.1)
    (hmem : ∀ e, e ∈ t.entries ↔ lastInserted es e.1 = some e) (hkey : p key) :
    t.entries.filter (fun e => e.1 == key) = (lastInserted es key).toList := by
  have hin : ∀ e ∈ t.entries.filter (fun e => e.1 == key), lastInserted es key = some e := by
    intro e he
    obtain ⟨he, hbeq⟩ := List.mem_filter.mp he
    rw [← lastInserted_congr hp (ht.keys e he) hkey hbeq hes]
    exact (hmem e).mp he
  have hout : ∀ e, lastInserted es key = some e → e ∈ t.entries.filter (fun e => e.1 == key) := by
    intro e he
    have hbeq := beq_of_lastInserted he
    have hek := hes e (mem_of_lastInserted he)
    rw [← lastInserted_congr hp hek hkey hbeq hes] at he
    exact List.mem_filter.mpr ⟨(hmem e).mpr he, hbeq⟩
  have hnodup : (t.entries.filter fun e => e.1 == key).Nodup := (ht.nodup_entries hp).filter _
  exact eq_toList_of_nodup hnodup fun e => ⟨hin e, hout e⟩

end

/-- whatever the capacity, a table is the finite map of the last insertions: a look-up finds the last
value under an equal key, and a reader that tests every slot meets the values of the entries, which
are one for each key that was inserted, the last one, and no others -/
theorem insertAll_eq_map [BEq κ] [Weighted κ] {p : κ → Prop} (hp : KeyLaws p) (capacity : Int)
    {es : List (κ × ν)} (hes : ∀ e ∈ es, p e.1) :
    ∃ n, slotCount (.int capacity) = .ok n
      ∧ (∀ key, p key → ((empty n).insertAll es).get? key = (lastInserted es key).map Prod.snd)
      ∧ ((empty n).insertAll es).scan = .ok (((empty n).insertAll es).entries.map Prod.snd)
      ∧ (∀ key, p key → ((empty n).insertAll es).entries.filter (fun e => e.1 == key)
          = (lastInserted es key).toList)
      ∧ ∀ e, e ∈ ((empty n).insertAll es).entries ↔ lastInserted es e.1 = some e := by
  let n := max 1 capacity.toNat
  obtain ⟨hsound, hmem⟩ := insertAll_inv hp (sound_empty p n) (entries_empty n) hes
  exact ⟨n, rfl, fun key hkey => get?_eq_lastInserted hp hsound hes hmem hkey, scan_eq_values _,
    fun key hkey => hsound.filter_entries hp hes hmem hkey, hmem⟩

end ProbeTable

/-! ## Numbers as keys -/

namespace SlotKey

theorem beq_iff_of_number {a : SlotKey} (ha : a.number?.isSome = true) (b : SlotKey) :
    (a == b) = true ↔ a.number? = b.number? := by
  show a.same b = true ↔ a.number? = b.number?
  cases a with
  | label w n => exact absurd ha Bool.false_ne_true
  | number m => cases b <;> simp [same, number?]
  | truth m => cases b <;> simp [same, number?]

/-- a truth value weighs what the integer weighs that it equals -/
theorem weight_of_number {a : SlotKey} {n : Int} (ha : a.number? = some n) :
    Weighted.weight a = wrapWeight n := by
  cases a with
  | label w k => exact nomatch ha
  | number m =>
    obtain rfl : m = n := Option.some.inj ha
    rfl
  | truth b =>
    obtain rfl : (if b then 1 else 0) = n := Option.some.inj ha
    cases b <;> decide +kernel

/-- on integers and truth values equality is an equivalence that the weights respect -/
theorem keyLaws_numbers : KeyLaws fun k : SlotKey => k.number?.isSome = true where
  refl ha := (beq_iff_of_number ha _).mpr rfl
  symm ha hb h := (beq_iff_of_number hb _).mpr ((beq_iff_of_number ha _).mp h).symm
  trans ha hb _ hab hbc := (beq_iff_of_number ha _).mpr
    (((beq_iff_of_number ha _).mp hab).trans ((beq_iff_of_number hb _).mp hbc))
  weight ha _ h := by
    obtain ⟨n, hn⟩ := Option.isSome_iff_exists.mp ha
    rw [weight_of_number hn, weight_of_number (((beq_iff_of_number ha _).mp h).symm.trans hn)]

end SlotKey

namespace ProbeTable

/-- three keys of the same weight, two of them equal, and one of a negative weight -/
def collidingNumbers : List (SlotKey × Nat) :=
  [(.number 1, 10), (.number (-1), 20), (.number 2305843009213693952, 30), (.truth true, 40)]

theorem insertAll_collidingNumbers :
    ∃ n, slotCount (.int (-3)) = .ok n
      ∧ ((empty n).insertAll collidingNumbers).get? (.number 1) = some 40
      ∧ ((empty n).insertAll collidingNumbers).get? (.number 0) = none
      ∧ ((empty n).insertAll collidingNumbers).entries.filter (fun e => e.1 == .number 1)
          = [(.truth true, 40)]
      ∧ ((empty n).insertAll collidingNumbers).scan = .ok [40, 30, 20] := by
  have hnumbers : ∀ e ∈ collidingNumbers, e.1.number?.isSome = true := by decide
  obtain ⟨n, hn, hget, hscan, hfilter, -⟩ :=
    insertAll_eq_map SlotKey.keyLaws_numbers (-3) hnumbers
  obtain rfl : 1 = n := Except.ok.inj hn
  exact ⟨1, rfl, hget (.number 1) rfl, hget (.number 0) rfl, hfilter (.number 1) rfl,
    hscan.trans rfl⟩

end ProbeTable

end Introspect
