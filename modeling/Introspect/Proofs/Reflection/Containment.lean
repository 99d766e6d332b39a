import Introspect.Proofs.Reflection.Specializations
import Introspect.Proofs.Storage.Insertions

/-!
# Storage that cannot be read

A source may stop with a fault before it yields anything or after some variants.  When the fault is
one that tells of unreadable storage, the method counts as one without variants, whatever was
yielded before, and the listing is the one that the function would have without that method.

* `storageFaults`              the faults that tell of unreadable storage;
* `Store.readings`             the variants that are listed, with their methods, as they are read;
* `foldl_addOwned`             a listing keeps the first place of a variant and the last method;
* `stopped_source`, `listed_source_other`   the readers of the two layouts, and storage of the other
                               one;
* `ListsReadable`              what a listing holds and what it leaves out;
* `specializations_contained`  the listing of a function some of whose methods cannot be read.
-/

namespace Introspect

/-- the faults that tell of storage that cannot be read -/
def storageFaults : List FaultKind :=
  [.attribute, .type, .lookup, .key, .index, .permission, .unavailable]

theorem isStorage_of_mem {k : FaultKind} (h : k ∈ storageFaults) : k.isStorage = true := by
  revert k
  decide

namespace Store

/-- whether a source reads a method to the end -/
def reads (s : Store) (h : Hierarchy) (source : VariantSource) (m : Nat) : Bool :=
  (source h (s.method m)).stopped.isNone

/-- the variants that are listed for several methods, with their methods, as they are read -/
def readings (s : Store) (h : Hierarchy) (source : VariantSource) (ms : List Nat) :
    List (Nat × Nat) :=
  ms.flatMap fun m => (source h (s.method m)).listed.map fun v => (v, m)

/-- a function without those methods that a source cannot read -/
def withoutUnread (s : Store) (h : Hierarchy) (source : VariantSource) (f : Nat) : Store :=
  s.modifyTable f fun t => { t with methods := t.methods.filter (s.reads h source) }

theorem listed_of_reads {s : Store} {h : Hierarchy} {source : VariantSource} {m : Nat}
    (hm : s.reads h source m = true) :
    (source h (s.method m)).listed = (source h (s.method m)).variants :=
  if_pos hm

theorem listed_of_unread {s : Store} {h : Hierarchy} {source : VariantSource} {m : Nat}
    (hm : s.reads h source m = false) : (source h (s.method m)).listed = [] :=
  if_neg (Bool.eq_false_iff.mp hm)

/-- methods that cannot be read make no difference to what is listed -/
theorem readings_filter (s : Store) (h : Hierarchy) (source : VariantSource) (ms : List Nat) :
    s.readings h source (ms.filter (s.reads h source)) = s.readings h source ms := by
  induction ms with
  | nil => rfl
  | cons m ms ih =>
    unfold readings at ih ⊢
    rw [List.flatMap_cons, ← ih]
    cases hm : s.reads h source m with
    | true => rw [List.filter_cons_of_pos hm, List.flatMap_cons]
    | false =>
      rw [List.filter_cons_of_neg (Bool.eq_false_iff.mp hm), listed_of_unread hm]
      rfl

end Store

/-! ## A variant that is read more than once -/

/-- the listing of variants that are read one after the other with their methods: each takes the
place where it was read first, and the method from which it was read last -/
theorem foldl_addOwned (rs : List (Nat × Nat)) :
    (rs.foldl (fun o r => addOwned o r.1 r.2) []).map Prod.fst = (rs.map Prod.fst).eraseDups
      ∧ ∀ e, e ∈ rs.foldl (fun o r => addOwned o r.1 r.2) []
          ↔ ProbeTable.lastInserted rs e.1 = some e := by
  induction rs using List.reverseRecOn with
  | nil => exact ⟨rfl, fun e => iff_of_false List.not_mem_nil nofun⟩
  | append_singleton rs r ih =>
    obtain ⟨hkeys, hmem⟩ := ih
    rw [List.foldl_append, List.map_append]
    show (addOwned _ r.1 r.2).map Prod.fst = (_ ++ [r.1]).eraseDups
      ∧ ∀ e, e ∈ addOwned _ r.1 r.2 ↔ _
    rw [keys_addOwned, hkeys, eraseDups_concat]
    refine ⟨if_congr List.mem_eraseDups rfl rfl, fun e => ?_⟩
    rw [mem_addOwned, hmem, ProbeTable.lastInserted_concat]
    by_cases hr : r.1 = e.1
    · rw [if_pos (beq_iff_eq.mpr hr), Option.some.injEq, eq_comm (a := e)]
      exact or_iff_left fun h => h.2 hr.symm
    · rw [if_neg fun hc => hr (beq_iff_eq.mp hc)]
      refine (or_iff_right ?_).trans (and_iff_left fun hc => hr hc.symm)
      rintro rfl
      exact hr rfl

/-! ## Methods that stop a source -/

section
variable {s : Store} {view : Surroundings} {source : VariantSource}

theorem foldl_collectInto_eq (ms : List Nat) :
    ms.foldl (fun o m => collectInto m (source view.hierarchy (s.method m)).listed o) []
      = (s.readings view.hierarchy source ms).foldl (fun o r => addOwned o r.1 r.2) [] := by
  unfold Store.readings collectInto
  rw [List.foldl_flatMap]
  simp only [List.foldl_map]

/-- a listing is made of what is read from the methods of the function -/
theorem specializations_eq_readings {f : Nat} {t : Table} (ht : (s.function f).table = some t)
    (h : ∀ m ∈ t.methods, ∀ e, (source view.hierarchy (s.method m)).stopped = some e →
      e.kind ∈ storageFaults) :
    (specializations s view source (.generic f) none).result
      = .ok ((s.readings view.hierarchy source t.methods).foldl
          (fun o r => addOwned o r.1 r.2) []) := by
  obtain ⟨notes, hres⟩ := specializations_eq ht
    (fun m hm => collects_listed fun e he => isStorage_of_mem (h m hm e he)) []
  rw [foldl_collectInto_eq] at hres
  exact congrArg Prod.fst hres

end

/-! ## Storage of the other layout -/

/-- storage that a reader of a layout is not made for: a chain for slots, slots for a chain -/
def Storage.IsOther : Layout → Storage → Prop
  | .slots, .chain _ => True
  | .linked, .slots _ => True
  | _, _ => False

/-- the readers of both layouts stop for no other reason than storage that cannot be read -/
theorem stopped_source (layout : Layout) (h : Hierarchy) (m : Method) {e : Fault}
    (he : (layout.source h m).stopped = some e) : e.kind ∈ storageFaults := by
  cases layout with
  | linked =>
    change (linkedSource h m).stopped = some e at he
    unfold linkedSource at he
    split at he
    · exact nomatch he
    · exact nomatch he
    · obtain rfl := Option.some.inj he
      decide
  | slots =>
    change (slotsSource h m).stopped = some e at he
    unfold slotsSource at he
    split at he
    · exact nomatch he
    · obtain rfl := Option.some.inj he
      decide
    · obtain rfl := Option.some.inj he
      decide
    · next v _ =>
      split at he
      · exact nomatch he
      · obtain rfl := Option.some.inj he
        exact List.mem_cons_self
      · next e' hlength =>
        obtain rfl := Option.some.inj he
        unfold Value.length at hlength
        split at hlength
        · exact nomatch hlength
        · obtain rfl := Except.error.inj hlength
          exact List.mem_cons_of_mem _ List.mem_cons_self
    · obtain rfl := Option.some.inj he
      decide

/-- a reader lists nothing of storage that it is not made for -/
theorem listed_source_other {layout : Layout} (h : Hierarchy) {m : Method}
    (hm : m.storage.IsOther layout) : (layout.source h m).listed = [] := by
  cases layout with
  | linked =>
    show (linkedSource h m).listed = []
    unfold linkedSource
    cases hs : m.storage with
    | slots t => rfl
    | chain c => rw [hs] at hm; exact hm.elim
    | missing => rfl
  | slots =>
    show (slotsSource h m).listed = []
    unfold slotsSource
    cases hs : m.storage with
    | slots t => rw [hs] at hm; exact hm.elim
    | missing => rfl
    | chain c =>
      obtain ⟨es, ending⟩ := c
      cases es with
      | cons e es => rfl
      | nil =>
        cases ending with
        | mark => rfl
        | value v =>
          dsimp only
          cases v.length h with
          | error e => rfl
          | ok n => cases n <;> rfl

/-! ## What is listed of a function -/

/-- a listing holds just the variants of the methods that can be read, and all of them: each once,
where it was read first, and with the method from which it was read last -/
structure ListsReadable (s : Store) (h : Hierarchy) (source : VariantSource) (ms : List Nat)
    (owned : List (Nat × Nat)) : Prop where
  keys : owned.map Prod.fst = ((s.readings h source ms).map Prod.fst).eraseDups
  mem_iff : ∀ e, e ∈ owned ↔ ProbeTable.lastInserted (s.readings h source ms) e.1 = some e
  nothing : ∀ m, s.reads h source m = false → ∀ v, (v, m) ∉ owned
  everything : ∀ m ∈ ms, s.reads h source m = true → ∀ v ∈ (source h (s.method m)).variants,
    v ∈ owned.map Prod.fst
      ∧ ((∀ k ∈ ms, v ∈ (source h (s.method k)).listed → k = m) → (v, m) ∈ owned)

section
variable {s : Store} {h : Hierarchy} {source : VariantSource} {ms : List Nat}

theorem mem_readings {v m : Nat} :
    (v, m) ∈ s.readings h source ms ↔ m ∈ ms ∧ v ∈ (source h (s.method m)).listed := by
  unfold Store.readings
  simp only [List.mem_flatMap, List.mem_map, Prod.mk.injEq]
  constructor
  · rintro ⟨k, hk, w, hw, rfl, rfl⟩
    exact ⟨hk, hw⟩
  · rintro ⟨hm, hv⟩
    exact ⟨m, hm, v, hv, rfl, rfl⟩

theorem listsReadable_readings : ListsReadable s h source ms
    ((s.readings h source ms).foldl (fun o r => addOwned o r.1 r.2) []) := by
  obtain ⟨hkeys, hmem⟩ := foldl_addOwned (s.readings h source ms)
  refine ⟨hkeys, hmem, fun m hm v hv => ?_, fun m hm hread v hv => ?_⟩
  · have hin := (mem_readings.mp (ProbeTable.mem_of_lastInserted ((hmem _).mp hv))).2
    rw [Store.listed_of_unread hm] at hin
    exact List.not_mem_nil hin
  · have hlisted : v ∈ (source h (s.method m)).listed := by
      rwa [Store.listed_of_reads hread]
    have hin : v ∈ ((s.readings h source ms).foldl (fun o r => addOwned o r.1 r.2) []).map
        Prod.fst := by
      rw [hkeys, List.mem_eraseDups]
      exact List.mem_map.mpr ⟨(v, m), mem_readings.mpr ⟨hm, hlisted⟩, rfl⟩
    refine ⟨hin, fun honly => ?_⟩
    -- the method from which the variant was read last is the only one there is
    obtain ⟨⟨w, k⟩, he, rfl⟩ := List.mem_map.mp hin
    obtain ⟨hk, hw⟩ := mem_readings.mp (ProbeTable.mem_of_lastInserted ((hmem _).mp he))
    exact honly k hk hw ▸ he

/-- the function without its unreadable methods is listed as the function itself -/
theorem specializations_withoutUnread {view view' : Surroundings} {f : Nat} {t : Table}
    (ht : (s.function f).table = some t) (hview : view'.hierarchy = view.hierarchy)
    (hfaults : ∀ m ∈ t.methods, ∀ e, (source view.hierarchy (s.method m)).stopped = some e →
      e.kind ∈ storageFaults) :
    (specializations (s.withoutUnread view.hierarchy source f) view' source
        (.generic f) none).result
      = (specializations s view source (.generic f) none).result := by
  have ht' : ((s.withoutUnread view.hierarchy source f).function f).table
      = some { t with methods := t.methods.filter (s.reads view.hierarchy source) } := by
    unfold Store.withoutUnread
    rw [Store.function_modifyTable s _ (Store.function_lt s ht), if_pos rfl, ht]
    rfl
  rw [specializations_eq_readings ht hfaults, specializations_eq_readings ht' ?_, hview]
  · exact congrArg (fun rs => Except.ok (rs.foldl (fun o r => addOwned o r.1 r.2) []))
      (s.readings_filter view.hierarchy source t.methods)
  · intro m hm
    rw [hview]
    exact hfaults m (List.mem_filter.mp hm).1

/-- whatever storage cannot be read, and however much was yielded before, a function is listed, as
the function that has only the methods that can be read; the readers of the two layouts can fail in
no other way, and list nothing of storage of the other layout -/
theorem specializations_contained {view : Surroundings} {f : Nat} {t : Table}
    (ht : (s.function f).table = some t) :
    (∀ source : VariantSource,
      (∀ m ∈ t.methods, ∀ e, (source view.hierarchy (s.method m)).stopped = some e →
        e.kind ∈ storageFaults) →
      ∃ owned, (specializations s view source (.generic f) none).result = .ok owned
        ∧ (∀ view' : Surroundings, view'.hierarchy = view.hierarchy →
            (specializations (s.withoutUnread view.hierarchy source f) view' source
              (.generic f) none).result = .ok owned)
        ∧ ListsReadable s view.hierarchy source t.methods owned)
      ∧ ∀ layout : Layout, ∃ owned,
          (specializations s view layout.source (.generic f) none).result = .ok owned
            ∧ ListsReadable s view.hierarchy layout.source t.methods owned
            ∧ ∀ m, (s.method m).storage.IsOther layout → ∀ v, (v, m) ∉ owned := by
  refine ⟨fun source hfaults => ?_, fun layout => ?_⟩
  · have hres := specializations_eq_readings ht hfaults
    exact ⟨_, hres, fun view' hview => (specializations_withoutUnread ht hview hfaults).trans hres,
      listsReadable_readings⟩
  · have hres : (specializations s view layout.source (.generic f) none).result = _ :=
      specializations_eq_readings ht fun m _ e he =>
        stopped_source layout view.hierarchy (s.method m) he
    refine ⟨_, hres, listsReadable_readings, fun m hm v hv => ?_⟩
    have hread := ProbeTable.mem_of_lastInserted (((foldl_addOwned _).2 _).mp hv)
    have hlisted := (mem_readings.mp hread).2
    rw [listed_source_other view.hierarchy hm] at hlisted
    exact List.not_mem_nil hlisted

end

/-! ## A function of which one method can be read -/

/-- a reader that follows a chain for some time and is then refused, and that reads slots -/
def refusedSource : VariantSource := fun h m =>
  match m.storage with
  | .chain c => ⟨c.values, some (.planted .permission)⟩
  | _ => slotsSource h m

/-- a function with a method in a chain, one in slots, and one whose storage was taken away -/
def Store.halfReadable : Store :=
  { Store.empty with
    functions := #[⟨"f", none, none, .slots, some ⟨[0, 1, 2], .held []⟩⟩]
    methods := #[⟨0, [.cls ⟨0⟩], [], none, default, .linked, .chain (Chain.empty.push [] 0)⟩,
      ⟨0, [.cls ⟨1⟩], [], none, default, .slots, .slots ((ProbeTable.empty 4).insert [] 1)⟩,
      ⟨0, [.cls ⟨2⟩], [], none, default, .slots, .missing⟩] }

/-- nothing declared, and nothing displayed -/
def Surroundings.bare : Surroundings :=
  ⟨.empty, fun _ => "", fun _ => "", fun _ => none, fun _ => ""⟩

/-- what was yielded of the chain is not listed, and the method in slots is the only one left -/
theorem specializations_halfReadable :
    (specializations .halfReadable .bare refusedSource (.generic 0) none).result = .ok [(1, 1)]
      ∧ (refusedSource .empty (Store.halfReadable.method 0)).variants = [0]
      ∧ (specializations (Store.halfReadable.withoutUnread .empty refusedSource 0) .bare
          refusedSource (.generic 0) none).result = .ok [(1, 1)]
      ∧ (specializations .halfReadable .bare linkedSource (.generic 0) none).result = .ok [(0, 0)]
      ∧ ∀ v, (v, 1) ∉ [(0, 0)] := by
  have ht : (Store.halfReadable.function 0).table = some ⟨[0, 1, 2], .held []⟩ := rfl
  have hfaults : ∀ m ∈ [0, 1, 2], ∀ e,
      (refusedSource .empty (Store.halfReadable.method m)).stopped = some e →
        e.kind ∈ storageFaults := by
    intro m hm e he
    simp only [List.mem_cons, List.not_mem_nil, or_false] at hm
    rcases hm with rfl | rfl | rfl
    · obtain rfl := Option.some.inj he
      decide
    · exact nomatch he
    · obtain rfl := Option.some.inj he
      decide
  have hcontained := @specializations_contained .halfReadable .bare 0 _ ht
  obtain ⟨owned, hres, hwithout, -⟩ := hcontained.1 refusedSource hfaults
  obtain rfl : [(1, 1)] = owned := Except.ok.inj hres
  obtain ⟨linked, hlinked, -, hother⟩ := hcontained.2 .linked
  obtain rfl : [(0, 0)] = linked := Except.ok.inj hlinked
  exact ⟨hres, rfl, hwithout .bare rfl, hlinked, hother 1 trivial⟩

end Introspect
