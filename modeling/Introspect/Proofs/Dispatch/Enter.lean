import Introspect.Proofs.Acting
import Introspect.Proofs.Dispatch.Journal

/-!
# Entering a call, step by step

A call finds a method, then the variant, and then the caller is recorded, on the variant and, unless
the declared types are those of the call, on the table.

* `Store.addDependent_eq`   the edges of a variant with some callers become those with one more;
* `Store.addTableEdge_eq`   the same for the pairs on a table;
* `Store.enter_of_error`    nothing changes when no method is found;
* `Store.enter_of_idle`, `Store.enter_of_exact`, `Store.enter_of_wider`   the three ways in which a
                            call is entered;
* `Store.keeps_enter`       in any case methods change in their storage only, and the variant that is
                            being executed and the journal stay as they are.
-/

namespace Introspect

open Signature (ofClasses)

namespace Store

variable {s : Store}

theorem modifyVariant_self {v : Nat} {g : Variant → Variant} (h : g (s.variant v) = s.variant v) :
    s.modifyVariant v g = s := by
  unfold modifyVariant
  rw [modify_self h]

theorem modifyTable_self {f : Nat} {t : Table} {g : Table → Table}
    (ht : (s.function f).table = some t) (h : g t = t) : s.modifyTable f g = s := by
  unfold modifyTable modifyFunction
  rw [modify_self (d := default)]
  show { s.function f with table := (s.function f).table.map g } = s.function f
  rw [ht, Option.map_some, h, ← ht]

/-! ## Edges -/

/-- the edges of a variant with some callers become those with one more -/
theorem addDependent_eq (h : Hierarchy) {v : Nat} {ws : List Nat}
    (hv : (s.variant v).dependents = .ofCallers ws) (w : Nat) :
    addDependent h v w s = (.ok (), s.modifyVariant v fun i =>
      { i with dependents := .ofCallers (ws ++ [w]) }) := by
  have hnew : Edges.ofCallers (ws ++ [w]) = .held ((ws ++ [w]).eraseDups.map Value.variant) :=
    Edges.ofCallers_of_ne_nil (List.append_ne_nil_of_right_ne_nil ws (List.cons_ne_nil w []))
  unfold addDependent
  rw [hv, hnew, eraseDups_concat]
  cases ws with
  | nil => rfl
  | cons x ws =>
    have hheld : Edges.ofCallers (x :: ws) = .held ((x :: ws).eraseDups.map Value.variant) := rfl
    rw [hheld]
    by_cases hw : w ∈ x :: ws
    · have hc : ((x :: ws).eraseDups.map Value.variant).contains (.variant w) = true :=
        (contains_variant_iff _ w).mpr (List.mem_eraseDups.mpr hw)
      simp only [hc, if_true, if_pos hw]
      refine congrArg _ (modifyVariant_self ?_).symm
      rw [← hheld, ← hv]
    · have hc : ((x :: ws).eraseDups.map Value.variant).contains (.variant w) = false := by
        rw [← Bool.not_eq_true, contains_variant_iff, List.mem_eraseDups]
        exact hw
      simp only [hc, Bool.false_eq_true, if_false, if_neg hw]
      rw [List.map_append]
      rfl

/-- the pairs on a table become those with one more -/
theorem addTableEdge_eq (h : Hierarchy) {f : Nat} {ms : List Nat}
    {ps : List (List ClassId × Nat)}
    (hf : (s.function f).table = some ⟨ms, .held (interleave ps.eraseDups)⟩)
    (ts : List ClassId) (w : Nat) :
    addTableEdge h f (ofClasses ts) w s = (.ok (), s.modifyTable f fun t =>
      { t with edges := .held (interleave (ps ++ [(ts, w)]).eraseDups) }) := by
  unfold addTableEdge
  rw [(table?_eq_ok_iff s f _).mpr hf, eraseDups_concat]
  dsimp only
  by_cases hp : (ts, w) ∈ ps
  · have hc := (hasPair_interleave_iff ts w ps.eraseDups).mpr (List.mem_eraseDups.mpr hp)
    simp only [hc, if_true, if_pos hp]
    exact congrArg _ (modifyTable_self hf rfl).symm
  · have hc : hasPair (.tuple (ofClasses ts)) (.variant w) (interleave ps.eraseDups) = false := by
      rw [← Bool.not_eq_true, hasPair_interleave_iff, List.mem_eraseDups]
      exact hp
    simp only [hc, Bool.false_eq_true, if_false, if_neg hp]
    rw [interleave_append]
    rfl

/-! ## Entering -/

variable {viewOf : Store → Surroundings} {f m v w : Nat} {ts : List ClassId} {s₁ s₂ s₃ : Store}

/-- nothing changes when no method is found -/
theorem enter_of_error {e : Fault} (h : s.resolve (viewOf s) f (ofClasses ts) = .error e) :
    enter viewOf f ts s = (.error e, s) := by
  unfold enter
  simp only [Acting.bind_of_ok (Acting.get_apply s), h]
  exact Acting.bind_of_error (Acting.mk_pure_apply _ s)

section
variable (hr : s.resolve (viewOf s) f (ofClasses ts) = .ok m)
  (hv : variantFor (viewOf s).hierarchy m (ofClasses ts) s = (.ok v, s₁))
include hr hv

theorem enter_of_idle (ha : s.active = none) : enter viewOf f ts s = (.ok ⟨f, ts, m, v⟩, s₁) := by
  unfold enter
  simp only [Acting.bind_of_ok (Acting.get_apply s), hr, ha]
  rw [Acting.bind_of_ok (Acting.mk_pure_apply _ s), Acting.bind_of_ok hv]
  rfl

section
variable (ha : s.active = some w)
  (hd : addDependent (viewOf s).hierarchy v w s₁ = (.ok (), s₂))
include ha hd

theorem enter_of_exact (hx : s.isExact ⟨f, ts, m, v⟩ = true) :
    enter viewOf f ts s = (.ok ⟨f, ts, m, v⟩, s₂) := by
  unfold isExact at hx
  unfold enter
  simp only [Acting.bind_of_ok (Acting.get_apply s), hr, ha, Signature.length_ofClasses]
  rw [Acting.bind_of_ok (Acting.mk_pure_apply _ s), Acting.bind_of_ok hv, Acting.bind_of_ok hd,
    if_pos hx]
  rfl

theorem enter_of_wider (hx : s.isExact ⟨f, ts, m, v⟩ = false)
    (he : addTableEdge (viewOf s).hierarchy f (ofClasses ts) w s₂ = (.ok (), s₃)) :
    enter viewOf f ts s = (.ok ⟨f, ts, m, v⟩, s₃) := by
  unfold isExact at hx
  unfold enter
  simp only [Acting.bind_of_ok (Acting.get_apply s), hr, ha, Signature.length_ofClasses]
  rw [Acting.bind_of_ok (Acting.mk_pure_apply _ s), Acting.bind_of_ok hv, Acting.bind_of_ok hd,
    if_neg (by rw [hx]; exact Bool.false_ne_true), Acting.bind_of_ok he]
  rfl

end

end

/-! ## What does not change in any case -/

/-- methods differ in their storage only; there are as many functions, and the variant that is being
executed and the journal are the same -/
structure SameRun (s t : Store) : Prop where
  functions : t.functions.size = s.functions.size
  size : t.methods.size = s.methods.size
  method : ∀ k, t.method k = { s.method k with storage := (t.method k).storage }
  active : t.active = s.active
  journal : t.journal = s.journal

instance : IsPreorder Store SameRun where
  refl _ := ⟨rfl, rfl, fun _ => rfl, rfl, rfl⟩
  trans s t u h h' := by
    refine ⟨h'.functions.trans h.functions, h'.size.trans h.size, fun k => ?_,
      h'.active.trans h.active, h'.journal.trans h.journal⟩
    rw [h'.method k, h.method k]

theorem SameRun.isExact {s t : Store} (h : SameRun s t) (d : Dispatch) :
    t.isExact d = s.isExact d := by
  unfold Store.isExact
  rw [h.method]
  rfl

theorem sameRun_modifyStorage (s : Store) (m : Nat) (new : Storage) :
    SameRun s (s.modifyMethod m fun i => { i with storage := new }) := by
  refine ⟨rfl, size_modifyMethod s m _, fun k => ?_, rfl, rfl⟩
  -- all of a method but its storage is the same, whatever storage is put in its place
  have hall := apply_getD_modify (fun (i : Method) (other : Storage) => { i with storage := other })
    (f := fun i => { i with storage := new }) (fun _ => rfl) s.methods default m k
  exact congrFun hall _

theorem keeps_variantFor (h : Hierarchy) (m : Nat) (types : Signature) :
    Keeps SameRun (variantFor h m types) := by
  intro s
  have hmade : ∀ new : Storage, SameRun s
      ((s.addVariant m types).1.modifyMethod m fun i => { i with storage := new }) := by
    intro new
    have hsame := sameRun_modifyStorage (s.addVariant m types).1 m new
    exact ⟨rfl, hsame.size, hsame.method, rfl, rfl⟩
  unfold variantFor
  dsimp only
  split
  · exact refl_of SameRun s
  · split
    · exact refl_of SameRun s
    · exact hmade _
  · exact hmade _
  · split
    · exact refl_of SameRun s
    · exact hmade _
  · exact refl_of SameRun s
  · exact refl_of SameRun s
  · exact refl_of SameRun s

theorem keeps_addDependent (h : Hierarchy) (v dependent : Nat) :
    Keeps SameRun (addDependent h v dependent) := by
  intro s
  unfold addDependent
  dsimp only
  split
  · exact ⟨rfl, rfl, fun _ => rfl, rfl, rfl⟩
  · dsimp only
    split <;> exact ⟨rfl, rfl, fun _ => rfl, rfl, rfl⟩
  · exact refl_of SameRun s

theorem keeps_addTableEdge (h : Hierarchy) (f : Nat) (types : Signature) (dependent : Nat) :
    Keeps SameRun (addTableEdge h f types dependent) := by
  intro s
  unfold addTableEdge
  dsimp only
  split
  · exact refl_of SameRun s
  · split
    · exact refl_of SameRun s
    · dsimp only
      split
      · exact refl_of SameRun s
      · exact ⟨size_modifyFunction s f _, rfl, fun _ => rfl, rfl, rfl⟩
    · exact refl_of SameRun s

theorem keeps_enter (viewOf : Store → Surroundings) (f : Nat) (classes : List ClassId) :
    Keeps SameRun (enter viewOf f classes) := by
  unfold enter
  refine Keeps.get.bind fun s => ?_
  dsimp only
  refine Keeps.bind (fun t => refl_of SameRun t) fun m => (keeps_variantFor _ m _).bind fun v => ?_
  split
  · exact Keeps.pure _
  · refine (keeps_addDependent _ v _).bind fun _ => ?_
    split
    · exact Keeps.pure _
    · exact (keeps_addTableEdge _ f _ _).bind fun _ => Keeps.pure _

end Store

end Introspect
