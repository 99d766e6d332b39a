import Introspect.Proofs.Dispatch.Journal
import Introspect.Proofs.Reflection.Specializations

/-!
# Listing dependents

The dependents on the dispatch of a function are read from one list, two elements at a time, and put
together by signature.  That works out for every list of even length whose signatures can be keys.

* `groupEdges_eq`   the dependents by signature;
* `backedges_eq`    the dependents of a function, those of its variants first;
* `backedges_of_odd`  a list of odd length is refused.
-/

namespace Introspect

open Signature (ofClasses)

/-! ## Signatures as keys -/

theorem Value.anyUnhashable?_ofClasses (h : Hierarchy) (cs : List ClassId) :
    Value.anyUnhashable? h (ofClasses cs) = Option.none := by
  induction cs with
  | nil => rfl
  | cons c cs ih => exact ih

/-- a tuple of classes can be a key -/
theorem Value.requireHashable_tuple_ofClasses (h : Hierarchy) (cs : List ClassId) :
    (Value.tuple (ofClasses cs)).requireHashable h = .ok () := by
  have hnone : (Value.tuple (ofClasses cs)).unhashable? h = Option.none :=
    Value.anyUnhashable?_ofClasses h cs
  unfold requireHashable
  rw [hnone]

/-- pairs put together by their first elements -/
theorem groupEdges_eq (h : Hierarchy) {es : List (Value × Value)}
    (hkeys : ∀ e ∈ es, e.1.requireHashable h = .ok ()) (groups : List (Value × List Value)) :
    groupEdges h es groups = .ok (es.foldl (fun g e => addGrouped g e.1 e.2) groups) := by
  induction es generalizing groups with
  | nil => rfl
  | cons e es ih =>
    obtain ⟨k, d⟩ := e
    unfold groupEdges
    rw [hkeys (k, d) List.mem_cons_self]
    exact ih (fun e he => hkeys e (List.mem_cons_of_mem _ he)) (addGrouped groups k d)

/-! ## The dependents of a function -/

theorem pairInterleaved_of_even (display : Value → String) (subject : Option Subject)
    {flat : List Value} (heven : flat.length % 2 = 0) :
    pairInterleaved display subject flat = .ok (pairs flat) := if_pos heven

theorem liftNoting_apply_of {α : Type} {r : Except Fault α} {a : α} (h : r = .ok a)
    (notes : List String) : liftNoting r notes = (.ok a, notes) := by
  rw [h]
  rfl

variable {s : Store} {view : Surroundings} {source : VariantSource}

theorem tableEdges_of_held {f : Nat} {ms : List Nat} {items : List Value}
    (ht : (s.function f).table = some ⟨ms, .held items⟩) (h : Hierarchy) :
    tableEdges s h (.generic f) = .ok items := by
  unfold tableEdges
  dsimp only
  rw [(Store.table?_eq_ok_iff s f _).mpr ht]
  rfl

section
variable {f : Nat} {flat : List Value}
  (hflat : tableEdges s view.hierarchy (.generic f) = .ok flat)
  {owned : List (Nat × Nat)} {notes notes' : List String}
  (howned : specializations s view source (.generic f) none notes = (.ok owned, notes'))
include hflat howned

/-- the dependents of a function: those of its variants, and those on its dispatch by signature -/
theorem backedges_eq (heven : flat.length % 2 = 0)
    (hkeys : ∀ e ∈ pairs flat, e.1.requireHashable view.hierarchy = .ok ()) :
    backedges s view source (.generic f) notes
      = (.ok (owned.map (fun e => (.variant e.1, variantEdges s view.hierarchy e.1))
          ++ ((pairs flat).foldl (fun g e => addGrouped g e.1 e.2) []).map fun g =>
              (.table f g.1, g.2)), notes') := by
  unfold backedges
  rw [Acting.bind_of_ok howned, hflat]
  dsimp only
  rw [Acting.bind_of_ok (Acting.pure_apply flat notes'),
    Acting.bind_of_ok (liftNoting_apply_of (pairInterleaved_of_even _ _ heven) notes'),
    Acting.bind_of_ok (liftNoting_apply_of (groupEdges_eq _ hkeys []) notes')]
  rfl

/-- a list of odd length is refused, and the function is named -/
theorem backedges_of_odd (hodd : flat.length % 2 ≠ 0) :
    backedges s view source (.generic f) notes
      = (.error (.oddEdges flat.length ((flat.getLast?.map (Value.display view)).getD "")
          (some (.of view (.generic f)))), notes') := by
  unfold backedges
  rw [Acting.bind_of_ok howned, hflat]
  dsimp only
  rw [Acting.bind_of_ok (Acting.pure_apply flat notes')]
  refine Acting.bind_of_error ?_
  unfold pairInterleaved
  rw [if_neg hodd]
  rfl

end

end Introspect
