import Introspect.Proofs.Dispatch.Signature
import Introspect.Proofs.Dispatch.Store
import Introspect.Proofs.Lists
import Introspect.Reflection.Backedges

/-!
# What the journal of a store says

The journal holds the beginnings and the ends of calls, the newest first.  Read from its end it
tells, at any time, which calls are under execution, and so from inside which variant a call was
made.

* `executing`        the variants of the calls under execution, the innermost first;
* `calls`            the calls made, the oldest first, each with the variant that made it;
* `callersOf`        the variants that made the calls of a variant;
* `tableCallers`     the types and callers of the calls whose declared types are wider;
* `Edges.ofCallers`  the edges of a variant with some callers: each is listed once, in the order of
                     the first occurrence, and without callers there is no list;
* `interleave`       the pairs of types and callers as one list.
-/

namespace Introspect

open Signature (ofClasses)

/-- the variants of the calls under execution, the innermost first -/
def executing : List Event → List Nat
  | [] => []
  | .entered d :: es => d.variant :: executing es
  | .left :: es => (executing es).tail

/-- a call and the variant from inside which it was made, if there is one -/
structure MadeCall where
  dispatch : Dispatch
  caller : Option Nat
  deriving DecidableEq, Repr

/-- the calls that found their method and variant, the oldest first -/
def calls : List Event → List MadeCall
  | [] => []
  | .entered d :: es => calls es ++ [⟨d, (executing es).head?⟩]
  | .left :: es => calls es

/-- the variants that made the calls of a variant -/
def callersOf (v : Nat) (cs : List MadeCall) : List Nat :=
  cs.filterMap fun c => if c.dispatch.variant = v then c.caller else none

/-- the edges of a variant with some callers -/
def Edges.ofCallers : List Nat → Edges
  | [] => .missing
  | cs => .held (cs.eraseDups.map Value.variant)

/-- whether the declared types of the method of a call are the types of the call -/
def Store.isExact (s : Store) (d : Dispatch) : Bool :=
  (s.method d.method).parameterTypes d.types.length == some (ofClasses d.types)

/-- the types and callers of the calls of a function whose method declares other types -/
def tableCallers (s : Store) (f : Nat) (cs : List MadeCall) : List (List ClassId × Nat) :=
  cs.filterMap fun c =>
    if c.dispatch.function = f ∧ s.isExact c.dispatch = false then
      c.caller.map fun w => (c.dispatch.types, w)
    else none

/-- pairs of types and callers as one list -/
def interleave (ps : List (List ClassId × Nat)) : List Value :=
  ps.flatMap fun p => [.tuple (ofClasses p.1), .variant p.2]

/-! ## Callers -/

theorem callersOf_concat (v : Nat) (cs : List MadeCall) (c : MadeCall) :
    callersOf v (cs ++ [c])
      = callersOf v cs ++ if c.dispatch.variant = v then c.caller.toList else [] := by
  unfold callersOf
  rw [List.filterMap_append, List.filterMap_cons, List.filterMap_nil]
  by_cases h : c.dispatch.variant = v
  · rw [if_pos h, if_pos h]
    cases c.caller <;> rfl
  · rw [if_neg h, if_neg h]

theorem tableCallers_concat (s : Store) (f : Nat) (cs : List MadeCall) (c : MadeCall) :
    tableCallers s f (cs ++ [c])
      = tableCallers s f cs
        ++ if c.dispatch.function = f ∧ s.isExact c.dispatch = false then
            c.caller.toList.map fun w => (c.dispatch.types, w)
          else [] := by
  unfold tableCallers
  rw [List.filterMap_append, List.filterMap_cons, List.filterMap_nil]
  by_cases h : c.dispatch.function = f ∧ s.isExact c.dispatch = false
  · rw [if_pos h, if_pos h]
    cases c.caller <;> rfl
  · rw [if_neg h, if_neg h]

theorem callersOf_eq_nil {v : Nat} {cs : List MadeCall} (h : ∀ c ∈ cs, c.dispatch.variant ≠ v) :
    callersOf v cs = [] :=
  List.filterMap_eq_nil_iff.mpr fun c hc => if_neg (h c hc)

/-- the callers on a table depend on the declared types of the methods that were called only -/
theorem tableCallers_congr {s t : Store} {cs : List MadeCall}
    (h : ∀ c ∈ cs, s.isExact c.dispatch = t.isExact c.dispatch) (f : Nat) :
    tableCallers s f cs = tableCallers t f cs := by
  unfold tableCallers
  refine List.filterMap_congr fun c hc => ?_
  rw [h c hc]

theorem mem_tableCallers {s : Store} {f w : Nat} {ts : List ClassId} {cs : List MadeCall} :
    (ts, w) ∈ tableCallers s f cs ↔
      ∃ c ∈ cs, c.dispatch.function = f ∧ s.isExact c.dispatch = false ∧ c.dispatch.types = ts
        ∧ c.caller = some w := by
  unfold tableCallers
  rw [List.mem_filterMap]
  refine exists_congr fun c => and_congr_right fun _ => ?_
  by_cases h : c.dispatch.function = f ∧ s.isExact c.dispatch = false
  · rw [if_pos h, Option.map_eq_some_iff]
    simp only [Prod.mk.injEq]
    exact ⟨fun ⟨_, hw, ht, he⟩ => ⟨h.1, h.2, ht, he ▸ hw⟩, fun ⟨_, _, ht, hw⟩ => ⟨w, hw, ht, rfl⟩⟩
  · rw [if_neg h]
    exact ⟨fun hc => absurd hc (by simp), fun hc => absurd ⟨hc.1, hc.2.1⟩ h⟩

/-! ## Edges on variants -/

@[simp] theorem Value.beq_variant (v w : Nat) : (Value.variant v == .variant w) = (v == w) := rfl

/-- a list of variants holds a variant when that is one of them -/
theorem contains_variant_iff (vs : List Nat) (w : Nat) :
    (vs.map Value.variant).contains (.variant w) = true ↔ w ∈ vs := by
  rw [List.contains_iff_exists_mem_beq]
  simp only [List.mem_map, exists_exists_and_eq_and, Value.beq_variant, beq_iff_eq]
  exact ⟨fun ⟨v, hv, he⟩ => he ▸ hv, fun h => ⟨w, h, rfl⟩⟩

theorem Edges.ofCallers_of_ne_nil {cs : List Nat} (h : cs ≠ []) :
    Edges.ofCallers cs = .held (cs.eraseDups.map Value.variant) := by
  cases cs with
  | nil => exact absurd rfl h
  | cons c cs => rfl

/-! ## Pairs on tables -/

theorem Value.sameItems_ofClasses_iff (vs : List Value) (cs : List ClassId) :
    Value.sameItems vs (ofClasses cs) = true ↔ vs = ofClasses cs := by
  induction cs generalizing vs with
  | nil => cases vs <;> simp [Value.sameItems]
  | cons c cs ih =>
    cases vs with
    | nil => simp [Value.sameItems]
    | cons v vs =>
      rw [Signature.ofClasses_cons, Value.sameItems, Bool.and_eq_true, ih, List.cons.injEq]
      exact and_congr_left fun _ => Value.beq_cls_iff v c

theorem Value.beq_tuple_ofClasses_iff (as bs : List ClassId) :
    (Value.tuple (ofClasses as) == .tuple (ofClasses bs)) = true ↔ as = bs := by
  show Value.sameItems (ofClasses as) (ofClasses bs) = true ↔ as = bs
  rw [Value.sameItems_ofClasses_iff]
  exact ⟨Signature.ofClasses_injective, fun h => h ▸ rfl⟩

@[simp] theorem interleave_cons (p : List ClassId × Nat) (ps : List (List ClassId × Nat)) :
    interleave (p :: ps) = .tuple (ofClasses p.1) :: .variant p.2 :: interleave ps := rfl

theorem interleave_append (ps qs : List (List ClassId × Nat)) :
    interleave (ps ++ qs) = interleave ps ++ interleave qs :=
  List.flatMap_append

theorem interleave_prefix {ps qs : List (List ClassId × Nat)} (h : ps <+: qs) :
    interleave ps <+: interleave qs := by
  obtain ⟨rest, rfl⟩ := h
  rw [interleave_append]
  exact List.prefix_append _ _

theorem length_interleave (ps : List (List ClassId × Nat)) :
    (interleave ps).length = 2 * ps.length := by
  induction ps with
  | nil => rfl
  | cons p ps ih =>
    rw [interleave_cons, List.length_cons, List.length_cons, List.length_cons, ih]
    omega

theorem pairs_interleave (ps : List (List ClassId × Nat)) :
    pairs (interleave ps) = ps.map fun p => (.tuple (ofClasses p.1), .variant p.2) := by
  induction ps with
  | nil => rfl
  | cons p ps ih => rw [interleave_cons, pairs, ih, List.map_cons]

theorem hasPair_interleave_iff (ts : List ClassId) (w : Nat) (ps : List (List ClassId × Nat)) :
    Store.hasPair (.tuple (ofClasses ts)) (.variant w) (interleave ps) = true ↔ (ts, w) ∈ ps := by
  induction ps with
  | nil => simp [interleave, Store.hasPair]
  | cons p ps ih =>
    rw [interleave_cons, Store.hasPair, Bool.or_eq_true, Bool.and_eq_true,
      Value.beq_tuple_ofClasses_iff, Value.beq_variant, beq_iff_eq, ih, List.mem_cons]
    refine or_congr_left ?_
    obtain ⟨ts', w'⟩ := p
    rw [Prod.mk.injEq]
    exact ⟨fun h => ⟨h.1.symm, h.2.symm⟩, fun h => ⟨h.1.symm, h.2.symm⟩⟩

end Introspect
