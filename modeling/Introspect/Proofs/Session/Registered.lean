import Introspect.Proofs.Dispatch.Registered
import Introspect.Session.Functions

/-!
# Functions filled in any order

Whatever implementations are registered for a function without methods, in whatever order and how
often, only the last one under each key counts.

* `Registration`                   the types given for an implementation, if there are any;
* `registering`                    several registrations, one after the other;
* `Session.registering_holds`      what a table holds then;
* `Session.resolve_registering`    calls of functions that were filled in different orders.
-/

namespace Introspect

open Signature (ofClasses)

/-- an implementation that is registered, for the given types or for those of its parameters -/
structure Registration where
  types : Option Signature
  implementation : Implementation

/-- the key under which an implementation is registered -/
def Registration.entry (s : Session) (r : Registration) : DeclaredTypes × Implementation :=
  ((newMethod s 0 r.types r.implementation).key, r.implementation)

/-- several registrations, one after the other -/
def registering (f : Nat) : List Registration → Run Unit
  | [] => return ()
  | r :: rs => do
    let _ ← addMethod f r.types r.implementation
    registering f rs

namespace Session

variable {S : ClassId → Prop}

/-- one more registration for a function that has a table -/
theorem addMethod_holds {s : Session} {f : Nat} {tb : Table}
    {es : List (DeclaredTypes × Implementation)} (htb : (s.store.function f).table = some tb)
    (h : s.store.Holds tb es) {r : Registration} (hr : (r.entry s).1.Within S) :
    ∃ m u tb', addMethod f r.types r.implementation s = (.ok m, { s with store := u })
      ∧ (u.function f).table = some tb' ∧ u.Holds tb' (es ++ [r.entry s]) := by
  obtain ⟨⟨u, m⟩, hreg⟩ : ∃ x, s.store.register (newMethod s f r.types r.implementation) = .ok x :=
    ⟨_, (Store.register_eq_ok_iff _ _ _ _).mpr ⟨tb, htb, rfl, rfl⟩⟩
  have hkey : (newMethod s f r.types r.implementation).key.Within S := hr
  obtain ⟨tb', htb', hholds⟩ := h.register htb rfl hkey hreg
  refine ⟨m, u, tb', ?_, htb', hholds⟩
  unfold addMethod
  rw [Acting.bind_of_ok (Acting.get_apply s), Acting.bind_apply, Acting.liftExcept_apply, hreg]
  rfl

/-- after several registrations, the table holds the last implementation under each key -/
theorem registering_holds {f : Nat} (rs : List Registration) {s : Session} {tb : Table}
    {es : List (DeclaredTypes × Implementation)} (htb : (s.store.function f).table = some tb)
    (h : s.store.Holds tb es) (hrs : ∀ r ∈ rs, (r.entry s).1.Within S) :
    ∃ u tb', registering f rs s = (.ok (), { s with store := u })
      ∧ (u.function f).table = some tb' ∧ u.Holds tb' (es ++ rs.map (Registration.entry s)) := by
  induction rs generalizing s tb es with
  | nil =>
    rw [List.map_nil, List.append_nil]
    exact ⟨s.store, tb, rfl, htb, h⟩
  | cons r rs ih =>
    obtain ⟨hr, hrs⟩ := List.forall_mem_cons.mp hrs
    obtain ⟨m, u, tb₁, hadd, htb₁, h₁⟩ := addMethod_holds htb h hr
    obtain ⟨v, tb₂, hrest, htb₂, h₂⟩ := ih (s := { s with store := u }) htb₁ h₁ hrs
    refine ⟨v, tb₂, ?_, htb₂, ?_⟩
    · unfold registering
      rw [Acting.bind_of_ok hadd]
      exact hrest
    · rw [List.append_assoc] at h₂
      exact h₂

/-- two functions without methods, filled by registrations of which the last one under each key is
the same: their tables hold the same implementations under the same keys, each key once, and every
call of them ends alike; without virtual subclasses it finds one method, or none, or several -/
theorem resolve_registering {s t : Session} (hhier : t.hierarchy = s.hierarchy) {f g : Nat}
    {e e' : Edges} (hf : (s.store.function f).table = some ⟨[], e⟩)
    (hg : (t.store.function g).table = some ⟨[], e'⟩) {rs qs : List Registration}
    (hrs : ∀ r ∈ rs, (r.entry s).1.Within S) (hqs : ∀ q ∈ qs, (q.entry t).1.Within S)
    (hlast : ∀ key, Store.lastUnder (rs.map (Registration.entry s)) key
      = Store.lastUnder (qs.map (Registration.entry t)) key) :
    ∃ s' t' : Session, ∃ tb tb' : Table,
      registering f rs s = (.ok (), s') ∧ registering g qs t = (.ok (), t')
        ∧ (s'.store.function f).table = some tb ∧ (t'.store.function g).table = some tb'
        ∧ s'.store.Holds tb (rs.map (Registration.entry s))
        ∧ t'.store.Holds tb' (qs.map (Registration.entry t))
        ∧ (tb.methods.map s'.store.entry).Perm (tb'.methods.map t'.store.entry)
        ∧ ∀ ts, Store.EndsAlike s'.store t'.store (s'.store.resolve s'.view f (ofClasses ts))
              (t'.store.resolve t'.view g (ofClasses ts))
            ∧ (s.hierarchy.Made → s.hierarchy.Inheriting S →
              s'.store.resolve s'.view f (ofClasses ts) ≠ .error .outOfRange) := by
  obtain ⟨u, tb, hrun, htb, hholds⟩ := registering_holds rs hf (Store.holds_nil _ e) hrs
  obtain ⟨u', tb', hrun', htb', hholds'⟩ := registering_holds qs hg (Store.holds_nil _ e') hqs
  have hperm := hholds.perm hholds' hlast
  have hms := hholds.declaresWithin (List.forall_mem_map.mpr hrs)
  exact ⟨_, _, tb, tb', hrun, hrun', htb, htb', hholds, hholds', hperm, fun ts =>
    ⟨Store.endsAlike_of_perm hhier htb htb' hms hperm hholds.nodup_entries ts,
      fun hmade hS => Store.resolve_ne_outOfRange htb hms hmade hS ts⟩⟩

/-! ## Two orders for two entangled classes -/

/-- a function without methods, among classes that are subclasses of each other -/
def unfilled : Session where
  hierarchy := .entangled
  store := { Store.empty with
    functions := #[⟨"f", none, none, .slots, some ⟨[], .held []⟩⟩] }

/-- an implementation with one required parameter of a class -/
def forClass (c : ClassId) (body : Script) : Registration :=
  ⟨some (ofClasses [c]), { params := [], body }⟩

theorem within_forClass {c : ClassId} (hc : S c) (s : Session) (body : Script) :
    ((forClass c body).entry s).1.Within S :=
  fun _ hv => ⟨c, hc, List.mem_singleton.mp hv⟩

/-- of three implementations, the last one replaces the first one -/
def replacedLast : List Registration :=
  [forClass ⟨3⟩ (.list []), forClass ⟨4⟩ (.list []), forClass ⟨3⟩ (.parameter "x")]

/-- the two that are left, in the other order -/
def turnedRound : List Registration :=
  [forClass ⟨3⟩ (.parameter "x"), forClass ⟨4⟩ (.list [])]

theorem lastUnder_turnedRound (key : DeclaredTypes) :
    Store.lastUnder (replacedLast.map (Registration.entry unfilled)) key
      = Store.lastUnder (turnedRound.map (Registration.entry unfilled)) key := by
  let entry (c : ClassId) (body : Script) := (forClass c body).entry unfilled
  by_cases hkey : ((entry ⟨3⟩ (.parameter "x")).1 == key) = true
  · obtain rfl := (DeclaredTypes.beq_iff_of_within_left
      (within_forClass (S := fun _ => True) trivial _ _)).mp hkey
    rfl
  · have hother : ∀ body, ¬ ((entry ⟨3⟩ body).1 == key) = true := fun _ => hkey
    show Store.lastUnder ([] ++ [entry ⟨3⟩ _] ++ [entry ⟨4⟩ (.list [])] ++ [entry ⟨3⟩ _]) key
      = Store.lastUnder ([] ++ [entry ⟨3⟩ _] ++ [entry ⟨4⟩ (.list [])]) key
    simp only [Store.lastUnder_concat, if_neg (hother _)]

/-- in both orders, a call with an instance of the first plain class finds the method for the second
abstract class, and one with an instance of that class asks for what is not there; with a method for
the first abstract class alone, it does not -/
theorem registering_turnedRound : ∃ s t : Session,
    registering 0 replacedLast unfilled = (.ok (), s)
      ∧ registering 0 turnedRound unfilled = (.ok (), t)
      ∧ s.store.resolve s.view 0 (ofClasses [⟨1⟩]) = .ok 1
      ∧ (∃ n, t.store.resolve t.view 0 (ofClasses [⟨1⟩]) = .ok n
          ∧ Store.Counterpart s.store t.store 1 n)
      ∧ s.store.resolve s.view 0 (ofClasses [⟨4⟩]) = .error .outOfRange
      ∧ t.store.resolve t.view 0 (ofClasses [⟨4⟩]) = .error .outOfRange
      ∧ ∃ u, registering 0 [forClass ⟨3⟩ (.list [])] unfilled = (.ok (), u)
          ∧ u.store.resolve u.view 0 (ofClasses [⟨4⟩]) ≠ .error .outOfRange := by
  have hfresh : (unfilled.store.function 0).table = some ⟨[], .held []⟩ := rfl
  have hwithin : ∀ rs : List Registration, (∀ r ∈ rs, ∃ c body, r = forClass c body) →
      ∀ r ∈ rs, (r.entry unfilled).1.Within fun _ => True := by
    intro rs hrs r hr
    obtain ⟨c, body, rfl⟩ := hrs r hr
    exact within_forClass trivial _ _
  obtain ⟨s, t, tb, tb', hs, ht, -, -, -, -, -, hends⟩ := resolve_registering rfl hfresh hfresh
    (hwithin replacedLast (by simp [replacedLast, forClass]))
    (hwithin turnedRound (by simp [turnedRound, forClass])) lastUnder_turnedRound
  have hwide : s.store.resolve s.view 0 (ofClasses [⟨1⟩]) = .ok 1 := by
    obtain rfl : _ = s := congrArg Prod.snd hs
    rfl
  have hout : s.store.resolve s.view 0 (ofClasses [⟨4⟩]) = .error .outOfRange := by
    obtain rfl : _ = s := congrArg Prod.snd hs
    rfl
  have hone : ∀ r ∈ [forClass ⟨3⟩ (.list [])], (r.entry unfilled).1.Within (· = ⟨3⟩) :=
    fun r hr => List.mem_singleton.mp hr ▸ within_forClass (S := (· = ⟨3⟩)) rfl _ _
  obtain ⟨u, _, _, _, hu, -, -, -, -, -, -, hends'⟩ :=
    resolve_registering rfl hfresh hfresh hone hone fun _ => rfl
  have hinherits : unfilled.hierarchy.Inheriting (· = ⟨3⟩) := by
    rintro c d rfl rfl
    rfl
  have hwide' := (hends [⟨1⟩]).1
  have hout' := (hends [⟨4⟩]).1
  rw [hwide] at hwide'
  rw [hout] at hout'
  refine ⟨s, t, hs, ht, hwide, ?_, hout, ?_, u, hu,
    (hends' [⟨4⟩]).2 Hierarchy.made_entangled hinherits⟩
  · generalize t.store.resolve t.view 0 (ofClasses [⟨1⟩]) = res at hwide'
    cases hwide' with
    | chosen hmn => exact ⟨_, rfl, hmn⟩
  · generalize t.store.resolve t.view 0 (ofClasses [⟨4⟩]) = res at hout'
    cases hout'
    rfl

end Session

end Introspect
