import Introspect.Proofs.Session.TableEdges

/-!
# What a new method may change

A call that is made from inside of a variant leaves an edge on the table unless its method declares
just the types of the call.  Without virtual subclasses no new method can take such a call over; but
one that declares the same types at this number of arguments, and further parameters that may be left
out, makes it ambiguous, and no edge on the table tells.

* `Store.TiedAmong`                 a call is ambiguous among several methods that declare its types;
* `Session.recorded_or_ambiguous`   a new method changes the result of an earlier call only if the call
                                    has left an edge on the table, or becomes ambiguous;
* `Session.unrecorded_failingTwice` a call may become ambiguous without an edge on the table.
-/

namespace Introspect

open Signature (ofClasses)

namespace Store

variable {s t : Store} {S : ClassId → Prop} {f m i : Nat} {ts : List ClassId} {tb : Table}
  {n : Method}

/-- a call is ambiguous among those of some methods that declare its types -/
structure TiedAmong (s : Store) (view : Surroundings) (f : Nat) (ts : List ClassId)
    (ms ks : List Nat) : Prop where
  mem_iff : ∀ k, k ∈ ks ↔ k ∈ ms ∧ (s.method k).parameterTypes ts.length = some (ofClasses ts)
  nodup : ks.Nodup
  several : 2 ≤ ks.length
  error : s.resolve view f (ofClasses ts)
    = .error (.ambiguous ((s.function f).name ++ signatureText view (ofClasses ts))
        (ks.map fun k => (Value.method k).display view))

section
variable (hreg : s.register n = .ok (t, i))
include hreg

theorem register_declares {k : Nat} (hk : k < s.methods.size) :
    t.declares ts k = s.declares ts k :=
  register_isExact (d := ⟨0, ts, k, 0⟩) hreg hk

/-- the new method stands at the end of the table -/
theorem register_methods (hn : n.function = f) (htb : (s.function f).table = some tb)
    (hkey : ∀ k ∈ tb.methods, (s.method k).sameKey n = false) :
    (t.function f).table = some ⟨tb.methods ++ [i], tb.edges⟩ := by
  have hkept : tb.methods.filter (fun k => !(s.method k).sameKey n) = tb.methods :=
    List.filter_eq_self.mpr fun k hk => by rw [hkey k hk]; rfl
  rw [register_table hreg htb, if_pos hn, hkept]

theorem register_declaresWithin (hlt : ∀ k ∈ tb.methods, k < s.methods.size)
    (hms : ∀ k ∈ tb.methods, (s.method k).DeclaresWithin S) (hnS : n.DeclaresWithin S) :
    ∀ k ∈ tb.methods ++ [i], (t.method k).DeclaresWithin S := by
  obtain ⟨rfl, -, -, -, -, -, hmethod⟩ := register_frame hreg
  intro k hk
  rw [hmethod]
  rcases List.mem_append.mp hk with hk | hk
  · rw [if_neg (Nat.ne_of_lt (hlt k hk))]
    exact hms k hk
  · rw [if_pos (List.mem_singleton.mp hk)]
    exact hnS

/-- when a method that is still there declares the types of a call and applies to them, nothing but a
tie can keep the call from finding it again -/
theorem tied_of_changed {view : Surroundings} (hn : n.function = f)
    (htb : (s.function f).table = some tb) (hlt : ∀ k ∈ tb.methods, k < s.methods.size)
    (hkey : ∀ k ∈ tb.methods, (s.method k).sameKey n = false)
    (hms : ∀ k ∈ tb.methods, (s.method k).DeclaresWithin S) (hnS : n.DeclaresWithin S)
    (hS : view.hierarchy.Inheriting S) (hts : ∀ c ∈ ts, S c) (hnodup : tb.methods.Nodup)
    (hm : m ∈ tb.methods) (hexact : s.declares ts m = true)
    (hbelow : view.hierarchy.below ts ts = true)
    (hchanged : t.resolve view f (ofClasses ts) ≠ .ok m) :
    t.TiedAmong view f ts (tb.methods ++ [i]) ((tb.methods ++ [i]).filter (t.declares ts)) := by
  have hexact' : t.declares ts m = true := (register_declares hreg (hlt m hm)).trans hexact
  have hm' : m ∈ tb.methods ++ [i] := List.mem_append_left _ hm
  have hresolve := resolve_of_exact (register_methods hreg hn htb hkey)
    (register_declaresWithin hreg hlt hms hnS) hS hts hbelow hm' hexact'
  rw [hresolve] at hchanged
  obtain ⟨hseveral, herror⟩ :=
    oneOf_eq_error (List.mem_filter.mpr ⟨hm', hexact'⟩) hchanged
  have hnew : ∀ k ∈ tb.methods, k ≠ i := by
    intro k hk hki
    rw [hki, (register_frame hreg).1] at hk
    exact Nat.lt_irrefl _ (hlt _ hk)
  have hall : (tb.methods ++ [i]).Nodup :=
    List.nodup_append.mpr ⟨hnodup, by simp, fun k hk k' hk' =>
      List.mem_singleton.mp hk' ▸ hnew k hk⟩
  refine ⟨fun k => ?_, hall.filter _, hseveral, hresolve.trans herror⟩
  rw [List.mem_filter, declares_iff]

end

end Store

/-- a call that found a method with other declared types is on the table -/
theorem Running.Faithful.recorded {hier : Hierarchy} {s : Store} {saved : List (Option Nat)}
    (h : Faithful hier ⟨s, saved⟩) {f m v w : Nat} {ts : List ClassId} {tb : Table}
    (hc : ⟨⟨f, ts, m, v⟩, some w⟩ ∈ calls s.journal) (htb : (s.function f).table = some tb)
    (hx : s.isExact ⟨f, ts, m, v⟩ = false) :
    ∃ items, tb.edges = .held items ∧ (.tuple (ofClasses ts), .variant w) ∈ pairs items := by
  obtain ⟨ms, items, hms, -, -, hpairs⟩ := h.tableEdges_eq (Store.function_lt _ htb)
  obtain rfl := Option.some.inj (hms.symm.trans htb)
  refine ⟨items, rfl, ?_⟩
  rw [hpairs]
  exact List.mem_map.mpr ⟨(ts, w), List.mem_eraseDups.mpr
    (mem_tableCallers.mpr ⟨_, hc, rfl, hx, rfl, rfl⟩), rfl⟩

namespace Session

variable {s : Session} {S : ClassId → Prop}

/-- when a new method changes what an earlier call from inside of a variant has found, the variant is
on the table under the types of the call; or else the method of the call declares just these types,
and the call is ambiguous, since other methods with other parameters declare them too: the new one,
if the call had still found its method right before -/
theorem recorded_or_ambiguous (hs : s.Reached) {f m v w : Nat} {ts : List ClassId}
    (hc : ⟨⟨f, ts, m, v⟩, some w⟩ ∈ calls s.store.journal) {tb : Table}
    (htb : (s.store.function f).table = some tb) (hm : m ∈ tb.methods) {n : Method}
    (hn : n.function = f) (hkey : ∀ k ∈ tb.methods, (s.store.method k).sameKey n = false)
    (hS : s.hierarchy.Inheriting S) (hts : ∀ a ∈ ts, S a)
    (hms : ∀ k ∈ tb.methods, (s.store.method k).DeclaresWithin S) (hnS : n.DeclaresWithin S) :
    ∃ t i, s.store.register n = .ok (t, i)
      ∧ (t.resolve (s.viewWith t) f (ofClasses ts) ≠ .ok m →
          (∃ items, tb.edges = .held items ∧ (.tuple (ofClasses ts), .variant w) ∈ pairs items)
          ∨ (s.store.method m).parameterTypes ts.length = some (ofClasses ts)
            ∧ ∃ ks, t.TiedAmong (s.viewWith t) f ts (tb.methods ++ [i]) ks
              ∧ (s.store.resolve s.view f (ofClasses ts) = .ok m → ks = [m, i])) := by
  obtain ⟨saved, h⟩ := hs.faithful
  have hregister : ∃ t i, s.store.register n = .ok (t, i) :=
    ⟨_, _, (Store.register_eq_ok_iff s.store n _ _).mpr ⟨tb, hn ▸ htb, rfl, rfl⟩⟩
  obtain ⟨t, i, hreg⟩ := hregister
  refine ⟨t, i, hreg, fun hchanged => ?_⟩
  cases hx : s.store.isExact ⟨f, ts, m, v⟩ with
  | false => exact Or.inl (h.recorded hc htb hx)
  | true =>
    have hexact : s.store.declares ts m = true := hx
    have hbelow : s.hierarchy.below ts ts = true :=
      Store.below_of_declares hexact (h.applied _ hc)
    have hlt : ∀ k ∈ tb.methods, k < s.store.methods.size :=
      fun k hk => (h.shaped.listed f tb htb k hk).1
    have htied := Store.tied_of_changed hreg hn htb hlt hkey hms hnS hS hts (h.shaped.nodup f tb htb)
      hm hexact hbelow hchanged
    refine Or.inr ⟨Store.declares_iff.mp hexact, _, htied, fun hbefore => ?_⟩
    -- before, the method was the only one with these types
    have hview : s.view.hierarchy.Inheriting S := hS
    rw [Store.resolve_of_exact htb hms hview hts hbelow hm hexact] at hbefore
    have hseveral := htied.several
    have hsame : ∀ k ∈ tb.methods, t.declares ts k = s.store.declares ts k :=
      fun k hk => Store.register_declares hreg (hlt k hk)
    rw [List.filter_append, List.filter_congr hsame, Store.oneOf_eq_ok hbefore] at hseveral ⊢
    cases hi : t.declares ts i with
    | false =>
      rw [List.filter_cons_of_neg (by rw [hi]; exact Bool.false_ne_true), List.filter_nil]
        at hseveral
      exact absurd hseveral (Nat.lt_irrefl 1)
    | true =>
      rw [List.filter_cons_of_pos hi]
      rfl

/-! ## A call that becomes ambiguous -/

/-- a method that takes no argument, or one -/
def withDefault : Method :=
  newMethod failingTwice 0 none {
    params := [{ name := "x", kind := .positional, hint := none, default := some (.int 1) }]
    body := .literal .none }

theorem inheriting_object : failingTwice.hierarchy.Inheriting (· = .object) := by
  have hinherits := Hierarchy.base_inherits_object_object
  rintro c d rfl rfl
  rw [hierarchy_of_runs runs_failingTwice, hinherits, Hierarchy.isSubclass_of_inherits hinherits]

theorem called_failingTwice : ⟨⟨0, [], 0, 1⟩, some 0⟩ ∈ calls failingTwice.store.journal := by
  decide +kernel

theorem declaresWithin_failingTwice :
    ∀ k ∈ [0], (failingTwice.store.method k).DeclaresWithin (· = .object) := by
  intro k hk v hv
  rw [List.mem_singleton.mp hk] at hv
  exact absurd hv List.not_mem_nil

theorem declaresWithin_withDefault : withDefault.DeclaresWithin (· = .object) :=
  fun _ hv => ⟨.object, rfl, List.mem_singleton.mp hv⟩

theorem sameKey_withDefault :
    ∀ k ∈ [0], (failingTwice.store.method k).sameKey withDefault = false := by
  intro k hk
  rw [List.mem_singleton.mp hk]
  rfl

/-- the call without arguments is ambiguous once a method that takes one argument or none is there -/
theorem register_withDefault : ∃ t, failingTwice.store.register withDefault = .ok (t, 2)
    ∧ t.resolve (failingTwice.viewWith t) 0 (ofClasses []) ≠ .ok 0 := by
  have hne : ∀ {r : Except Fault Nat} {e : Fault}, r = .error e → r ≠ .ok 0 := by
    rintro _ e rfl
    exact nofun
  exact ⟨_, rfl, hne rfl⟩

/-- a call may become ambiguous although no edge on the table tells of it -/
theorem unrecorded_failingTwice :
    ¬ ∀ (s : Session) (S : ClassId → Prop) (f m v w i : Nat) (ts : List ClassId) (tb : Table)
        (n : Method) (t : Store), s.Reached →
        ⟨⟨f, ts, m, v⟩, some w⟩ ∈ calls s.store.journal → (s.store.function f).table = some tb →
        m ∈ tb.methods → n.function = f →
        (∀ k ∈ tb.methods, (s.store.method k).sameKey n = false) →
        s.hierarchy.Inheriting S → (∀ a ∈ ts, S a) →
        (∀ k ∈ tb.methods, (s.store.method k).DeclaresWithin S) → n.DeclaresWithin S →
        s.store.register n = .ok (t, i) →
        t.resolve (s.viewWith t) f (ofClasses ts) ≠ .ok m →
        ∃ items, tb.edges = .held items ∧ (.tuple (ofClasses ts), .variant w) ∈ pairs items := by
  intro h
  obtain ⟨t, hreg, hchanged⟩ := register_withDefault
  obtain ⟨items, hitems, hmem⟩ := h failingTwice (· = .object) 0 0 1 0 2 [] ⟨[0], .held []⟩
    withDefault t reached_failingTwice called_failingTwice rfl (List.mem_singleton.mpr rfl) rfl
    sameKey_withDefault inheriting_object (fun a ha => absurd ha List.not_mem_nil)
    declaresWithin_failingTwice declaresWithin_withDefault hreg hchanged
  obtain rfl := Edges.held.inj hitems
  exact absurd hmem List.not_mem_nil

/-- the call without arguments is ambiguous then, and both methods take part -/
theorem ambiguous_failingTwice :
    ∃ t, failingTwice.store.register withDefault = .ok (t, 2)
      ∧ ∃ ks, t.TiedAmong (failingTwice.viewWith t) 0 [] [0, 2] ks := by
  obtain ⟨t, hreg, hchanged⟩ := register_withDefault
  have htable : (failingTwice.store.function 0).table = some ⟨[0], .held []⟩ := rfl
  obtain ⟨t', i', hreg', htie⟩ := recorded_or_ambiguous reached_failingTwice called_failingTwice
    htable (List.mem_singleton.mpr rfl) (n := withDefault) rfl sameKey_withDefault
    inheriting_object (fun a ha => absurd ha List.not_mem_nil) declaresWithin_failingTwice
    declaresWithin_withDefault
  obtain ⟨rfl, rfl⟩ := Prod.mk.inj (Except.ok.inj (hreg.symm.trans hreg'))
  rcases htie hchanged with ⟨items, hitems, hmem⟩ | ⟨-, ks, htied, -⟩
  · obtain rfl := Edges.held.inj hitems
    exact absurd hmem List.not_mem_nil
  · exact ⟨t, hreg, ks, htied⟩

end Session

end Introspect
