import Introspect.Proofs.Dispatch.Unbeaten

/-!
# Calls with narrower arguments

When the arguments of a call get narrower, the method that was chosen still applies, whatever types
are declared.  More methods may apply than before, but what is chosen then is that method or one
that is narrower than it.

* `Method.MentionsWithin`     the classes that the declared types of a method mention;
* `Store.Applies.of_below`    a method that applies to some classes applies to subclasses of these;
* `Store.resolve_of_below`    what a call chooses when its arguments get narrower.
-/

namespace Introspect

open Signature (ofClasses)

/-- the types that a method declares mention some classes only -/
def Method.MentionsWithin (m : Method) (S : ClassId → Prop) : Prop :=
  ∀ v ∈ m.required ++ m.optional ++ m.variadic.toList, ∀ c, v.Mentions c → S c

namespace Store

variable {s : Store} {h : Hierarchy} {S : ClassId → Prop} {us ts : List ClassId} {m : Nat}

theorem mentionsAt (hm : (s.method m).MentionsWithin S) (n : Nat) : s.MentionsAt S n m :=
  fun _ hsig v hv => hm v (Method.mem_of_mem_parameterTypes hsig hv)

/-! ## Faults -/

/-- whether a method applies is known unless a test of types is a bad one -/
theorem fault_isApplicable {m : Method} {types : Signature} {e : Fault}
    (he : m.isApplicable h types = .error e) : e = .badClassTest := by
  unfold Method.isApplicable at he
  split at he
  · exact nomatch he
  · exact fault_allPairs he

theorem fault_isMoreSpecific {m o : Method} {n : Nat} {e : Fault}
    (he : m.isMoreSpecific h o (some n) = .error e) : e = .badClassTest := by
  unfold Method.isMoreSpecific at he
  dsimp only at he
  split at he
  · unfold Method.narrower at he
    split at he
    · exact nomatch he
    · exact fault_allPairs he
  · exact nomatch he

theorem fault_unbeaten {n : Nat} {cs : List Nat} {e : Fault}
    (he : s.unbeaten h n cs = .error e) : e = .badClassTest := by
  obtain ⟨k, -, hk⟩ := exists_of_filterBy_eq_error he
  cases hany : anyOf (fun o => (s.method o).isMoreSpecific h (s.method k) (some n)) cs with
  | error e' =>
    rw [hany] at hk
    obtain rfl : e' = e := Except.error.inj hk
    obtain ⟨o, -, ho⟩ := exists_of_anyOf_eq_error hany
    exact fault_isMoreSpecific ho
  | ok b => rw [hany] at hk; exact nomatch hk

/-! ## What a call chooses -/

section
variable (hmade : h.Made) (hS : h.Inheriting S)
include hmade hS

/-- a method that applies to some classes applies to subclasses of these -/
theorem Applies.of_below (hm : (s.method m).MentionsWithin S) (hlen : us.length = ts.length)
    (hus : ∀ c ∈ us, S c) (hts : ∀ c ∈ ts, S c) (hbelow : h.below us ts = true)
    (happ : s.Applies h ts m) : s.Applies h us m := by
  obtain ⟨sig, hsig, hpairs⟩ := applies_iff_exists.mp happ
  exact applies_iff_exists.mpr ⟨sig, hlen ▸ hsig,
    allPairs_of_below hmade hS hlen hus hts (mentionsAt hm _ sig hsig) hbelow hpairs⟩

/-- among candidates of any types, one is kept or it is beaten by one that is -/
theorem exists_kept_of_mem {n : Nat} {cs ks : List Nat}
    (hcs : ∀ k ∈ cs, (s.method k).MentionsWithin S) (hks : s.unbeaten h n cs = .ok ks)
    (hm : m ∈ cs) : ∃ b ∈ ks, b = m ∨ s.Beats h n b m := by
  obtain ⟨b, hb, hbm, hmin⟩ := Introspect.exists_unbeaten (r := s.Beats h n)
    (fun a _ => not_beats_self s h n a)
    (fun a ha b hb c hc => Beats.trans hmade hS (mentionsAt (hcs a ha) n) (mentionsAt (hcs b hb) n)
      (mentionsAt (hcs c hc) n)) hm
  exact ⟨b, (mem_unbeaten_iff hks b).mpr ⟨hb, hmin⟩, hbm⟩

end

section
variable {view : Surroundings} {f : Nat} {tb : Table} (htb : (s.function f).table = some tb)
include htb

/-- it is known what a call keeps, unless a test fails for a type that is no class -/
theorem kept_or_badClassTest (us : List ClassId) :
    (∃ cs ks, s.candidates view.hierarchy tb (ofClasses us) = .ok cs
        ∧ s.unbeaten view.hierarchy us.length cs = .ok ks)
      ∨ s.resolve view f (ofClasses us) = .error .badClassTest
        ∧ ¬ ∀ k ∈ tb.methods, (s.method k).DeclaresWithin fun _ => True := by
  have htable := (table?_eq_ok_iff s f tb).mpr htb
  cases hcs : s.candidates view.hierarchy tb (ofClasses us) with
  | error e =>
    obtain ⟨k, -, hk⟩ := exists_of_filterBy_eq_error hcs
    refine .inr ⟨?_, fun hall => ?_⟩
    · unfold resolve
      rw [htable]
      simp only [bind, Except.bind, hcs, fault_isApplicable hk]
    · obtain ⟨cs, hcs', -⟩ := exists_candidates (h := view.hierarchy) hall us
      rw [hcs] at hcs'
      exact nomatch hcs'
  | ok cs =>
    cases hks : s.unbeaten view.hierarchy us.length cs with
    | error e =>
      refine .inr ⟨?_, fun hall => ?_⟩
      · unfold resolve
        rw [htable]
        simp only [bind, Except.bind, hcs, Signature.length_ofClasses]
        cases cs with
        | nil => exact nomatch hks
        | cons c cs => simp only [hks, fault_unbeaten hks]
      · obtain ⟨cs', ks, hcs', hks', -⟩ := exists_kept (h := view.hierarchy) hall us
        obtain rfl := Except.ok.inj (hcs.symm.trans hcs')
        rw [hks] at hks'
        exact nomatch hks'
    | ok ks => exact .inl ⟨cs, ks, rfl, hks⟩

/-- what was chosen for some classes is chosen for subclasses of these, or a method that is narrower
is, or the call is ambiguous; a test that fails is one of a type that is no class -/
theorem resolve_of_below (hmade : view.hierarchy.Made) (hS : view.hierarchy.Inheriting S)
    (hms : ∀ k ∈ tb.methods, (s.method k).MentionsWithin S) (hlen : us.length = ts.length)
    (hus : ∀ c ∈ us, S c) (hts : ∀ c ∈ ts, S c) (hbelow : view.hierarchy.below us ts = true)
    (hm : s.resolve view f (ofClasses ts) = .ok m) :
    (∀ call, s.resolve view f (ofClasses us) ≠ .error (.noMethod call))
      ∧ (∀ n, s.resolve view f (ofClasses us) = .ok n →
          n = m ∨ s.Beats view.hierarchy ts.length n m)
      ∧ ∀ e, s.resolve view f (ofClasses us) = .error e →
          (∃ call names, e = .ambiguous call names)
            ∨ e = .badClassTest
              ∧ ¬ ∀ k ∈ tb.methods, (s.method k).DeclaresWithin fun _ => True := by
  obtain ⟨tb', htb', hmem, happ⟩ := resolve_eq_ok hm
  obtain rfl : tb' = tb := Option.some.inj (htb'.symm.trans htb)
  have happ' : s.Applies view.hierarchy us m :=
    Applies.of_below hmade hS (hms m hmem) hlen hus hts hbelow happ
  obtain ⟨cs, ks, hcs, hks⟩ | ⟨hres, hnot⟩ := kept_or_badClassTest htb us
  · have hmcs : m ∈ cs := (mem_filterBy_iff hcs m).mpr ⟨hmem, happ'⟩
    obtain ⟨b, hb, hbm⟩ := exists_kept_of_mem hmade hS
      (fun k hk => hms k ((mem_filterBy_iff hcs k).mp hk).1) hks hmcs
    rw [resolve_of_candidates htb hcs (List.ne_nil_of_mem hmcs) hks (List.ne_nil_of_mem hb)]
    match ks, hb with
    | [n], hb =>
      obtain rfl := List.mem_singleton.mp hb
      refine ⟨nofun, fun n hn => ?_, nofun⟩
      obtain rfl : b = n := Except.ok.inj hn
      rwa [← hlen]
    | _ :: _ :: _, _ =>
      exact ⟨nofun, nofun, fun e he => .inl ⟨_, _, (Except.error.inj he).symm⟩⟩
  · rw [hres]
    exact ⟨nofun, nofun, fun e he => .inr ⟨(Except.error.inj he).symm, hnot⟩⟩

end

end Store

/-! ## A chain of classes -/

/-- three classes of which each derives from the one before -/
def Hierarchy.chained : Hierarchy :=
  [ownClass "object" [] .plain, ownClass "A" [⟨0⟩] .plain, ownClass "B" [⟨1⟩] .plain].foldl extend
    empty

theorem Hierarchy.made_chained : chained.Made := Made.empty.foldl (fun _ b hm => hm.extend b) _

/-- no class of the chain adopts another one -/
theorem Hierarchy.inheriting_chained : chained.Inheriting fun _ => True := by
  intro c d _ _
  refine isSubclass_eq_inherits ?_ c
  obtain ⟨n⟩ := d
  match n with
  | 0 | 1 | 2 => decide
  | n + 3 => exact nofun

/-- a function with a method for an `A` and one of two alternatives, and one for a `B` and more -/
def Store.chained : Store :=
  { Store.empty with
    functions := #[⟨"f", none, none, .slots, some ⟨[0, 1], .held []⟩⟩]
    methods := #[⟨0, [.cls ⟨1⟩, .union [.cls ⟨2⟩, .cls ⟨1⟩]], [], none, default, .slots,
        .empty .slots⟩,
      ⟨0, [.cls ⟨2⟩], [], some (.cls ⟨1⟩), default, .slots, .empty .slots⟩] }

/-- the displays of what belongs to these classes -/
def Surroundings.chained : Surroundings :=
  ⟨.chained, fun _ => "", fun _ => "", fun _ => none, fun _ => ""⟩

namespace Store

/-- for a `B` instead of an `A`, the narrower method is chosen -/
theorem resolve_chained :
    Store.chained.resolve .chained 0 (ofClasses [⟨1⟩, ⟨1⟩]) = .ok 0
      ∧ Store.chained.resolve .chained 0 (ofClasses [⟨2⟩, ⟨1⟩]) = .ok 1
      ∧ Store.chained.Beats .chained 2 1 0 := by
  have htb : (Store.chained.function 0).table = some ⟨[0, 1], .held []⟩ := rfl
  have hwide : Store.chained.resolve .chained 0 (ofClasses [⟨1⟩, ⟨1⟩]) = .ok 0 := rfl
  have hnarrow : Store.chained.resolve .chained 0 (ofClasses [⟨2⟩, ⟨1⟩]) = .ok 1 := rfl
  have hlen : ([⟨2⟩, ⟨1⟩] : List ClassId).length = ([⟨1⟩, ⟨1⟩] : List ClassId).length := rfl
  have hbelow : Hierarchy.chained.below [⟨2⟩, ⟨1⟩] [⟨1⟩, ⟨1⟩] = true := rfl
  obtain ⟨-, hchosen, -⟩ := resolve_of_below htb Hierarchy.made_chained Hierarchy.inheriting_chained
    (fun _ _ _ _ _ _ => trivial) hlen (fun _ _ => trivial) (fun _ _ => trivial) hbelow hwide
  exact ⟨hwide, hnarrow, (hchosen 1 hnarrow).resolve_left (by decide)⟩

end Store

end Introspect
