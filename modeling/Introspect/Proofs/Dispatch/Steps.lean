import Mathlib.Logic.Relation
import Introspect.Proofs.Dispatch.Records
import Introspect.Proofs.Dispatch.Resolve

/-!
# Runs of a store

A store changes by steps: a function or a method is added, a call finds no method, a call begins,
or the innermost call ends.  A call that begins saves the variant that was being executed, and its
end brings that variant back; the saved ones form a stack, which is kept beside the store.

* `Running`          a store and the stack of the saved variants;
* `Running.Step`     one step; `Running.Steps` any number of them;
* `Running.Faithful` the store records the calls of its journal, and the stack agrees with it;
* `Faithful.enter`   what a call does to a faithful store;
* `Steps.faithful`   faithful stores lead to faithful ones only;
* `Steps.later`      no step takes back a call, or changes the declared types of a method.
-/

namespace Introspect

open Signature (ofClasses)

/-- a store and the variants that the calls under execution will bring back, the innermost first -/
structure Running where
  store : Store
  saved : List (Option Nat)

namespace Running

/-- one step of a store, under the classes of a hierarchy -/
inductive Step (h : Hierarchy) : Running → Running → Prop where
  /-- a function without methods is added -/
  | function {s : Store} {saved : List (Option Nat)} {fn : Function}
      (hfn : fn.table = some ⟨[], .held []⟩) : Step h ⟨s, saved⟩ ⟨(s.addFunction fn).1, saved⟩
  /-- a method without variants is registered -/
  | method {s t : Store} {saved : List (Option Nat)} {m : Method} {i : Nat}
      (hempty : m.storage = .empty m.layout)
      (hlayout : m.layout = (s.function m.function).layout)
      (hreg : s.register m = .ok (t, i)) : Step h ⟨s, saved⟩ ⟨t, saved⟩
  /-- a call is refused -/
  | refused {s t : Store} {saved : List (Option Nat)} {viewOf : Store → Surroundings} {f : Nat}
      {ts : List ClassId} {e : Fault} (hview : (viewOf s).hierarchy = h)
      (he : Store.enter viewOf f ts s = (.error e, t)) :
      Step h ⟨s, saved⟩ ⟨t, saved⟩
  /-- a call begins -/
  | began {s t : Store} {saved : List (Option Nat)} {viewOf : Store → Surroundings} {f : Nat}
      {ts : List ClassId} {d : Dispatch} (hview : (viewOf s).hierarchy = h)
      (hd : Store.enter viewOf f ts s = (.ok d, t)) :
      Step h ⟨s, saved⟩ ⟨t.beginCall d, t.active :: saved⟩
  /-- the innermost call ends -/
  | ended {s : Store} {former : Option Nat} {saved : List (Option Nat)} :
      Step h ⟨s, former :: saved⟩ ⟨s.endCall former, saved⟩

/-- any number of steps -/
abbrev Steps (h : Hierarchy) : Running → Running → Prop := Relation.ReflTransGen (Step h)

/-- the store records the calls of its journal, and the stack agrees with it -/
structure Faithful (h : Hierarchy) (r : Running) : Prop where
  stack : r.store.active :: r.saved = (executing r.store.journal).map some ++ [none]
  shaped : r.store.Shaped
  stored : r.store.Stored (calls r.store.journal)
  applied : r.store.Applied h (calls r.store.journal)
  wired : r.store.Wired (calls r.store.journal)
  tabled : r.store.Tabled (calls r.store.journal)

theorem faithful_empty (h : Hierarchy) : Faithful h ⟨.empty, []⟩ := by
  refine ⟨rfl, ⟨fun f t h => ?_, fun f t h => ?_, fun m hm => absurd hm (Nat.not_lt_zero m)⟩,
    ⟨fun m hm => absurd hm (Nat.not_lt_zero m), fun m hm => absurd hm (Nat.not_lt_zero m),
      fun c hc => absurd hc List.not_mem_nil⟩, fun c hc => absurd hc List.not_mem_nil,
    fun v hv => absurd hv (Nat.not_lt_zero v), fun f hf => absurd hf (Nat.not_lt_zero f)⟩
  · exact absurd (Store.function_lt _ h) (Nat.not_lt_zero f)
  · exact absurd (Store.function_lt _ h) (Nat.not_lt_zero f)

namespace Faithful

variable {hier : Hierarchy} {s t : Store} {saved : List (Option Nat)}

/-- the variant that is being executed is that of the innermost call under execution -/
theorem active_eq {r : Running} (h : Faithful hier r) :
    r.store.active = (executing r.store.journal).head? := by
  have hstack := h.stack
  cases hex : executing r.store.journal with
  | nil =>
    rw [hex] at hstack
    exact (List.cons.inj hstack).1
  | cons v vs =>
    rw [hex] at hstack
    exact (List.cons.inj hstack).1

/-- a call finds no method and changes nothing, or it leaves a store that records one more call -/
theorem enter (h : Faithful hier ⟨s, saved⟩) {viewOf : Store → Surroundings}
    (hview : (viewOf s).hierarchy = hier) (f : Nat) (ts : List ClassId) :
    (∃ e, s.resolve (viewOf s) f (ofClasses ts) = .error e
        ∧ Store.enter viewOf f ts s = (.error e, s))
      ∨ ∃ m v t, s.resolve (viewOf s) f (ofClasses ts) = .ok m
        ∧ Store.enter viewOf f ts s = (.ok ⟨f, ts, m, v⟩, t)
        ∧ t.active = s.active ∧ t.journal = s.journal ∧ t.Shaped
        ∧ t.Stored (calls s.journal ++ [⟨⟨f, ts, m, v⟩, s.active⟩])
        ∧ t.Applied hier (calls s.journal ++ [⟨⟨f, ts, m, v⟩, s.active⟩])
        ∧ t.Wired (calls s.journal ++ [⟨⟨f, ts, m, v⟩, s.active⟩])
        ∧ t.Tabled (calls s.journal ++ [⟨⟨f, ts, m, v⟩, s.active⟩]) := by
  cases hr : s.resolve (viewOf s) f (ofClasses ts) with
  | error e => exact Or.inl ⟨e, rfl, Store.enter_of_error hr⟩
  | ok m =>
    obtain ⟨tb, htb, hmem, happ⟩ := Store.resolve_eq_ok hr
    obtain ⟨hm, hf⟩ := h.shaped.listed f tb htb m hmem
    obtain ⟨v, s₁, hv, hsame, hst, hw, hlt⟩ :=
      h.stored.variantFor h.wired hm hf (viewOf s).hierarchy ts s.active
    have hsh := hsame.shaped h.shaped
    have htab := hsame.tabled h.tabled
    rw [hview] at happ
    have hap := hsame.applied (h.applied.concat (d := ⟨f, ts, m, v⟩) happ s.active)
    refine Or.inr ⟨m, v, ?_⟩
    cases ha : s.active with
    | none =>
      rw [ha] at hst hap
      exact ⟨s₁, rfl, Store.enter_of_idle hr hv ha, hsame.active.trans ha, hsame.journal, hsh, hst,
        hap, hw.idle, htab.idle⟩
    | some w =>
      rw [ha] at hst hap
      let d : Dispatch := ⟨f, ts, m, v⟩
      have hd := Store.addDependent_eq (viewOf s).hierarchy (hw v hlt) w
      have hst₂ := hst.modifyVariant hlt (.ofCallers (callersOf v (calls s.journal) ++ [w]))
      have hw₂ := hw.modifyVariant (d := d) (w := w) hlt
      cases hx : s.isExact d with
      | true =>
        exact ⟨_, rfl, Store.enter_of_exact hr hv ha hd hx, hsame.active.trans ha, hsame.journal,
          ⟨hsh.listed, hsh.nodup, hsh.owner⟩, hst₂, hap, hw₂, htab.exact ((hsame.isExact d).trans hx)⟩
      | false =>
        have hf₂ : f < s₁.functions.size := by
          rw [hsame.functions]
          exact Store.function_lt s htb
        obtain ⟨ms, hms⟩ := htab f hf₂
        have he := Store.addTableEdge_eq (s := s₁.modifyVariant v fun i =>
          { i with dependents := .ofCallers (callersOf v (calls s.journal) ++ [w]) })
          (viewOf s).hierarchy hms ts w
        have hsh₂ := hsh.modifyTable hf₂
          (.held (interleave (tableCallers s₁ f (calls s.journal) ++ [(ts, w)]).eraseDups))
        have htab₂ := htab.modifyTable (d := d) (w := w) ((hsame.isExact d).trans hx) hf₂
        exact ⟨_, rfl, Store.enter_of_wider hr hv ha hd hx he, hsame.active.trans ha, hsame.journal,
          ⟨hsh₂.listed, hsh₂.nodup, hsh₂.owner⟩,
          ⟨hst₂.sound, hst₂.entry_iff, hst₂.called⟩, hap, hw₂, htab₂⟩

/-! ## Each step keeps the invariant -/

theorem began (h : Faithful hier ⟨s, saved⟩) {viewOf : Store → Surroundings} {f : Nat}
    {ts : List ClassId} {d : Dispatch} (hview : (viewOf s).hierarchy = hier)
    (hd : Store.enter viewOf f ts s = (.ok d, t)) :
    Faithful hier ⟨t.beginCall d, t.active :: saved⟩ := by
  rcases h.enter hview f ts with ⟨e, -, he⟩ | ⟨m, v, t', -, he, ha, hj, hsh, hst, hap, hw, htab⟩
  · rw [he] at hd
    exact nomatch hd
  · rw [he] at hd
    obtain rfl := Except.ok.inj (congrArg Prod.fst hd)
    obtain rfl : t' = t := congrArg Prod.snd hd
    have hcalls : calls (t'.beginCall ⟨f, ts, m, v⟩).journal
        = calls s.journal ++ [⟨⟨f, ts, m, v⟩, s.active⟩] := by
      show calls t'.journal ++ [⟨_, (executing t'.journal).head?⟩] = _
      rw [hj, h.active_eq]
    refine ⟨?_, ⟨hsh.listed, hsh.nodup, hsh.owner⟩, ?_, ?_, ?_, ?_⟩
    · show some v :: t'.active :: saved = (v :: executing t'.journal).map some ++ [none]
      rw [ha, hj, List.map_cons, List.cons_append, ← h.stack]
    · rw [hcalls]
      exact ⟨hst.sound, hst.entry_iff, hst.called⟩
    · rw [hcalls]
      exact hap
    · rw [hcalls]
      exact hw
    · rw [hcalls]
      exact htab

theorem refused (h : Faithful hier ⟨s, saved⟩) {viewOf : Store → Surroundings} {f : Nat}
    {ts : List ClassId} {e : Fault} (hview : (viewOf s).hierarchy = hier)
    (he : Store.enter viewOf f ts s = (.error e, t)) : t = s := by
  rcases h.enter hview f ts with ⟨e', -, h'⟩ | ⟨m, v, t', -, h', -⟩
  · rw [h'] at he
    exact (congrArg Prod.snd he).symm
  · rw [h'] at he
    exact nomatch he

theorem ended {former : Option Nat} (h : Faithful hier ⟨s, former :: saved⟩) :
    Faithful hier ⟨s.endCall former, saved⟩ := by
  refine ⟨?_, ⟨h.shaped.listed, h.shaped.nodup, h.shaped.owner⟩,
    ⟨h.stored.sound, h.stored.entry_iff, h.stored.called⟩, h.applied, h.wired, h.tabled⟩
  show former :: saved = (executing s.journal).tail.map some ++ [none]
  have hstack := h.stack
  cases hex : executing s.journal with
  | nil =>
    rw [hex] at hstack
    exact nomatch (List.cons.inj hstack).2
  | cons v vs =>
    rw [hex] at hstack
    exact (List.cons.inj hstack).2

end Faithful

theorem Step.faithful {hier : Hierarchy} {r r' : Running} (hstep : Step hier r r')
    (h : Faithful hier r) : Faithful hier r' := by
  cases hstep with
  | function hfn =>
    exact ⟨h.stack, h.shaped.addFunction hfn, h.stored.addFunction _, h.applied, h.wired,
      h.tabled.addFunction h.shaped h.stored hfn⟩
  | method hempty hlayout hreg =>
    obtain ⟨-, -, ha, hj, -⟩ := Store.register_frame hreg
    refine ⟨?_, h.shaped.register hreg hlayout, ?_, ?_, ?_, ?_⟩
    · dsimp only
      rw [ha, hj]
      exact h.stack
    · dsimp only
      rw [hj]
      exact h.stored.register hreg hempty
    · dsimp only
      rw [hj]
      exact h.applied.register hreg h.stored
    · dsimp only
      rw [hj]
      exact h.wired.register hreg
    · dsimp only
      rw [hj]
      exact h.tabled.register hreg h.stored
  | refused hview he =>
    obtain rfl := h.refused hview he
    exact h
  | began hview hd => exact h.began hview hd
  | ended => exact h.ended

/-- faithful stores lead to faithful ones only -/
theorem Steps.faithful {hier : Hierarchy} {r r' : Running} (hsteps : Steps hier r r')
    (h : Faithful hier r) : Faithful hier r' := by
  induction hsteps with
  | refl => exact h
  | tail _ hstep ih => exact hstep.faithful ih

end Running

/-! ## What stays -/

/-- further calls may have been made, and the methods declare what they did -/
structure Store.Later (s t : Store) : Prop where
  calls : calls s.journal <+: calls t.journal
  functions : s.functions.size ≤ t.functions.size
  size : s.methods.size ≤ t.methods.size
  exact : ∀ d : Dispatch, d.method < s.methods.size → t.isExact d = s.isExact d

namespace Store.Later

variable {s t u : Store}

theorem refl (s : Store) : Later s s :=
  ⟨List.prefix_rfl, Nat.le_refl _, Nat.le_refl _, fun _ _ => rfl⟩

theorem trans (h : Later s t) (h' : Later t u) : Later s u :=
  ⟨h.calls.trans h'.calls, Nat.le_trans h.functions h'.functions, Nat.le_trans h.size h'.size,
    fun d hd => (h'.exact d (Nat.lt_of_lt_of_le hd h.size)).trans (h.exact d hd)⟩

theorem of_sameRun (h : SameRun s t) : Later s t :=
  ⟨h.journal ▸ List.prefix_rfl, Nat.le_of_eq h.functions.symm, Nat.le_of_eq h.size.symm,
    fun d _ => h.isExact d⟩

/-- the pairs of types and callers on a table stay, in their order -/
theorem tableCallers_prefix (h : Later s t) (hs : Stored s (Introspect.calls s.journal)) (f : Nat) :
    (tableCallers s f (Introspect.calls s.journal)).eraseDups
      <+: (tableCallers t f (Introspect.calls t.journal)).eraseDups := by
  obtain ⟨rest, hrest⟩ := h.calls
  have hcongr : tableCallers t f (Introspect.calls s.journal)
      = tableCallers s f (Introspect.calls s.journal) :=
    tableCallers_congr (fun c hc => h.exact c.dispatch (hs.called c hc).1) f
  have happend : tableCallers t f (Introspect.calls s.journal ++ rest)
      = tableCallers t f (Introspect.calls s.journal) ++ tableCallers t f rest :=
    List.filterMap_append
  rw [← hrest, happend, List.eraseDups_append, hcongr]
  exact List.prefix_append _ _

end Store.Later

namespace Running

theorem Step.later {hier : Hierarchy} {r r' : Running} (hstep : Step hier r r') :
    Store.Later r.store r'.store := by
  cases hstep with
  | @function s saved fn hfn =>
    have hsize : (s.addFunction fn).1.functions.size = s.functions.size + 1 := Array.size_push _
    refine ⟨List.prefix_rfl, ?_, Nat.le_refl _, fun _ _ => rfl⟩
    rw [hsize]
    exact Nat.le_succ _
  | method hempty hlayout hreg =>
    obtain ⟨-, -, -, hj, hfs, hms, -⟩ := Store.register_frame hreg
    dsimp only
    exact ⟨hj ▸ List.prefix_rfl, by omega, by omega, fun d hd => Store.register_isExact hreg hd⟩
  | @refused s t saved viewOf f ts e hview he =>
    have hsame := Store.keeps_enter viewOf f ts s
    rw [he] at hsame
    exact .of_sameRun hsame
  | @began s t saved viewOf f ts d hview hd =>
    have hsame := Store.keeps_enter viewOf f ts s
    rw [hd] at hsame
    have hlater := Store.Later.of_sameRun hsame
    exact ⟨hlater.calls.trans (List.prefix_append _ _), hlater.functions, hlater.size, hlater.exact⟩
  | ended => exact ⟨List.prefix_rfl, Nat.le_refl _, Nat.le_refl _, fun _ _ => rfl⟩

/-- no steps take back a call, or change the declared types of a method -/
theorem Steps.later {hier : Hierarchy} {r r' : Running} (hsteps : Steps hier r r') :
    Store.Later r.store r'.store := by
  induction hsteps with
  | refl => exact .refl _
  | tail _ hstep ih => exact ih.trans hstep.later

end Running

end Introspect
