import Introspect.Proofs.Dispatch.Exact
import Introspect.Proofs.Hierarchy.Growth
import Introspect.Proofs.Reflection.Backedges
import Introspect.Proofs.Session.Reached

/-!
# The edges of tables are the wider calls

* `Faithful.tableEdges_eq`    the edges of a table are pairs of types and callers, laid out in one
                              list;
* `Faithful.backedges_ok`     the dependents of a function can be listed, with either reader;
* `Session.tableEdges_eq_tableCallers`   in every session that is reached, the pairs on a table are
                              those of the calls that found a method with other declared types, and
                              whatever runs afterwards leaves them in their places.
-/

namespace Introspect

open Signature (ofClasses)

namespace Running.Faithful

variable {hier : Hierarchy} {s : Store} {saved : List (Option Nat)} {f : Nat}

/-- the edges of a table have even length, and two at a time they are the types and the callers of the
calls whose method declares other types -/
theorem tableEdges_eq (h : Faithful hier ⟨s, saved⟩) (hf : f < s.functions.size) :
    ∃ ms items, (s.function f).table = some ⟨ms, .held items⟩
      ∧ items = interleave (tableCallers s f (calls s.journal)).eraseDups
      ∧ items.length % 2 = 0
      ∧ pairs items = (tableCallers s f (calls s.journal)).eraseDups.map fun p =>
          (.tuple (ofClasses p.1), .variant p.2) := by
  obtain ⟨ms, hms⟩ := h.tabled f hf
  refine ⟨ms, _, hms, rfl, ?_, pairs_interleave _⟩
  rw [length_interleave]
  omega

/-- no pair is on a table twice -/
theorem nodup_pairs (h : Faithful hier ⟨s, saved⟩) {ms : List Nat} {items : List Value}
    (hms : (s.function f).table = some ⟨ms, .held items⟩) : (pairs items).Nodup := by
  obtain ⟨ms', items', hms', -, -, hpairs⟩ := h.tableEdges_eq (Store.function_lt _ hms)
  obtain ⟨-, hitems⟩ := Table.mk.inj (Option.some.inj (hms.symm.trans hms'))
  obtain rfl := Edges.held.inj hitems
  rw [hpairs]
  refine List.Pairwise.map _ (fun p q hne hpq => hne ?_) (nodup_eraseDups _)
  obtain ⟨hts, hw⟩ := Prod.mk.inj hpq
  exact Prod.ext (Signature.ofClasses_injective (Value.tuple.inj hts)) (Value.variant.inj hw)

/-- the dependents of a function can be listed -/
theorem backedges_ok (h : Faithful hier ⟨s, saved⟩) (hf : f < s.functions.size)
    (view : Surroundings) (reader : Layout) :
    ∃ edges, (backedges s view reader.source (.generic f)).result = .ok edges := by
  obtain ⟨ms, items, hms, -, heven, hpairs⟩ := h.tableEdges_eq hf
  have hkeys : ∀ e ∈ pairs items, e.1.requireHashable view.hierarchy = .ok () := by
    intro e he
    rw [hpairs] at he
    obtain ⟨p, -, rfl⟩ := List.mem_map.mp he
    exact Value.requireHashable_tuple_ofClasses view.hierarchy p.1
  have hcollects := fun m (hm : m ∈ ms) =>
    (h.stored.sound m (h.shaped.listed f _ hms m hm).1).collects view reader
  obtain ⟨notes, howned⟩ := Introspect.specializations_eq hms hcollects []
  exact ⟨_, congrArg Prod.fst
    (backedges_eq (tableEdges_of_held hms view.hierarchy) howned heven hkeys)⟩

end Running.Faithful

namespace Session

variable {s : Session}

/-- the edges of a table have even length; two at a time they are the types and the callers of the
calls that found a method with other declared types, each pair once and in the order of the first such
call.  Registering a method changes none of them, no run removes or moves one, and the declared types
of a call are those at its time.  The dependents of the function can be listed. -/
theorem tableEdges_eq_tableCallers (hs : s.Reached) {f : Nat} (hf : f < s.store.functions.size) :
    ∃ ms items, (s.store.function f).table = some ⟨ms, .held items⟩
      ∧ items.length % 2 = 0
      ∧ pairs items = (tableCallers s.store f (calls s.store.journal)).eraseDups.map (fun p =>
          (.tuple (ofClasses p.1), .variant p.2))
      ∧ (pairs items).Nodup
      ∧ (∀ m t i, s.store.register m = .ok (t, i) →
          ∃ ms', (t.function f).table = some ⟨ms', .held items⟩)
      ∧ (∀ t, Runs s t →
          (∃ ms' items', (t.store.function f).table = some ⟨ms', .held items'⟩ ∧ items <+: items')
            ∧ calls s.store.journal <+: calls t.store.journal
            ∧ ∀ c ∈ calls s.store.journal, t.store.isExact c.dispatch = s.store.isExact c.dispatch)
      ∧ ∀ reader : Layout,
          ∃ edges, (backedges s.store s.view reader.source (.generic f)).result = .ok edges := by
  obtain ⟨saved, h⟩ := hs.faithful
  obtain ⟨ms, items, hms, hitems, heven, hpairs⟩ := h.tableEdges_eq hf
  refine ⟨ms, items, hms, heven, hpairs, h.nodup_pairs hms,
    fun m t i hreg => ⟨_, Store.register_table hreg hms⟩, fun t hrun => ?_, h.backedges_ok hf s.view⟩
  obtain ⟨ht, -, hlater⟩ := hs.run hrun
  obtain ⟨saved', h'⟩ := ht.faithful
  obtain ⟨ms', items', hms', hitems', -⟩ :=
    h'.tableEdges_eq (Nat.lt_of_lt_of_le hf hlater.functions)
  refine ⟨⟨ms', items', hms', ?_⟩, hlater.calls, fun c hc =>
    hlater.exact c.dispatch (h.stored.called c hc).1⟩
  rw [hitems, hitems']
  exact interleave_prefix (hlater.tableCallers_prefix h.stored f)

/-! ## A wider call -/

/-- a function that takes an object of any class, and one that calls it with a number -/
def widening : Session := ({} : Session).after [
  .newFunction "callee" "callee" none,
  .register "callee" (some [.className "object"]) [] (.literal .none),
  .newGeneric "caller" "caller" [] (.call "callee" [.literal (.int 1)] []) none none]

/-- the session inside of the second function -/
def aboutToWiden : Session := widening.entered 1 [] ⟨1, [], 1, 0⟩

/-- the session inside of the call that it makes -/
def widened : Session := aboutToWiden.entered 0 [.int 1] ⟨0, [.int], 0, 1⟩

theorem reached_aboutToWiden :
    Reached aboutToWiden ∧ aboutToWiden.hierarchy = Hierarchy.base := by
  have hwidening : Runs {} widening := runs_after _ (by
    simp [Request.Ordinary, Script.Ordinary, Script.AllOrdinary, Script.NamedOrdinary])
  have hentered : Next widening (widening.entered 1 [] ⟨1, [], 1, 0⟩) := .entered 1 [] rfl
  have hruns := hwidening.tail hentered
  exact ⟨(reached_blank.run hruns).1, hierarchy_of_runs hruns⟩

theorem reached_widened : Reached widened
    ∧ (widened.store.function 0).table = some ⟨[0], .held [.tuple [.cls .int], .variant 0]⟩ := by
  obtain ⟨hreached, hhier⟩ := reached_aboutToWiden
  have hbelow : (aboutToWiden.viewWith aboutToWiden.store).hierarchy.below [.int] [.object]
      = true := by
    rw [hierarchy_viewWith, hhier, Hierarchy.below_cons,
      Hierarchy.isSubclass_of_inherits Hierarchy.base_inherits_int_object]
    rfl
  have htable : (aboutToWiden.store.function 0).table = some ⟨[0], .held []⟩ := rfl
  have htypes : (aboutToWiden.store.method 0).parameterTypes [ClassId.int].length
      = some (ofClasses [.object]) := rfl
  have hr := Store.resolve_of_alone htable htypes hbelow
  have henter := Store.enter_of_wider (v := 1) (w := 0) hr rfl rfl rfl rfl rfl
  have hclasses : argumentClasses aboutToWiden.hierarchy [.int 1] = [.int] := rfl
  refine ⟨hreached.next (.entered 0 [.int 1] ?_), ?_⟩
  · rw [hclasses, henter]
  · unfold widened entered
    rw [hclasses, henter]
    rfl

/-- inside of the wider call its pair is there, and the dependents of its function can be listed -/
theorem tableEdges_widened :
    ([.int], 0) ∈ tableCallers widened.store 0 (calls widened.store.journal)
      ∧ ∃ edges, (backedges widened.store widened.view slotsSource (.generic 0)).result
          = .ok edges := by
  obtain ⟨hreached, htable⟩ := reached_widened
  obtain ⟨ms, items, hms, -, hpairs, -, -, -, hlisted⟩ :=
    tableEdges_eq_tableCallers hreached (Store.function_lt _ htable)
  obtain ⟨rfl, hitems⟩ := Table.mk.inj (Option.some.inj (htable.symm.trans hms))
  obtain rfl := Edges.held.inj hitems
  refine ⟨List.mem_eraseDups.mp ?_, hlisted .slots⟩
  have hmem : (.tuple (ofClasses [.int]), .variant 0)
      ∈ pairs [Value.tuple [.cls .int], .variant 0] := List.mem_singleton.mpr rfl
  rw [hpairs] at hmem
  obtain ⟨⟨ts, w⟩, hp, heq⟩ := List.mem_map.mp hmem
  obtain ⟨hts, hw⟩ := Prod.mk.inj heq
  obtain rfl := Signature.ofClasses_injective (Value.tuple.inj hts)
  obtain rfl := Value.variant.inj hw
  exact hp

end Session

end Introspect
