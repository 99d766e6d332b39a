import Introspect.Proofs.Reflection.Grouping
import Introspect.Proofs.Session.Listing
import Introspect.Proofs.Session.TableEdges

/-!
# Dependents of a function, whatever its edges are

The dependents of a function can be listed also when the flat list of its table was replaced, and those
of its variants were changed or taken away: all that counts is that the methods are those of a session.

* `Store.SameMethods`        stores that differ in dependents and edges only;
* `Store.DependentsRead`     the dependents of a variant, none where there is no list to be read;
* `Grouping`                 signatures with their dependents, which are in the order of the pairs;
* `Session.backedges_grouped`   a list of odd length is refused, and the function is named; otherwise
                             the keys are the variants in the listing of the function and the distinct
                             signatures, and no dependent is lost.
-/

namespace Introspect

open Signature (ofClasses)

/-! ## Changed edges -/

/-- the methods are the same, also those in the table of a function; dependents and edges may be
others -/
structure Store.SameMethods (s t : Store) (f : Nat) : Prop where
  methods : t.methods = s.methods
  table : (t.function f).table.map Table.methods = (s.function f).table.map Table.methods

theorem Store.sameMethods_modifyTable {s : Store} {f : Nat} (hf : f < s.functions.size)
    (edges : Edges) : s.SameMethods (s.modifyTable f fun t => { t with edges }) f where
  methods := rfl
  table := by
    rw [Store.function_modifyTable s _ hf, if_pos rfl]
    show ((s.function f).table.map fun t => { t with edges }).map Table.methods = _
    rw [Option.map_map]
    rfl

/-- what is read as the dependents of a variant: its list, or nothing where there is none -/
inductive Store.DependentsRead (t : Store) (h : Hierarchy) (v : Nat) : List Value → Prop where
  | held (items : List Value) (heq : (t.variant v).dependents = .held items) :
      t.DependentsRead h v items
  | replaced (r : Value) (items : List Value) (heq : (t.variant v).dependents = .replaced r)
      (hread : r.items h = .ok items) : t.DependentsRead h v items
  | missing (heq : (t.variant v).dependents = .missing) : t.DependentsRead h v []
  | unreadable (r : Value) (e : Fault) (heq : (t.variant v).dependents = .replaced r)
      (hread : r.items h = .error e) : t.DependentsRead h v []

theorem Store.dependentsRead (t : Store) (h : Hierarchy) (v : Nat) :
    t.DependentsRead h v (variantEdges t h v) := by
  unfold variantEdges
  cases hv : (t.variant v).dependents with
  | held items => exact .held items hv
  | missing => exact .missing hv
  | replaced r =>
    dsimp only
    cases hread : r.items h with
    | ok items => exact .replaced r items hv hread
    | error e => exact .unreadable r e hv hread

/-- distinct signatures, each with the dependents that are paired with it -/
structure Grouping (es : List (Value × Value)) (groups : List (Value × List Value)) : Prop where
  distinct : (groups.map Prod.fst).Pairwise fun k k' => (k == k') = false
  paired : ∀ g ∈ groups, ∃ e ∈ es, e.1 = g.1
  covers : ∀ e ∈ es, ∃ g ∈ groups, (g.1 == e.1) = true
  /-- in the order of the pairs -/
  dependents : ∀ g ∈ groups, g.2 = (es.filter fun e => g.1 == e.1).map Prod.snd

/-- the signatures of pairs -/
def IsSignatureOf (es : List (Value × Value)) (k : Value) : Prop := ∃ e ∈ es, e.1 = k

theorem grouping_grouped {es : List (Value × Value)} (hlaws : Value.SameLaws (IsSignatureOf es)) :
    Grouping es (grouped es) := by
  have hsigs : ∀ v ∈ es.map Prod.fst, IsSignatureOf es v := fun v hv => List.mem_map.mp hv
  have hkeys : (grouped es).map Prod.fst = Value.distinct (es.map Prod.fst) := by
    unfold grouped
    rw [List.map_map]
    exact List.map_id _
  refine ⟨?_, fun g hg => ?_, fun e he => ?_, fun g hg => ?_⟩
  · rw [hkeys]
    exact Value.pairwise_distinct hlaws hsigs
  · have hk : g.1 ∈ Value.distinct (es.map Prod.fst) := hkeys ▸ List.mem_map_of_mem hg
    exact List.mem_map.mp (Value.mem_of_mem_distinct hk)
  · obtain ⟨k, hk, heq⟩ := Value.exists_mem_distinct hlaws hsigs (List.mem_map_of_mem he)
    exact ⟨_, List.mem_map_of_mem hk, heq⟩
  · obtain ⟨k, -, rfl⟩ := List.mem_map.mp hg
    rfl

/-- every signature can be hashed -/
def HashableSignatures (h : Hierarchy) (flat : List Value) : Prop :=
  ∀ e ∈ pairs flat, e.1.requireHashable h = .ok ()

namespace Running.Faithful

variable {hier : Hierarchy} {s t : Store} {saved : List (Option Nat)} {f : Nat}

/-- the listing of a function does not depend on the edges -/
theorem specializations_ok (h : Faithful hier ⟨s, saved⟩) (hf : f < s.functions.size)
    (ht : s.SameMethods t f) (view : Surroundings) (reader : Layout) (notes : List String) :
    ∃ owned notes', specializations t view reader.source (.generic f) none notes
        = (.ok owned, notes') ∧ (owned.map Prod.fst).Nodup := by
  obtain ⟨ms, hms⟩ := h.tabled f hf
  have hmethod : ∀ m, t.method m = s.method m := by
    intro m
    unfold Store.method
    rw [ht.methods]
  obtain ⟨table, htable, rfl⟩ : ∃ table, (t.function f).table = some table
      ∧ table.methods = ms := by
    have hmap := ht.table
    rw [hms] at hmap
    exact Option.map_eq_some_iff.mp hmap
  have hlt : ∀ m ∈ table.methods, m < s.methods.size := fun m hm =>
    (h.shaped.listed f _ hms m hm).1
  have hcollects : ∀ m ∈ table.methods,
      Collects t view reader.source m (s.variantsFor reader m) := by
    intro m hm
    have hsound := h.stored.sound m (hlt m hm)
    rw [← hmethod] at hsound
    unfold Store.variantsFor
    rw [← hmethod]
    exact hsound.collects view reader
  have hown : ∀ m ∈ table.methods, ∀ v ∈ s.variantsFor reader m, (s.variant v).method = m :=
    fun m hm v hv => h.method_of_mem_variantsFor (hlt m hm) hv
  obtain ⟨notes', hres⟩ := Introspect.specializations_eq htable hcollects notes
  have hby := (ownedBy_foldl hown (ownedBy_nil fun v => (s.variant v).method)).1
  exact ⟨_, notes', hres, hby.nodup⟩

/-- the edges that a table has by itself are pairs of tuples of classes and variants -/
theorem signatures_ok (h : Faithful hier ⟨s, saved⟩) (hf : f < s.functions.size)
    (view : Hierarchy) :
    ∃ flat, tableEdges s view (.generic f) = .ok flat ∧ HashableSignatures view flat
      ∧ Value.SameLaws (IsSignatureOf (pairs flat)) := by
  obtain ⟨ms, flat, hms, -, -, hpairs⟩ := h.tableEdges_eq hf
  have htuple : ∀ e ∈ pairs flat, ∃ ts, e.1 = .tuple (ofClasses ts) := by
    intro e he
    rw [hpairs] at he
    obtain ⟨p, -, rfl⟩ := List.mem_map.mp he
    exact ⟨p.1, rfl⟩
  refine ⟨flat, tableEdges_of_held hms view, fun e he => ?_, ?_⟩
  · obtain ⟨ts, heq⟩ := htuple e he
    rw [heq]
    exact Value.requireHashable_tuple_ofClasses view ts
  · refine Value.sameLaws_tuple_ofClasses.mono ?_
    rintro _ ⟨e, he, rfl⟩
    exact htuple e he

end Running.Faithful

namespace Session

variable {s : Session}

/-- in a session that is reached, or with other dependents and a flat list of edges whose signatures can
be hashed, the dependents of a function are listed unless the length of the list is odd: then it is
refused, and the function is named.  The keys are the variants in the listing of the function, each with
its own dependents, and the signatures; no dependent of a signature is lost.  When equality is an
equivalence on the signatures, as it is in a session by itself, each of them is a key once, with all
that is paired with it. -/
theorem backedges_grouped (hs : s.Reached) {f : Nat} (hf : f < s.store.functions.size)
    (view : Surroundings) (reader : Layout) :
    (∃ flat, tableEdges s.store view.hierarchy (.generic f) = .ok flat
        ∧ HashableSignatures view.hierarchy flat ∧ Value.SameLaws (IsSignatureOf (pairs flat)))
      ∧ ∀ t flat, s.store.SameMethods t f → tableEdges t view.hierarchy (.generic f) = .ok flat →
        HashableSignatures view.hierarchy flat →
        ∃ owned, (specializations t view reader.source (.generic f) none).result = .ok owned
          ∧ (owned.map Prod.fst).Nodup
          ∧ ((∃ count last, (backedges t view reader.source (.generic f)).result
              = .error (.oddEdges count last (some (.of view (.generic f)))))
            ↔ flat.length % 2 = 1)
          ∧ (flat.length % 2 = 0 → ∃ groups : List (Value × List Value),
            (backedges t view reader.source (.generic f)).result
              = .ok (owned.map (fun e => (.variant e.1, variantEdges t view.hierarchy e.1))
                  ++ groups.map fun g => (.table f g.1, g.2))
              ∧ (∀ e ∈ owned, t.DependentsRead view.hierarchy e.1
                  (variantEdges t view.hierarchy e.1))
              ∧ (∀ i k d, (pairs flat)[i]? = some (k, d)
                  ↔ flat[2 * i]? = some k ∧ flat[2 * i + 1]? = some d)
              ∧ (groups.flatMap Prod.snd).Perm ((pairs flat).map Prod.snd)
              ∧ (Value.SameLaws (IsSignatureOf (pairs flat)) → Grouping (pairs flat) groups)) := by
  obtain ⟨saved, h⟩ := hs.faithful
  refine ⟨h.signatures_ok hf view.hierarchy, fun t flat ht hflat hkeys => ?_⟩
  obtain ⟨owned, notes, howned, hnodup⟩ := h.specializations_ok hf ht view reader []
  refine ⟨owned, congrArg Prod.fst howned, hnodup, ?_, fun heven => ?_⟩
  · by_cases heven : flat.length % 2 = 0
    · have hok := congrArg Prod.fst (backedges_eq hflat howned heven hkeys)
      refine iff_of_false ?_ (by omega)
      rintro ⟨count, last, herror⟩
      exact nomatch hok.symm.trans herror
    · have hodd := congrArg Prod.fst (backedges_of_odd hflat howned heven)
      exact iff_of_true ⟨_, _, hodd⟩ (by omega)
  · refine ⟨_, congrArg Prod.fst (backedges_eq hflat howned heven hkeys),
      fun e _ => t.dependentsRead view.hierarchy e.1, getElem?_pairs flat,
      perm_foldl_addGrouped (pairs flat) [],
      fun hlaws => ?_⟩
    rw [foldl_addGrouped_eq hlaws fun e he => ⟨e, he, rfl⟩]
    exact grouping_grouped hlaws

/-! ## A table with other edges -/

def intSignature : Value := .tuple (ofClasses [.int])

def objectSignature : Value := .tuple (ofClasses [.object])

/-- three dependents on two signatures, of which one comes in between -/
def mixedEdges : List Value :=
  [intSignature, .int 1, objectSignature, .int 2, intSignature, .int 3]

/-- the session inside of the wider call, with these edges in its table -/
def relinked : Store := widened.store.modifyTable 0 fun t => { t with edges := .held mixedEdges }

theorem tableEdges_relinked (h : Hierarchy) :
    tableEdges relinked h (.generic 0) = .ok mixedEdges := by
  obtain ⟨-, htable⟩ := reached_widened
  have hf := Store.function_lt _ htable
  have hrelinked : (relinked.function 0).table = some ⟨[0], .held mixedEdges⟩ := by
    unfold relinked
    rw [Store.function_modifyTable _ _ hf, if_pos rfl, htable]
    rfl
  exact tableEdges_of_held hrelinked h

theorem mem_pairs_mixedEdges {e : Value × Value} (he : e ∈ pairs mixedEdges) :
    e.1 = .tuple (ofClasses [.int]) ∨ e.1 = .tuple (ofClasses [.object]) := by
  have hpairs : pairs mixedEdges
      = [(intSignature, .int 1), (objectSignature, .int 2), (intSignature, .int 3)] := rfl
  rw [hpairs] at he
  simp only [List.mem_cons, List.not_mem_nil, or_false] at he
  rcases he with rfl | rfl | rfl
  · exact .inl rfl
  · exact .inr rfl
  · exact .inl rfl

/-- the dependents on one signature come together, in their order -/
theorem backedges_relinked : ∃ edges,
    (backedges relinked widened.view slotsSource (.generic 0)).result = .ok edges
      ∧ (.table 0 intSignature, [.int 1, .int 3]) ∈ edges := by
  obtain ⟨hreached, htable⟩ := reached_widened
  have hf := Store.function_lt _ htable
  have hsignature : ∀ e ∈ pairs mixedEdges, ∃ ts, e.1 = .tuple (ofClasses ts) := by
    intro e he
    rcases mem_pairs_mixedEdges he with heq | heq
    · exact ⟨_, heq⟩
    · exact ⟨_, heq⟩
  have hkeys : HashableSignatures widened.view.hierarchy mixedEdges := by
    intro e he
    obtain ⟨ts, heq⟩ := hsignature e he
    rw [heq]
    exact Value.requireHashable_tuple_ofClasses _ ts
  have hlaws : Value.SameLaws (IsSignatureOf (pairs mixedEdges)) := by
    refine Value.sameLaws_tuple_ofClasses.mono ?_
    rintro _ ⟨e, he, rfl⟩
    exact hsignature e he
  obtain ⟨owned, -, -, -, hlisted⟩ := (backedges_grouped hreached hf widened.view .slots).2
    relinked mixedEdges (Store.sameMethods_modifyTable hf _) (tableEdges_relinked _) hkeys
  obtain ⟨groups, hok, -, -, -, hgroups⟩ := hlisted rfl
  obtain ⟨⟨k, ds⟩, hg, heq⟩ := (hgroups hlaws).covers (intSignature, .int 1) List.mem_cons_self
  have hint : k = intSignature := by
    obtain ⟨e, he, hk⟩ := (hgroups hlaws).paired _ hg
    obtain rfl : e.1 = k := hk
    rcases mem_pairs_mixedEdges he with hint | hobject
    · exact hint
    · rw [hobject] at heq
      exact absurd ((Value.beq_tuple_ofClasses_iff _ _).mp heq) (by decide)
  subst hint
  have hds : ds = [.int 1, .int 3] := (hgroups hlaws).dependents _ hg
  refine ⟨_, hok, List.mem_append_right _ (List.mem_map.mpr ⟨_, hg, ?_⟩)⟩
  rw [hds]

end Session

end Introspect
