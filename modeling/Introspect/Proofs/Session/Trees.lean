import Introspect.Proofs.Console.Indented
import Introspect.Proofs.Hierarchy.Descent
import Introspect.Proofs.Lists
import Introspect.Session.Inspections

/-!
# Printed trees

A tree is printed along the subclasses of the classes, or along any other listing of classes that
leads nowhere back.

* `Printed`                        what the lines of a tree show;
* `printed_of_preorder`            the lines that are made from a preorder show it;
* `Session.trees_printed`          every tree has such lines, whichever listing it is printed along;
* `Session.trees_printed_broken`   a name with a line end in it makes more than one line.
-/

namespace Introspect

open Console (Output isDotted indented)

section
variable {α : Type} {below : α → List α} {name : α → String} {c : α}

/-- lines show what `c` unfolds to along a listing; `placed` holds where the addresses lead -/
structure Printed (below : α → List α) (name : α → String) (c : α) (placed : List (List Nat × α))
    (lines : List String) : Prop where
  mem_iff : ∀ p d, (p, d) ∈ placed ↔ follow below c p = some d
  /-- an address comes before those it is the beginning of, and places come in order -/
  sorted : placed.Pairwise fun e e' => e.1 < e'.1
  lines_eq : lines = placed.map fun e => treeLine e.1.length (name e.2)
  /-- the last line before another one that stands higher is that of the element which lists it, and
  it stands one step higher -/
  parent : ∀ before e after, placed = before ++ e :: after → before ≠ [] →
    ∃ first parent between, before = first ++ parent :: between
      ∧ (∃ i, e.1 = parent.1 ++ [i] ∧ (below parent.2)[i]? = some e.2)
      ∧ ∀ m ∈ between, e.1.length ≤ m.1.length
  /-- each line is printed as a block, which is one line when the name has no line end in it -/
  shown : ∀ o : Output, ∃ blocks : List (List String),
    (lines.foldl Output.printUnwrapped o).lines = o.lines ++ blocks.flatten
      ∧ List.Forall₂ (fun e block => '\n' ∉ (name e.2).toList →
        block = [indented e.1.length (name e.2)]) placed blocks
  /-- dotted names are shown as they are, and the tree of names is read from the lines -/
  readBack : (∀ e ∈ placed, isDotted (name e.2) = true) →
    (∀ o : Output, (lines.foldl Output.printUnwrapped o).lines = o.lines ++ lines)
      ∧ ∃ tree, Outline.read? lines = some tree
        ∧ ∀ p, tree.at? p = (follow below c p).map name

/-- dotted names make one line each, as it stands -/
theorem flatMap_unwrapped_treeLine {placed : List (List Nat × α)}
    (h : ∀ e ∈ placed, isDotted (name e.2) = true) :
    (placed.map fun e => treeLine e.1.length (name e.2)).flatMap Console.unwrapped
      = placed.map fun e => treeLine e.1.length (name e.2) := by
  rw [List.flatMap_map, List.map_eq_flatMap]
  refine List.flatMap_congr fun e he => ?_
  rw [Console.unwrapped_eq_indented (Console.not_mem_of_isDotted (h e he) '\n' (by decide)),
    Console.indented_eq (h e he)]

theorem head_ne_blank {name : String} (h : isDotted name = true) :
    ∀ c ∈ name.toList.head?, c ≠ ' ' := by
  intro c hc hblank
  have hother := Console.isBlank_of_isDotted h (List.mem_of_mem_head? hc)
  rw [hblank] at hother
  exact absurd hother (by decide)

/-- the lines that are made from a preorder show the tree -/
theorem printed_of_preorder (name : α → String) {n : Nat} {es : List (Int × α)}
    (h : preorder below n 0 c = some es) :
    ∃ placed, Printed below name c placed (es.map fun e => treeLine e.1 (name e.2)) := by
  -- the same lines, from the elements and from their names
  obtain ⟨o, hat, hplaced⟩ := exists_outline_lines id h
  obtain ⟨tree, hnamed, hnames⟩ := exists_outline_lines name h
  have hlines : (es.map fun e => treeLine e.1 (name e.2))
      = o.placed.map fun e => treeLine e.1.length (name e.2) := hplaced name
  have htexts : (es.map fun e => treeLine e.1 (name e.2))
      = tree.placed.map fun e => treeLine e.1.length e.2 := hnames id
  generalize (es.map fun e => treeLine e.1 (name e.2)) = lines at hlines htexts ⊢
  have hmem : ∀ p d, (p, d) ∈ o.placed ↔ follow below c p = some d := fun p d => by
    rw [Outline.mem_placed, hat, Option.map_id_fun, id]
  refine ⟨o.placed, hmem, o.pairwise_placed, hlines, ?_, ?_, ?_⟩
  · intro before e after hsplit hne
    obtain ⟨first, parent, between, hbefore, ⟨i, hi⟩, hbetween⟩ := Outline.exists_parent hsplit hne
    have hhere : follow below c (parent.1 ++ [i]) = some e.2 :=
      hi ▸ (hmem e.1 e.2).mp (hsplit ▸ List.mem_append_right _ List.mem_cons_self)
    have habove : follow below c parent.1 = some parent.2 := by
      refine (hmem parent.1 parent.2).mp ?_
      rw [hsplit, hbefore]
      exact List.mem_append_left _ (List.mem_append_right _ List.mem_cons_self)
    rw [follow_concat, habove] at hhere
    refine ⟨first, parent, between, hbefore, ⟨i, hi, hhere⟩, fun m hm => ?_⟩
    rw [hi, List.length_append]
    exact hbetween m hm
  · refine fun out => ⟨lines.map Console.unwrapped, ?_, ?_⟩
    · rw [Output.lines_foldl_printUnwrapped, List.flatMap_def]
    · rw [hlines, List.map_map, List.forall₂_map_right_iff, List.forall₂_same]
      intro e _ hend
      rw [Function.comp_apply, Console.unwrapped_eq_indented hend]
  · refine fun hdotted => ⟨fun out => ?_, tree, ?_, hnamed⟩
    · rw [Output.lines_foldl_printUnwrapped, hlines, flatMap_unwrapped_treeLine hdotted]
    · rw [htexts]
      refine Outline.read?_lines fun ⟨p, text⟩ he => ?_
      obtain ⟨d, hd, rfl⟩ :=
        Option.map_eq_some_iff.mp ((hnamed p).symm.trans (Outline.mem_placed.mp he))
      have hname : isDotted (name d) = true := hdotted (p, d) ((hmem p d).mpr hd)
      exact head_ne_blank hname

end

namespace Session

/-- what a listing by class names puts below a class -/
def listed (h : Hierarchy) (listing : List (String × List ClassId)) (c : ClassId) : List ClassId :=
  (listing.lookup (h.className c)).getD []

/-- the classes of a listing, as values -/
def listingValues (listing : List (String × List ClassId)) : List (String × List Value) :=
  listing.map fun e => (e.1, e.2.map Value.cls)

theorem listedBelow_cls (h : Hierarchy) (listing : List (String × List ClassId)) (c : ClassId) :
    listedBelow h (listingValues listing) (.cls c) = (listed h listing c).map Value.cls := by
  unfold listedBelow listed listingValues
  dsimp only
  generalize h.className c = name
  induction listing with
  | nil => rfl
  | cons e listing ih =>
    rw [List.map_cons, List.lookup_cons, List.lookup_cons]
    cases name == e.1 with
    | true => rfl
    | false => exact ih

theorem mem_of_listed_ne_nil {h : Hierarchy} {listing : List (String × List ClassId)} {c : ClassId}
    (hc : listed h listing c ≠ []) : h.className c ∈ listing.map Prod.fst := by
  by_contra hnone
  refine hc (congrArg (Option.getD · []) (List.lookup_eq_none_iff.mpr fun e he => ?_))
  exact bne_iff_ne.mpr fun heq => hnone (heq ▸ List.mem_map_of_mem he)

/-- along a listing of classes by name, the tree is printed from a preorder of the classes -/
theorem exists_listedTree (s : Session) {listing : List (String × List ClassId)}
    (hacyclic : Acyclic (listed s.hierarchy listing)) (c : ClassId) :
    ∃ es, preorder (listed s.hierarchy listing) (listing.length + 1) 0 c = some es
      ∧ listedTree s (listingValues listing) 0 (.cls c)
        = .ok (es.map fun e => treeLine e.1 (s.hierarchy.typeName e.2)) := by
  -- what is listed below a class depends on its name only
  have hname : ∀ {d e}, s.hierarchy.className d = s.hierarchy.className e →
      listed s.hierarchy listing d = listed s.hierarchy listing e :=
    fun heq => congrArg (fun name => (listing.lookup name).getD []) heq
  have hbound := exists_preorder s.hierarchy.className hname mem_of_listed_ne_nil hacyclic 0 c
  rw [List.length_map] at hbound
  obtain ⟨es, hes⟩ := hbound
  have hvalues := preorder_map (listedBelow_cls s.hierarchy listing) (listing.length + 1) 0 c
  refine ⟨es, hes, ?_⟩
  have hlength : (listingValues listing).length = listing.length := List.length_map _
  rw [listedTree, hlength, hvalues, hes]
  refine mapM_eq_ok_iff.mpr ?_
  rw [List.forall₂_map_left_iff, List.forall₂_map_right_iff, List.forall₂_same]
  exact fun _ _ => rfl

/-- along every listing that leads nowhere back a tree is printed, one line for each path, and the
tree can be read from the lines -/
theorem trees_printed :
    (∀ (h : Hierarchy) (below : ClassId → List ClassId) (c : ClassId), Acyclic below →
      (∀ d, below d ≠ [] → d.index < h.size) →
      ∃ placed lines, h.tree below 0 c = .ok lines ∧ Printed below h.typeName c placed lines)
    ∧ ∀ (s : Session) (listing : List (String × List ClassId)) (c : ClassId),
      Acyclic (listed s.hierarchy listing) →
      ∃ placed lines, listedTree s (listingValues listing) 0 (.cls c) = .ok lines
        ∧ Printed (listed s.hierarchy listing) s.hierarchy.typeName c placed lines := by
  refine ⟨fun h below c hacyclic hfinite => ?_, fun s listing c hacyclic => ?_⟩
  · obtain ⟨es, hes⟩ := Hierarchy.exists_preorder_size hacyclic hfinite 0 c
    obtain ⟨placed, hprinted⟩ := printed_of_preorder h.typeName hes
    exact ⟨placed, _, by rw [Hierarchy.tree, hes], hprinted⟩
  · obtain ⟨es, hes, htree⟩ := exists_listedTree s hacyclic c
    obtain ⟨placed, hprinted⟩ := printed_of_preorder s.hierarchy.typeName hes
    exact ⟨placed, _, htree, hprinted⟩

/-- a listing in which names go up leads nowhere back -/
theorem acyclic_listed {h : Hierarchy} {listing : List (String × List ClassId)}
    (rank : String → Nat)
    (hrank : ∀ e ∈ listing, ∀ d ∈ e.2, rank e.1 < rank (h.className d)) :
    Acyclic (listed h listing) := by
  refine acyclic_of_lt (fun c => rank (h.className c)) fun c d hd => ?_
  cases hlookup : listing.lookup (h.className c) with
  | none =>
    rw [listed, hlookup] at hd
    exact nomatch hd
  | some es =>
    rw [listed, hlookup] at hd
    obtain ⟨before, after, hlisting, -⟩ := List.lookup_eq_some_iff.mp hlookup
    exact hrank (h.className c, es)
      (hlisting ▸ List.mem_append_right _ List.mem_cons_self) d hd

/-- what is listed below the first classes, the last one of them below two others -/
def sharedTable : List (List ClassId) := [[.type, .int], [.bool], [.bool]]

def sharedListing : List (String × List ClassId) :=
  [("object", [.type, .int]), ("type", [.bool]), ("int", [.bool])]

/-- a class that is listed below two others is printed below both -/
theorem trees_printed_shared :
    let h := Hierarchy.baseOf 4
    let below := fun c : ClassId => sharedTable.getD c.index []
    Acyclic below ∧ (∀ d, below d ≠ [] → d.index < h.size)
      ∧ (∃ placed, Printed below h.typeName .object placed
          ["object", "    type", "        bool", "    int", "        bool"])
      ∧ Acyclic (listed h sharedListing)
      ∧ ∃ placed lines,
        listedTree { hierarchy := h } (listingValues sharedListing) 0 (.cls .object) = .ok lines
          ∧ Printed (listed h sharedListing) h.typeName .object placed lines := by
  intro h below
  have hup : ∀ c, ∀ d ∈ below c, c.index < d.index := by
    rintro ⟨n⟩
    rcases n with _ | _ | _ | n
    · decide
    · decide
    · decide
    · exact fun d hd => nomatch hd
  have hfinite : ∀ d, below d ≠ [] → d.index < h.size := by
    rintro ⟨n⟩ hd
    rcases n with _ | _ | _ | n
    · decide +kernel
    · decide +kernel
    · decide +kernel
    · exact absurd rfl hd
  have hlisting : Acyclic (listed h sharedListing) :=
    acyclic_listed (fun name => if name = "object" then 0 else if name = "bool" then 2 else 1)
      (by decide +kernel)
  have hacyclic := acyclic_of_lt ClassId.index hup
  obtain ⟨placed, lines, htree, hprinted⟩ := trees_printed.1 h below .object hacyclic hfinite
  have hlines : h.tree below 0 .object
      = .ok ["object", "    type", "        bool", "    int", "        bool"] := by
    rfl
  obtain rfl := Except.ok.inj (htree.symm.trans hlines)
  exact ⟨hacyclic, hfinite, ⟨placed, hprinted⟩, hlisting,
    trees_printed.2 { hierarchy := h } sharedListing .object hlisting⟩

/-- a name with a line end in it makes two lines for one path -/
theorem trees_printed_broken :
    let h := (Hierarchy.baseOf 1).extend ⟨"A", "A\nB", "lgm", [.object], .plain, {}, false⟩
    Acyclic h.subtypes ∧ (∀ p, (follow h.subtypes ⟨1⟩ p).isSome = true ↔ p = [])
      ∧ ∃ lines, h.tree h.subtypes 0 ⟨1⟩ = .ok lines
        ∧ (lines.foldl Output.printUnwrapped {}).lines = ["lgm.A", "B"] := by
  intro h
  have hm : h.Made := (Hierarchy.made_baseOf 1).extend _
  have hnone : h.subtypes ⟨1⟩ = [] := by
    refine List.eq_nil_iff_forall_not_mem.mpr fun d hd => ?_
    have hbase := Hierarchy.mem_subtypes.mp hd
    have hlt : 1 < d.index := hm.base_lt hbase
    have hsize : d.index < 2 := Hierarchy.lt_size_of_mem_bases hbase
    omega
  refine ⟨hm.acyclic_subtypes, fun p => ?_, ["lgm.A\nB"], ?_, by decide +kernel⟩
  · cases p with
    | nil => exact iff_of_true rfl rfl
    | cons i p =>
      rw [follow, hnone]
      exact iff_of_false Bool.false_ne_true (List.cons_ne_nil i p)
  · rw [Hierarchy.tree, preorder, hnone]
    rfl

end Session

end Introspect
