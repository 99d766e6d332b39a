import Mathlib.Data.List.Basic
import Mathlib.Data.List.Forall2
import Mathlib.Data.List.Perm.Subperm
import Mathlib.Logic.Relation
import Introspect.Hierarchy.Lineage

/-!
# Outlines

Along a listing, an element unfolds to an outline: what it lists stands below it, once for each
place in the listing, and each of those has an outline of its own.  An entry is found by its
address, which gives the places to turn to, from the top on.

* `follow`                          where an address leads along a listing;
* `Outline.mem_placed`              the entries of an outline, by their addresses;
* `Outline.pairwise_placed`         they come in the order of their addresses, an address before
                                    those it is the beginning of;
* `Outline.exists_parent`           the last entry before another one that is higher up is the entry
                                    that it stands below;
* `exists_outline`                  a preorder holds the entries of the outline, at their depths;
* `exists_preorder`                 there is a preorder where nothing leads back to itself and
                                    finitely many elements list anything.
-/

namespace Introspect

section
variable {α β κ : Type}

/-- where an address leads from `c`: each step is a place in what is listed below -/
def follow (below : α → List α) : α → List Nat → Option α
  | c, [] => some c
  | c, i :: p => (below c)[i]?.bind fun d => follow below d p

/-- nothing leads back to itself -/
def Acyclic (below : α → List α) : Prop := ∀ c, ¬ Relation.TransGen (fun d e => e ∈ below d) c c

inductive Outline (α : Type) where
  | entry (top : α) (below : List (Outline α))

namespace Outline

/-- what holds of an entry when it holds of all that stand directly below it holds everywhere -/
@[induction_eliminator]
theorem induct {motive : Outline α → Prop}
    (entry : ∀ a os, (∀ o ∈ os, motive o) → motive (.entry a os)) (o : Outline α) : motive o :=
  @Outline.rec α motive (fun os => ∀ o ∈ os, motive o) entry (fun _ ho => nomatch ho)
    (fun _ _ ho hos => List.forall_mem_cons.mpr ⟨ho, hos⟩) o

def at? : Outline α → List Nat → Option α
  | .entry a _, [] => some a
  | .entry _ os, i :: p => os[i]?.bind fun o => o.at? p

mutual

/-- the entries with their addresses, each before those below it -/
def placed : Outline α → List (List Nat × α)
  | .entry a os => ([], a) :: placedFrom 0 os

/-- the entries of outlines that stand below one entry, from a place on -/
def placedFrom (i : Nat) : List (Outline α) → List (List Nat × α)
  | [] => []
  | o :: os => (o.placed.map fun e => (i :: e.1, e.2)) ++ placedFrom (i + 1) os

end

/-! ## Entries and addresses -/

theorem mem_placedFrom {i : Nat} {os : List (Outline α)} {p : List Nat} {a : α} :
    (p, a) ∈ placedFrom i os ↔
      ∃ j q o, p = (i + j) :: q ∧ os[j]? = some o ∧ (q, a) ∈ o.placed := by
  induction os generalizing i with
  | nil => exact iff_of_false List.not_mem_nil fun ⟨_, _, _, _, ho, _⟩ => nomatch ho
  | cons o os ih =>
    rw [placedFrom, List.mem_append, List.mem_map, ih]
    constructor
    · rintro (⟨⟨q, b⟩, hq, heq⟩ | ⟨j, q, o', rfl, ho', hq⟩)
      · obtain ⟨rfl, rfl⟩ := Prod.mk.inj heq
        exact ⟨0, q, o, rfl, rfl, hq⟩
      · exact ⟨j + 1, q, o', by rw [Nat.add_right_comm, Nat.add_assoc], ho', hq⟩
    · rintro ⟨_ | j, q, o', rfl, ho', hq⟩
      · obtain rfl := Option.some.inj ho'
        exact .inl ⟨(q, a), hq, rfl⟩
      · exact .inr ⟨j, q, o', by rw [Nat.add_right_comm, Nat.add_assoc], ho', hq⟩

/-- an outline has the entries that its addresses lead to -/
theorem mem_placed {o : Outline α} {p : List Nat} {a : α} :
    (p, a) ∈ o.placed ↔ o.at? p = some a := by
  induction o generalizing p with
  | entry b os ih =>
    rw [placed, List.mem_cons, mem_placedFrom]
    cases p with
    | nil =>
      constructor
      · rintro (heq | ⟨j, q, o, hp, -⟩)
        · exact congrArg some (Prod.mk.inj heq).2.symm
        · exact nomatch hp
      · exact fun h => .inl (congrArg (Prod.mk []) (Option.some.inj h).symm)
    | cons i p =>
      rw [at?, Option.bind_eq_some_iff]
      constructor
      · rintro (heq | ⟨j, q, o, hp, ho, hq⟩)
        · exact nomatch (Prod.mk.inj heq).1
        · rw [Nat.zero_add] at hp
          obtain ⟨rfl, rfl⟩ := List.cons.inj hp
          exact ⟨o, ho, (ih o (List.mem_of_getElem? ho)).mp hq⟩
      · rintro ⟨o, ho, ha⟩
        exact .inr ⟨i, p, o, by rw [Nat.zero_add], ho, (ih o (List.mem_of_getElem? ho)).mpr ha⟩

theorem pairwise_placedFrom {os : List (Outline α)}
    (hos : ∀ o ∈ os, o.placed.Pairwise fun e e' => e.1 < e'.1) (i : Nat) :
    (placedFrom i os).Pairwise fun e e' => e.1 < e'.1 := by
  induction os generalizing i with
  | nil => exact List.Pairwise.nil
  | cons o os ih =>
    obtain ⟨ho, hos⟩ := List.forall_mem_cons.mp hos
    rw [placedFrom, List.pairwise_append, List.pairwise_map]
    refine ⟨ho.imp fun hlt => List.cons_lt_cons_iff.mpr (.inr ⟨rfl, hlt⟩), ih hos (i + 1), ?_⟩
    -- the places of the later outlines are greater
    intro e he e' he'
    obtain ⟨d, -, rfl⟩ := List.mem_map.mp he
    obtain ⟨j, q, -, hp, -⟩ := mem_placedFrom.mp he'
    rw [hp]
    exact List.cons_lt_cons_iff.mpr (.inl (by omega))

/-- the entries come in the order of their addresses -/
theorem pairwise_placed (o : Outline α) : o.placed.Pairwise fun e e' => e.1 < e'.1 := by
  induction o with
  | entry a os ih =>
    rw [placed, List.pairwise_cons]
    refine ⟨fun e he => ?_, pairwise_placedFrom ih 0⟩
    obtain ⟨j, q, -, hp, -⟩ := mem_placedFrom.mp he
    rw [hp]
    exact List.nil_lt_cons _ _

/-- where an address leads somewhere, so does each beginning of it -/
theorem exists_at?_of_append {o : Outline α} {p q : List Nat} {a : α}
    (h : o.at? (p ++ q) = some a) : ∃ b, o.at? p = some b := by
  induction p generalizing o with
  | nil =>
    cases o with
    | entry b os => exact ⟨b, rfl⟩
  | cons i p ih =>
    cases o with
    | entry b os =>
      rw [List.cons_append, at?, Option.bind_eq_some_iff] at h
      obtain ⟨o, ho, ha⟩ := h
      rw [at?, ho]
      exact ih ha

end Outline

/-- between an address and one step from there stand only addresses that go further -/
theorem length_lt_of_between {q r : List Nat} {i : Nat} (hqr : q < r) (hr : r < q ++ [i]) :
    q.length < r.length := by
  induction q generalizing r with
  | nil =>
    cases r with
    | nil => exact absurd hqr (List.not_lt_nil [])
    | cons => exact Nat.succ_pos _
  | cons x q ih =>
    cases r with
    | nil => exact absurd hqr (List.not_lt_nil _)
    | cons y r =>
      rw [List.cons_append] at hr
      rcases List.cons_lt_cons_iff.mp hqr with hxy | ⟨rfl, htail⟩
      · rcases List.cons_lt_cons_iff.mp hr with hyx | ⟨rfl, -⟩
        · exact absurd hyx (Nat.lt_asymm hxy)
        · exact absurd hxy (Nat.lt_irrefl y)
      · rcases List.cons_lt_cons_iff.mp hr with hxx | ⟨-, hr⟩
        · exact absurd hxx (Nat.lt_irrefl x)
        · exact Nat.succ_lt_succ (ih htail hr)

theorem lt_concat (q : List Nat) (i : Nat) : q < q ++ [i] := by
  induction q with
  | nil => exact List.nil_lt_cons i []
  | cons x q ih => exact List.cons_lt_cons_iff.mpr (.inr ⟨rfl, ih⟩)

/-- the last entry before another one that is higher up is the entry that it stands below -/
theorem Outline.exists_parent {o : Outline α} {before after : List (List Nat × α)}
    {e : List Nat × α} (h : o.placed = before ++ e :: after) (hne : before ≠ []) :
    ∃ first parent between, before = first ++ parent :: between
      ∧ (∃ i, e.1 = parent.1 ++ [i]) ∧ ∀ m ∈ between, parent.1.length < m.1.length := by
  have hsorted := o.pairwise_placed
  rw [h, List.pairwise_append, List.pairwise_cons] at hsorted
  obtain ⟨hbefore, ⟨hafter, -⟩, hcross⟩ := hsorted
  have hlt : ∀ m ∈ before, m.1 < e.1 := fun m hm => hcross m hm e List.mem_cons_self
  obtain ⟨p, a⟩ := e
  rcases List.eq_nil_or_concat' p with rfl | ⟨q, i, rfl⟩
  · obtain ⟨m, hm⟩ := List.exists_mem_of_ne_nil before hne
    exact absurd (hlt m hm) (List.not_lt_nil _)
  -- the entry above is there, and its address is smaller, so it comes before
  have hhere : (q ++ [i], a) ∈ o.placed := h ▸ List.mem_append_right _ List.mem_cons_self
  obtain ⟨b, hb⟩ := exists_at?_of_append (mem_placed.mp hhere)
  have hparent : (q, b) ∈ before := by
    have hmem := mem_placed.mpr hb
    rw [h, List.mem_append, List.mem_cons] at hmem
    rcases hmem with hmem | heq | hmem
    · exact hmem
    · exact absurd (congrArg (fun e => e.1.length) heq) (by simp)
    · exact absurd (hafter _ hmem) (List.lt_asymm (lt_concat q i))
  obtain ⟨first, between, rfl⟩ := List.append_of_mem hparent
  refine ⟨first, (q, b), between, rfl, ⟨i, rfl⟩, fun m hm => ?_⟩
  have hqm : q < m.1 :=
    (List.pairwise_cons.mp (List.pairwise_append.mp hbefore).2.1).1 m hm
  exact length_lt_of_between hqm (hlt m (List.mem_append_right _ (List.mem_cons_of_mem _ hm)))

/-! ## Preorders -/

section
variable {below : α → List α} {below' : β → List β}

/-- elements that stand for others, and list what stands for what those list, are listed in the same
preorder -/
theorem preorder_map {f : α → β} (hf : ∀ c, below' (f c) = (below c).map f) (n : Nat) (depth : Int)
    (c : α) : preorder below' n depth (f c)
      = (preorder below n depth c).map (List.map fun e => (e.1, f e.2)) := by
  induction n generalizing depth c with
  | zero => rfl
  | succ n ih =>
    have hbelow : ∀ cs : List α, (cs.map f).mapM (preorder below' n (depth + 1))
        = (cs.mapM (preorder below n (depth + 1))).map
          (List.map (List.map fun e => (e.1, f e.2))) := by
      intro cs
      induction cs with
      | nil => rfl
      | cons d cs ihs =>
        rw [List.map_cons, List.mapM_cons, List.mapM_cons, ih, ihs]
        cases preorder below n (depth + 1) d with
        | none => rfl
        | some es => cases cs.mapM (preorder below n (depth + 1)) <;> rfl
    rw [preorder, preorder, hf, hbelow, Option.map_map, Option.map_map]
    refine congrArg (Option.map · _) (funext fun ess => ?_)
    rw [Function.comp_apply, Function.comp_apply, List.map_cons, List.map_flatten]

end

theorem mapM_eq_some_iff {f : α → Option β} {xs : List α} {ys : List β} :
    xs.mapM f = some ys ↔ List.Forall₂ (fun x y => f x = some y) xs ys := by
  induction xs generalizing ys with
  | nil =>
    rw [List.mapM_nil, List.forall₂_nil_left_iff]
    exact ⟨fun h => (Option.some.inj h).symm, fun h => congrArg some h.symm⟩
  | cons x xs ih =>
    rw [List.mapM_cons, List.forall₂_cons_left_iff]
    simp only [Option.bind_eq_bind, Option.bind_eq_some_iff, ih]
    constructor
    · rintro ⟨y, hy, zs, hzs, heq⟩
      exact ⟨y, zs, hy, hzs, (Option.some.inj heq).symm⟩
    · rintro ⟨y, zs, hy, hzs, rfl⟩
      exact ⟨y, hy, zs, hzs, rfl⟩

variable {below : α → List α}

/-- one step further -/
theorem follow_concat (c : α) (p : List Nat) (i : Nat) :
    follow below c (p ++ [i]) = (follow below c p).bind fun d => (below d)[i]? := by
  induction p generalizing c with
  | nil => exact Option.bind_fun_some _
  | cons j p ih =>
    rw [List.cons_append, follow, follow, Option.bind_assoc]
    exact congrArg _ (funext ih)

theorem follow_concat_eq_some_iff {c e : α} {p : List Nat} {i : Nat} :
    follow below c (p ++ [i]) = some e
      ↔ ∃ d, follow below c p = some d ∧ (below d)[i]? = some e := by
  rw [follow_concat, Option.bind_eq_some_iff]

/-- where all that is listed stands further on in some measure, nothing leads back to itself -/
theorem acyclic_of_lt (f : α → Nat) (h : ∀ c, ∀ d ∈ below c, f c < f d) : Acyclic below := by
  have hlead : ∀ {c d}, Relation.TransGen (fun d e => e ∈ below d) c d → f c < f d := by
    intro c d hcd
    induction hcd with
    | single hd => exact h _ _ hd
    | tail _ he ih => exact Nat.lt_trans ih (h _ _ he)
  exact fun c hc => Nat.lt_irrefl _ (hlead hc)

/-- outlines that agree with what is listed agree with it along every address -/
theorem bind_at?_of_forall₂ {name : α → β} {cs : List α} {os : List (Outline β)}
    (h : List.Forall₂ (fun c o => ∀ p, Outline.at? o p = (follow below c p).map name) cs os)
    (i : Nat) (p : List Nat) :
    (os[i]?.bind fun o => o.at? p) = (cs[i]?.bind fun c => follow below c p).map name := by
  induction h generalizing i with
  | nil => rfl
  | cons hco _ ih =>
    cases i with
    | zero => exact hco p
    | succ i => exact ih i

/-- a preorder holds the entries of an outline, and its addresses lead where they lead along the
listing -/
theorem exists_outline (name : α → β) {n : Nat} {depth : Int} {c : α} {es : List (Int × α)}
    (h : preorder below n depth c = some es) :
    ∃ o : Outline β, (∀ p, o.at? p = (follow below c p).map name)
      ∧ (es.map fun e => (e.1, name e.2)) = o.placed.map fun e => (depth + e.1.length, e.2) := by
  induction n generalizing depth c es with
  | zero => exact nomatch h
  | succ n ih =>
    obtain ⟨ess, hess, rfl⟩ := Option.map_eq_some_iff.mp h
    -- the outlines of what is listed, from a place on
    have hbelow : ∀ {cs : List α} {ess : List (List (Int × α))},
        List.Forall₂ (fun c es => preorder below n (depth + 1) c = some es) cs ess →
        ∃ os : List (Outline β),
          List.Forall₂ (fun c o => ∀ p, Outline.at? o p = (follow below c p).map name) cs os
          ∧ ∀ i, (ess.flatten.map fun e => (e.1, name e.2))
            = (Outline.placedFrom i os).map fun e => (depth + e.1.length, e.2) := by
      intro cs ess hforall
      induction hforall with
      | nil => exact ⟨[], .nil, fun _ => rfl⟩
      | @cons d es cs ess hd _ ihs =>
        obtain ⟨o, hat, hes⟩ := ih hd
        obtain ⟨os, hats, hess⟩ := ihs
        refine ⟨o :: os, .cons hat hats, fun i => ?_⟩
        rw [List.flatten_cons, List.map_append, hes, hess (i + 1), Outline.placedFrom,
          List.map_append, List.map_map]
        refine congrArg (· ++ _) (List.map_congr_left fun e _ => ?_)
        show (depth + 1 + e.1.length, e.2) = (depth + (i :: e.1).length, e.2)
        exact congrArg (Prod.mk · e.2) (by rw [List.length_cons]; omega)
    obtain ⟨os, hats, hes⟩ := hbelow (mapM_eq_some_iff.mp hess)
    refine ⟨.entry (name c) os, fun p => ?_, ?_⟩
    · cases p with
      | nil => rfl
      | cons i p => exact bind_at?_of_forall₂ hats i p
    · rw [List.map_cons, hes 0, Outline.placed, List.map_cons]
      exact congrArg (fun d => (d, name c) :: _) (Int.add_zero depth).symm

/-- the lines that are made from a preorder are those of an outline -/
theorem exists_outline_lines (name : α → β) {n : Nat} {c : α} {es : List (Int × α)}
    (h : preorder below n 0 c = some es) :
    ∃ o : Outline β, (∀ p, o.at? p = (follow below c p).map name)
      ∧ ∀ text : β → String, (es.map fun e => treeLine e.1 (text (name e.2)))
        = o.placed.map fun e => treeLine e.1.length (text e.2) := by
  obtain ⟨o, hat, hplaced⟩ := exists_outline name h
  refine ⟨o, hat, fun text => ?_⟩
  have hlines := congrArg (List.map fun e => treeLine e.1 (text e.2)) hplaced
  rw [List.map_map, List.map_map] at hlines
  refine hlines.trans (List.map_congr_left fun e _ => ?_)
  rw [Function.comp_apply, Int.zero_add]

/-- what lists the same as an element does not lead to it -/
theorem Acyclic.not_transGen (h : Acyclic below) {a c : α} (hac : below a = below c) :
    ¬ Relation.TransGen (fun d e => e ∈ below d) a c := by
  intro hlead
  obtain ⟨b, hab, hbc⟩ := Relation.TransGen.head'_iff.mp hlead
  exact h c (.head' (hac ▸ hab) hbc)

theorem exists_mapM_eq_some {f : α → Option β} {xs : List α} (h : ∀ x ∈ xs, ∃ y, f x = some y) :
    ∃ ys, xs.mapM f = some ys := by
  induction xs with
  | nil => exact ⟨[], rfl⟩
  | cons x xs ih =>
    obtain ⟨⟨y, hy⟩, hxs⟩ := List.forall_mem_cons.mp h
    obtain ⟨ys, hys⟩ := ih hxs
    exact ⟨y :: ys, by rw [List.mapM_cons, hy, hys]; rfl⟩

/-- different keys of elements that were passed by on the way down to `c` -/
structure Passed (below : α → List α) (key : α → κ) (keys : List κ) (c : α) (seen : List κ) :
    Prop where
  nodup : seen.Nodup
  subset : seen ⊆ keys
  above : ∀ k ∈ seen, ∃ a, key a = k ∧ Relation.TransGen (fun d e => e ∈ below d) a c

section
variable {key : α → κ} {keys seen : List κ} {c d : α}

/-- on the way further down no key comes again -/
theorem Passed.step (hkey : ∀ {a b}, key a = key b → below a = below b)
    (hkeys : ∀ {a}, below a ≠ [] → key a ∈ keys) (hacyclic : Acyclic below)
    (hp : Passed below key keys c seen) (hd : d ∈ below c) :
    Passed below key keys d (key c :: seen) where
  nodup := by
    refine List.nodup_cons.mpr ⟨fun hmem => ?_, hp.nodup⟩
    obtain ⟨a, ha, hlead⟩ := hp.above _ hmem
    exact hacyclic.not_transGen (hkey ha) hlead
  subset := List.cons_subset.mpr ⟨hkeys (List.ne_nil_of_mem hd), hp.subset⟩
  above := by
    intro k hk
    rcases List.mem_cons.mp hk with rfl | hk
    · exact ⟨c, rfl, .single hd⟩
    · obtain ⟨a, ha, hlead⟩ := hp.above k hk
      exact ⟨a, ha, hlead.tail hd⟩

/-- as many steps are enough as there are keys that were not passed by -/
theorem Passed.exists_preorder (hkey : ∀ {a b}, key a = key b → below a = below b)
    (hkeys : ∀ {a}, below a ≠ [] → key a ∈ keys) (hacyclic : Acyclic below)
    (hp : Passed below key keys c seen) {n : Nat} (hn : seen.length + n = keys.length)
    (depth : Int) : ∃ es, preorder below (n + 1) depth c = some es := by
  induction n generalizing c seen depth with
  | zero =>
    have hnil : below c = [] := by
      refine List.eq_nil_iff_forall_not_mem.mpr fun d hd => ?_
      have hd := hp.step hkey hkeys hacyclic hd
      have hle := (List.subperm_of_subset hd.nodup hd.subset).length_le
      rw [List.length_cons] at hle
      omega
    exact ⟨[(depth, c)], by rw [preorder, hnil]; rfl⟩
  | succ n ih =>
    have hlen : (key c :: seen).length + n = keys.length := by
      rw [List.length_cons]
      omega
    obtain ⟨ess, hess⟩ := exists_mapM_eq_some fun d hd =>
      ih (hp.step hkey hkeys hacyclic hd) hlen (depth + 1)
    exact ⟨(depth, c) :: ess.flatten, by rw [preorder, hess]; rfl⟩

/-- there is a preorder where nothing leads back to itself, and what is listed depends on one of
finitely many keys -/
theorem exists_preorder (key : α → κ) {keys : List κ}
    (hkey : ∀ {a b}, key a = key b → below a = below b)
    (hkeys : ∀ {a}, below a ≠ [] → key a ∈ keys) (hacyclic : Acyclic below) (depth : Int) (c : α) :
    ∃ es, preorder below (keys.length + 1) depth c = some es :=
  have hnothing : Passed below key keys c [] :=
    ⟨List.nodup_nil, List.nil_subset keys, fun _ hk => nomatch hk⟩
  hnothing.exists_preorder hkey hkeys hacyclic (Nat.zero_add _) depth

end

end

end Introspect
