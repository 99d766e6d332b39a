import Introspect.Hierarchy.Basic

/-!
# Merging resolution orders

The resolution order of a class is the class itself, followed by the merge of the orders of its
bases and of the list of bases.  A merge repeatedly takes the first head that stands in no tail.

* `nextHead`   the first head that stands in no tail;
* `merge`      the merge, or nothing when every head stands in some tail;
* `linearize`  the resolution order of a new class;
* `mem_linearize`  it holds no classes but the new one, the bases, and those of their orders.
-/

namespace Introspect.Linearization

variable {α : Type} [BEq α]

def nextHead (seqs : List (List α)) : Option α :=
  seqs.findSome? fun s =>
    match s with
    | [] => none
    | x :: _ => if seqs.any fun t => t.tail.contains x then none else some x

/-- one head removed from the sequences that start with it -/
def dropHead (x : α) (seqs : List (List α)) : List (List α) :=
  seqs.map fun s =>
    match s with
    | [] => []
    | y :: r => if y == x then r else y :: r

/-- the merge of sequences, by rounds that take one element each -/
def mergeRounds : Nat → List (List α) → Option (List α)
  | 0, seqs => if seqs.all List.isEmpty then some [] else none
  | n + 1, seqs =>
    if seqs.all List.isEmpty then some []
    else
      match nextHead seqs with
      | none => none
      | some x => (mergeRounds n (dropHead x seqs)).map (x :: ·)

def merge (seqs : List (List α)) : Option (List α) :=
  mergeRounds seqs.flatten.length seqs

def linearize (c : α) (bases : List α) (orders : List (List α)) : Option (List α) :=
  (merge (orders ++ [bases])).map (c :: ·)

theorem mem_of_nextHead {seqs : List (List α)} {x : α} (h : nextHead seqs = some x) :
    ∃ s ∈ seqs, x ∈ s := by
  obtain ⟨s, hs, hx⟩ := List.exists_of_findSome?_eq_some h
  refine ⟨s, hs, ?_⟩
  cases s with
  | nil => exact nomatch hx
  | cons y ys =>
    dsimp only at hx
    split at hx
    · exact nomatch hx
    · rw [Option.some.inj hx]
      exact List.mem_cons_self

theorem mem_of_mem_dropHead {x y : α} {seqs : List (List α)}
    (h : ∃ s ∈ dropHead x seqs, y ∈ s) : ∃ s ∈ seqs, y ∈ s := by
  obtain ⟨s, hs, hy⟩ := h
  obtain ⟨t, ht, rfl⟩ := List.mem_map.mp hs
  refine ⟨t, ht, ?_⟩
  cases t with
  | nil => exact hy
  | cons z zs =>
    dsimp only at hy
    split at hy
    · exact List.mem_cons_of_mem z hy
    · exact hy

theorem mem_of_mem_mergeRounds {n : Nat} {seqs : List (List α)} {xs : List α}
    (h : mergeRounds n seqs = some xs) {y : α} (hy : y ∈ xs) : ∃ s ∈ seqs, y ∈ s := by
  induction n generalizing seqs xs with
  | zero =>
    unfold mergeRounds at h
    split at h
    · rw [← Option.some.inj h] at hy
      exact absurd hy List.not_mem_nil
    · exact nomatch h
  | succ n ih =>
    unfold mergeRounds at h
    split at h
    · rw [← Option.some.inj h] at hy
      exact absurd hy List.not_mem_nil
    · cases hx : nextHead seqs with
      | none => rw [hx] at h; exact nomatch h
      | some x =>
        rw [hx] at h
        obtain ⟨ys, hys, rfl⟩ := Option.map_eq_some_iff.mp h
        rcases List.mem_cons.mp hy with rfl | hy
        · exact mem_of_nextHead hx
        · exact mem_of_mem_dropHead (ih hys hy)

theorem mem_linearize {c : α} {bases : List α} {orders : List (List α)} {xs : List α}
    (h : linearize c bases orders = some xs) {y : α} (hy : y ∈ xs) :
    y = c ∨ y ∈ bases ∨ ∃ s ∈ orders, y ∈ s := by
  obtain ⟨ys, hys, rfl⟩ := Option.map_eq_some_iff.mp h
  rcases List.mem_cons.mp hy with rfl | hy
  · exact Or.inl rfl
  · obtain ⟨s, hs, hy⟩ := mem_of_mem_mergeRounds hys hy
    rcases List.mem_append.mp hs with hs | hs
    · exact Or.inr (Or.inr ⟨s, hs, hy⟩)
    · obtain rfl := List.mem_singleton.mp hs
      exact Or.inr (Or.inl hy)

end Introspect.Linearization
