import Mathlib.Data.List.Perm.Subperm
import Introspect.Modules.Walk
import Introspect.Proofs.Lists

/-!
# Discovery level by level

A worklist that starts from one element, takes its first element in turn and puts the successors
that were not seen before at its end, finds everything that walks lead to, the nearest first.

* `Walk`               walks of a given length along a relation;
* `NoFarther`          an element is at most as far from the start as another one;
* `Exploring`          what holds between two steps: the pending elements are the last of those seen,
                       and all others have had their successors seen;
* `Exploring.step`     one step keeps this;
* `unseen`             the candidates that were not seen yet, of which every step uses up some;
* `Exploring.run`      the discovery as a whole, when it has as many steps as elements may be found;
* `discover_within`    a discovery does not leave a set that successors do not lead out of;
* `discover_congr`     discoveries are the same when the successors are, inside of such a set;
* `discover_closed`    what a discovery finds is such a set.
-/

namespace Introspect

/-- walks of a given length along a relation -/
inductive Walk {α : Type} (r : α → α → Prop) (a : α) : Nat → α → Prop where
  | here : Walk r a 0 a
  | step {n : Nat} {b c : α} (h : Walk r a n b) (hbc : r b c) : Walk r a (n + 1) c

/-- the first element is at most as far from the start as the second -/
def NoFarther {α : Type} (r : α → α → Prop) (a x y : α) : Prop :=
  ∀ n, Walk r a n y → ∃ k ≤ n, Walk r a k x

variable {r : Nat → Nat → Prop} {root : Nat}

theorem NoFarther.refl {α : Type} (r : α → α → Prop) (a x : α) : NoFarther r a x x :=
  fun n hx => ⟨n, Nat.le_refl n, hx⟩

/-! ## The elements that are new -/

theorem mem_fresh {seen xs : List Nat} {y : Nat} : y ∈ fresh seen xs ↔ y ∈ xs ∧ y ∉ seen := by
  unfold fresh
  rw [List.mem_eraseDups, List.mem_filter, Bool.not_eq_true', ← Bool.not_eq_true,
    List.contains_iff_mem]

theorem nodup_fresh (seen xs : List Nat) : (fresh seen xs).Nodup := nodup_eraseDups _

/-- nothing is left out of a list without repetitions that holds nothing of what was seen -/
theorem fresh_eq_self {seen xs : List Nat} (hnodup : xs.Nodup) (hnew : ∀ x ∈ xs, x ∉ seen) :
    fresh seen xs = xs := by
  have hall : xs.filter (fun x => !seen.contains x) = xs := by
    refine List.filter_eq_self.mpr fun x hx => ?_
    rw [Bool.not_eq_true', ← Bool.not_eq_true, List.contains_iff_mem]
    exact hnew x hx
  unfold fresh
  rw [hall]
  exact eraseDups_of_nodup hnodup

theorem nodup_append_fresh {seen : List Nat} (hseen : seen.Nodup) (xs : List Nat) :
    (seen ++ fresh seen xs).Nodup := by
  refine List.nodup_append.mpr ⟨hseen, nodup_fresh seen xs, fun x hx y hy hxy => ?_⟩
  exact (mem_fresh.mp hy).2 (hxy ▸ hx)

section
variable {next : Nat → Except Fault (List Nat)} {seen pending : List Nat}

theorem discover_succ {x : Nat} {ys : List Nat} (hok : next x = .ok ys) (n : Nat) :
    discover next (n + 1) seen (x :: pending)
      = discover next n (seen ++ fresh seen ys) (pending ++ fresh seen ys) := by
  rw [discover, hok]
  rfl

theorem discover_of_error {x : Nat} {e : Fault} (herror : next x = .error e) (n : Nat) :
    discover next (n + 1) seen (x :: pending) = .error e := by
  rw [discover, herror]
  rfl

end

/-- what is found is found once, and stands behind what was seen at the start -/
theorem discover_nodup {next : Nat → Except Fault (List Nat)} {n : Nat}
    {seen pending all : List Nat} (hseen : seen.Nodup)
    (hall : discover next n seen pending = .ok all) : seen <+: all ∧ all.Nodup := by
  induction n generalizing seen pending with
  | zero =>
    obtain rfl := Except.ok.inj hall
    exact ⟨List.prefix_rfl, hseen⟩
  | succ n ih =>
    cases pending with
    | nil =>
      obtain rfl := Except.ok.inj hall
      exact ⟨List.prefix_rfl, hseen⟩
    | cons x pending =>
      cases hnext : next x with
      | error e => exact nomatch (discover_of_error hnext n).symm.trans hall
      | ok ys =>
        rw [discover_succ hnext] at hall
        obtain ⟨hfront, hnodup⟩ := ih (nodup_append_fresh hseen ys) hall
        exact ⟨(List.prefix_append _ _).trans hfront, hnodup⟩

/-- the candidates that were not seen yet -/
def unseen (candidates seen : List Nat) : List Nat := candidates.filter fun x => !seen.contains x

theorem length_unseen_append (candidates : List Nat) {seen new : List Nat}
    (hnodup : new.Nodup) (hnew : ∀ x ∈ new, x ∈ candidates ∧ x ∉ seen) :
    (unseen candidates (seen ++ new)).length + new.length ≤ (unseen candidates seen).length := by
  have hsplit : unseen candidates (seen ++ new)
      = (unseen candidates seen).filter fun x => !new.contains x := by
    unfold unseen
    rw [List.filter_filter]
    refine List.filter_congr fun x _ => ?_
    rw [List.contains_append, Bool.not_or, Bool.and_comm]
  have hsub : new ⊆ (unseen candidates seen).filter fun x => new.contains x := by
    intro x hx
    obtain ⟨hc, hs⟩ := hnew x hx
    have hnot : (!seen.contains x) = true := by
      rw [Bool.not_eq_true', ← Bool.not_eq_true, List.contains_iff_mem]
      exact hs
    exact List.mem_filter.mpr ⟨List.mem_filter.mpr ⟨hc, hnot⟩, List.contains_iff_mem.mpr hx⟩
  have hle := (List.subperm_of_subset hnodup hsub).length_le
  have hsum := List.length_eq_length_filter_add (l := unseen candidates seen) fun x =>
    new.contains x
  rw [hsplit]
  omega

/-! ## Between two steps -/

/-- what holds between two steps of a discovery from a root -/
structure Exploring (next : Nat → Except Fault (List Nat)) (r : Nat → Nat → Prop) (root : Nat)
    (seen pending : List Nat) : Prop where
  /-- the pending elements are the last ones seen -/
  ends : pending <:+ seen
  nodup : seen.Nodup
  start : root ∈ seen
  found : ∀ x ∈ seen, ∃ n, Walk r root n x
  /-- the successors of all other elements were seen -/
  closed : ∀ x ∈ seen, x ∈ pending ∨ (∃ ys, next x = .ok ys) ∧ ∀ y, r x y → y ∈ seen
  ordered : seen.Pairwise (NoFarther r root)
  /-- no pending element is farther than one step beyond another one -/
  level : ∀ x ∈ pending, ∀ y ∈ pending, ∀ n, Walk r root n x → ∃ k ≤ n + 1, Walk r root k y

namespace Exploring

variable {next : Nat → Except Fault (List Nat)} {seen pending : List Nat}

theorem initial (next : Nat → Except Fault (List Nat)) (r : Nat → Nat → Prop) (root : Nat) :
    Exploring next r root [root] [root] where
  ends := List.suffix_rfl
  nodup := by simp
  start := List.mem_cons_self
  found x hx := ⟨0, List.mem_singleton.mp hx ▸ .here⟩
  closed x hx := .inl hx
  ordered := List.pairwise_singleton _ _
  level x _ y hy n _ := ⟨0, Nat.zero_le _, List.mem_singleton.mp hy ▸ .here⟩

/-- a walk to something that was not seen passes through a pending element before -/
theorem seen_or_behind (h : Exploring next r root seen pending) {n : Nat} {y : Nat}
    (hwalk : Walk r root n y) : y ∈ seen ∨ ∃ z ∈ pending, ∃ i < n, Walk r root i z := by
  induction hwalk with
  | here => exact .inl h.start
  | @step n b c hb hbc ih =>
    rcases ih with hseen | ⟨z, hz, i, hi, hzi⟩
    · rcases h.closed b hseen with hpending | ⟨-, hnext⟩
      · exact .inr ⟨b, hpending, n, Nat.lt_succ_self n, hb⟩
      · exact .inl (hnext c hbc)
    · exact .inr ⟨z, hz, i, Nat.lt_succ_of_lt hi, hzi⟩

section
variable {x : Nat} (h : Exploring next r root seen (x :: pending))
include h

/-- the first pending element is at most as far as the others -/
theorem head_noFarther {z : Nat} (hz : z ∈ x :: pending) : NoFarther r root x z := by
  rcases List.mem_cons.mp hz with rfl | hz
  · exact .refl r root z
  · exact List.rel_of_pairwise_cons (h.ordered.sublist h.ends.sublist) hz

/-- what was not seen is farther than the first pending element -/
theorem head_nearer {y : Nat} (hy : y ∉ seen) {n : Nat} (hwalk : Walk r root n y) :
    ∃ k < n, Walk r root k x := by
  obtain hseen | ⟨z, hz, i, hi, hzi⟩ := h.seen_or_behind hwalk
  · exact absurd hseen hy
  · obtain ⟨k, hk, hxk⟩ := h.head_noFarther hz i hzi
    exact ⟨k, Nat.lt_of_le_of_lt hk hi, hxk⟩

/-- nothing that was seen is farther than what was not -/
theorem seen_noFarther {z y : Nat} (hz : z ∈ seen) (hy : y ∉ seen) : NoFarther r root z y := by
  intro n hwalk
  obtain ⟨k, hk, hxk⟩ := h.head_nearer hy hwalk
  by_cases hpending : z ∈ x :: pending
  · obtain ⟨j, hj, hzj⟩ := h.level x List.mem_cons_self z hpending k hxk
    exact ⟨j, by omega, hzj⟩
  · -- an element that is no longer pending stands before the first pending one
    obtain ⟨done, hdone⟩ := h.ends
    have hordered := h.ordered
    rw [← hdone] at hz hordered
    have hzdone : z ∈ done := (List.mem_append.mp hz).resolve_right hpending
    obtain ⟨j, hj, hzj⟩ :=
      (List.pairwise_append.mp hordered).2.2 z hzdone x List.mem_cons_self k hxk
    exact ⟨j, by omega, hzj⟩

/-- one step: the first pending element is replaced, at the end, by its new successors -/
theorem step {ys : List Nat} (hok : next x = .ok ys) (hys : ∀ y, y ∈ ys ↔ r x y) :
    Exploring next r root (seen ++ fresh seen ys) (pending ++ fresh seen ys) := by
  have hx : x ∈ seen := h.ends.subset List.mem_cons_self
  have hnew : ∀ y ∈ fresh seen ys, r x y ∧ y ∉ seen := fun y hy =>
    ⟨(hys y).mp (mem_fresh.mp hy).1, (mem_fresh.mp hy).2⟩
  -- a walk to the first pending element goes on to what is new
  have hon : ∀ y ∈ fresh seen ys, ∀ n, Walk r root n x → Walk r root (n + 1) y :=
    fun y hy n hwalk => .step hwalk (hnew y hy).1
  refine ⟨?_, ?_, List.mem_append_left _ h.start, fun y hy => ?_, fun y hy => ?_, ?_, ?_⟩
  · obtain ⟨done, hdone⟩ := h.ends
    refine ⟨done ++ [x], ?_⟩
    rw [← hdone, List.append_assoc, List.append_assoc]
    rfl
  · refine List.nodup_append.mpr ⟨h.nodup, nodup_fresh _ _, fun a ha b hb hab => ?_⟩
    exact (hnew b hb).2 (hab ▸ ha)
  · rcases List.mem_append.mp hy with hy | hy
    · exact h.found y hy
    · obtain ⟨n, hwalk⟩ := h.found x hx
      exact ⟨n + 1, hon y hy n hwalk⟩
  · rcases List.mem_append.mp hy with hy | hy
    · rcases h.closed y hy with hpending | ⟨hres, hnext⟩
      · rcases List.mem_cons.mp hpending with rfl | hpending
        · refine .inr ⟨⟨ys, hok⟩, fun z hz => ?_⟩
          by_cases hseen : z ∈ seen
          · exact List.mem_append_left _ hseen
          · exact List.mem_append_right _ (mem_fresh.mpr ⟨(hys z).mpr hz, hseen⟩)
        · exact .inl (List.mem_append_left _ hpending)
      · exact .inr ⟨hres, fun z hz => List.mem_append_left _ (hnext z hz)⟩
    · exact .inl (List.mem_append_right _ hy)
  · refine List.pairwise_append.mpr ⟨h.ordered, ?_, fun z hz y hy =>
      h.seen_noFarther hz (hnew y hy).2⟩
    refine List.pairwise_of_forall_mem_list fun y hy z hz n hwalk => ?_
    obtain ⟨k, hk, hxk⟩ := h.head_nearer (hnew z hz).2 hwalk
    exact ⟨k + 1, hk, hon y hy k hxk⟩
  · intro a ha b hb n hwalk
    -- the first pending element was at most as far as everything that is pending now
    obtain ⟨k, hk, hxk⟩ : ∃ k ≤ n, Walk r root k x := by
      rcases List.mem_append.mp ha with ha | ha
      · exact h.head_noFarther (List.mem_cons_of_mem x ha) n hwalk
      · obtain ⟨k, hk, hxk⟩ := h.head_nearer (hnew a ha).2 hwalk
        exact ⟨k, Nat.le_of_lt hk, hxk⟩
    rcases List.mem_append.mp hb with hb | hb
    · obtain ⟨j, hj, hbj⟩ := h.level x List.mem_cons_self b (List.mem_cons_of_mem x hb) k hxk
      exact ⟨j, by omega, hbj⟩
    · exact ⟨k + 1, by omega, hon b hb k hxk⟩

end

/-! ## The discovery as a whole -/

/-- at the end everything that walks lead to was seen, and it had its successors seen -/
theorem mem_iff (h : Exploring next r root seen []) (x : Nat) :
    x ∈ seen ↔ ∃ n, Walk r root n x := by
  refine ⟨h.found x, fun ⟨n, hwalk⟩ => ?_⟩
  exact (h.seen_or_behind hwalk).resolve_right fun ⟨z, hz, _⟩ => List.not_mem_nil hz

/-- with as many steps as elements may still be found, a discovery finds everything, unless the
successors of an element that it comes to are not to be had -/
theorem run (h : Exploring next r root seen pending) {candidates : List Nat}
    (hnext : ∀ x, (∃ e, next x = .error e) ∨ ∃ ys, next x = .ok ys ∧ ∀ y, y ∈ ys ↔ r x y)
    (hcandidates : ∀ x y, r x y → y ∈ candidates) {n : Nat}
    (hn : pending.length + (unseen candidates seen).length ≤ n) :
    (∃ x e, (∃ k, Walk r root k x) ∧ next x = .error e ∧ discover next n seen pending = .error e)
      ∨ ∃ all, discover next n seen pending = .ok all ∧ seen <+: all
          ∧ Exploring next r root all [] := by
  -- a step takes one pending element away, and every element that it adds was unseen before
  induction n generalizing seen pending with
  | zero =>
    have hnil : pending = [] := List.length_eq_zero_iff.mp (by omega)
    subst hnil
    exact .inr ⟨seen, rfl, List.prefix_rfl, h⟩
  | succ n ih =>
    cases pending with
    | nil => exact .inr ⟨seen, rfl, List.prefix_rfl, h⟩
    | cons x pending =>
      have hx : ∃ k, Walk r root k x := h.found x (h.ends.subset List.mem_cons_self)
      rcases hnext x with ⟨e, he⟩ | ⟨ys, hok, hys⟩
      · exact .inl ⟨x, e, hx, he, discover_of_error he n⟩
      · have hless := length_unseen_append candidates (nodup_fresh seen ys) fun y hy =>
          ⟨hcandidates x y ((hys y).mp (mem_fresh.mp hy).1), (mem_fresh.mp hy).2⟩
        have hsteps : (pending ++ fresh seen ys).length
            + (unseen candidates (seen ++ fresh seen ys)).length ≤ n := by
          rw [List.length_append]
          rw [List.length_cons] at hn
          omega
        rw [discover_succ hok]
        rcases ih (h.step hok hys) hsteps with hfailed | ⟨all, hall, hprefix, hend⟩
        · exact .inl hfailed
        · exact .inr ⟨all, hall, (List.prefix_append _ _).trans hprefix, hend⟩

end Exploring

/-! ## Discovery within a set -/

section
variable {next next' : Nat → Except Fault (List Nat)} {P : Nat → Prop} {seen pending all : List Nat}

theorem forall_mem_append_fresh (hpending : ∀ x ∈ pending, P x) {ys : List Nat}
    (hys : ∀ y ∈ ys, P y) : ∀ x ∈ pending ++ fresh seen ys, P x := by
  intro x hx
  rcases List.mem_append.mp hx with hx | hx
  · exact hpending x hx
  · exact hys x (mem_fresh.mp hx).1

/-- what is found besides what was seen has a property that successors keep, and so has the element
at which a discovery fails -/
theorem discover_within (hnext : ∀ x, P x → ∀ ys, next x = .ok ys → ∀ y ∈ ys, P y)
    (seen : List Nat) (hpending : ∀ x ∈ pending, P x) (n : Nat) :
    (∃ x e, P x ∧ next x = .error e ∧ discover next n seen pending = .error e)
      ∨ ∃ all, discover next n seen pending = .ok all ∧ ∀ x ∈ all, x ∈ seen ∨ P x := by
  induction n generalizing seen pending with
  | zero => exact .inr ⟨seen, rfl, fun x hx => .inl hx⟩
  | succ n ih =>
    cases pending with
    | nil => exact .inr ⟨seen, rfl, fun x hx => .inl hx⟩
    | cons x pending =>
      obtain ⟨hx, hrest⟩ := List.forall_mem_cons.mp hpending
      cases hok : next x with
      | error e => exact .inl ⟨x, e, hx, hok, discover_of_error hok n⟩
      | ok ys =>
        have hys := hnext x hx ys hok
        rw [discover_succ hok]
        rcases ih (seen ++ fresh seen ys) (forall_mem_append_fresh hrest hys) with
          hfailed | ⟨all, hall, hmem⟩
        · exact .inl hfailed
        · refine .inr ⟨all, hall, fun z hz => ?_⟩
          rcases hmem z hz with hz | hz
          · exact (List.mem_append.mp hz).imp_right fun hz => hys z (mem_fresh.mp hz).1
          · exact .inr hz

/-- two discoveries are the same when their successors are the same wherever they come to -/
theorem discover_congr (hnext : ∀ x, P x → ∀ ys, next x = .ok ys → ∀ y ∈ ys, P y)
    (hsame : ∀ x, P x → next' x = next x) (hpending : ∀ x ∈ pending, P x) (n : Nat) :
    discover next' n seen pending = discover next n seen pending := by
  induction n generalizing seen pending with
  | zero => rfl
  | succ n ih =>
    cases pending with
    | nil => rfl
    | cons x pending =>
      obtain ⟨hx, hrest⟩ := List.forall_mem_cons.mp hpending
      cases hok : next x with
      | error e =>
        rw [discover_of_error hok, discover_of_error ((hsame x hx).trans hok)]
      | ok ys =>
        rw [discover_succ hok, discover_succ ((hsame x hx).trans hok)]
        exact ih (forall_mem_append_fresh hrest (hnext x hx ys hok))

/-- with as many steps as elements may still be found, all successors of what is found are found -/
theorem discover_closed {candidates : List Nat}
    (hcandidates : ∀ x ys, next x = .ok ys → ∀ y ∈ ys, y ∈ candidates)
    (hclosed : ∀ x ∈ seen, x ∈ pending ∨ ∃ ys, next x = .ok ys ∧ ∀ y ∈ ys, y ∈ seen) {n : Nat}
    (hn : pending.length + (unseen candidates seen).length ≤ n)
    (hall : discover next n seen pending = .ok all) :
    ∀ x ∈ all, ∃ ys, next x = .ok ys ∧ ∀ y ∈ ys, y ∈ all := by
  induction n generalizing seen pending with
  | zero =>
    obtain rfl := Except.ok.inj hall
    have hnil : pending = [] := List.length_eq_zero_iff.mp (by omega)
    subst hnil
    exact fun x hx => (hclosed x hx).resolve_left List.not_mem_nil
  | succ n ih =>
    cases pending with
    | nil =>
      obtain rfl := Except.ok.inj hall
      exact fun x hx => (hclosed x hx).resolve_left List.not_mem_nil
    | cons x pending =>
      cases hok : next x with
      | error e => exact nomatch (discover_of_error hok n).symm.trans hall
      | ok ys =>
        rw [discover_succ hok] at hall
        have hless := length_unseen_append candidates (nodup_fresh seen ys) fun y hy =>
          ⟨hcandidates x ys hok y (mem_fresh.mp hy).1, (mem_fresh.mp hy).2⟩
        refine ih (fun z hz => ?_) ?_ hall
        · rcases List.mem_append.mp hz with hz | hz
          · rcases hclosed z hz with hpending | ⟨zs, hzs, hmem⟩
            · rcases List.mem_cons.mp hpending with rfl | hpending
              · -- the element that was taken: a successor of it was seen before, or is now
                refine .inr ⟨ys, hok, fun y hy => ?_⟩
                by_cases hseen : y ∈ seen
                · exact List.mem_append_left _ hseen
                · exact List.mem_append_right _ (mem_fresh.mpr ⟨hy, hseen⟩)
              · exact .inl (List.mem_append_left _ hpending)
            · exact .inr ⟨zs, hzs, fun y hy => List.mem_append_left _ (hmem y hy)⟩
          · exact .inl (List.mem_append_right _ hz)
        · rw [List.length_append]
          rw [List.length_cons] at hn
          omega

end

end Introspect
