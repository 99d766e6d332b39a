import Mathlib.Data.List.Induction
import Mathlib.Data.List.Nodup
import Mathlib.Logic.Relation

/-!
# Lists without repetitions, and lists with an order

* `eraseDups_concat`, `nodup_eraseDups`, `eraseDups_of_nodup`   the elements of a list, each at its
                         first occurrence;
* `eq_toList_of_nodup`   a list without repetitions that holds at most one element;
* `all_zip_iff`, `exists_getElem?_ne`   two lists, place by place;
* `getElem?_filter_iff`, `filter_append_filter`   a list in which what passes a test comes first;
* `mapM_eq_ok_iff`       a list of results, place by place;
* `exists_unbeaten`      in a finite list, whatever is beaten is beaten by something unbeaten;
* `exists_cycle`         where everything is beaten, something leads back to itself.
-/

namespace Introspect

/-! ## Repetitions -/

section
variable {α : Type} [BEq α] [LawfulBEq α]

/-- one more element is listed when it did not occur -/
theorem eraseDups_concat (as : List α) (a : α) :
    (as ++ [a]).eraseDups = if a ∈ as then as.eraseDups else as.eraseDups ++ [a] := by
  rw [List.eraseDups_append]
  by_cases h : a ∈ as
  · rw [if_pos h]
    have : [a].removeAll as = [] := by simp [List.removeAll, h]
    rw [this, List.eraseDups_nil, List.append_nil]
  · rw [if_neg h]
    have : [a].removeAll as = [a] := by simp [List.removeAll, h]
    rw [this]
    simp [List.eraseDups_cons]

theorem nodup_eraseDups (as : List α) : as.eraseDups.Nodup := by
  induction as using List.reverseRecOn with
  | nil => exact List.nodup_nil
  | append_singleton as a ih =>
    rw [eraseDups_concat]
    by_cases h : a ∈ as
    · rw [if_pos h]
      exact ih
    · rw [if_neg h]
      refine List.nodup_append.mpr ⟨ih, by simp, fun b hb c hc hbc => ?_⟩
      rw [hbc, List.mem_singleton.mp hc] at hb
      exact h (List.mem_eraseDups.mp hb)

theorem eraseDups_of_nodup {as : List α} (h : as.Nodup) : as.eraseDups = as := by
  induction as using List.reverseRecOn with
  | nil => rfl
  | append_singleton as a ih =>
    obtain ⟨has, -, hne⟩ := List.nodup_append.mp h
    have ha : a ∉ as := fun ha => hne a ha a (List.mem_singleton.mpr rfl) rfl
    rw [eraseDups_concat, if_neg ha, ih has]

end

/-- a list without repetitions whose only element, if any, is that of an option -/
theorem eq_toList_of_nodup {α : Type} {l : List α} {o : Option α} (hl : l.Nodup)
    (h : ∀ a, a ∈ l ↔ o = some a) : l = o.toList := by
  cases o with
  | none => exact List.eq_nil_iff_forall_not_mem.mpr fun a ha => nomatch (h a).mp ha
  | some b =>
    refine List.perm_singleton.mp ((List.perm_ext_iff_of_nodup hl (List.nodup_singleton b)).mpr
      fun a => ?_)
    rw [h, List.mem_singleton, Option.some.injEq, eq_comm]

/-- two lists pass a test at every place that both have -/
theorem all_zip_iff {α β : Type} {p : α → β → Bool} {as : List α} {bs : List β} :
    ((as.zip bs).all fun q => p q.1 q.2) = true
      ↔ ∀ (i : Nat) (a : α) (b : β), as[i]? = some a → bs[i]? = some b → p a b = true := by
  rw [List.all_eq_true]
  constructor
  · intro hall i a b ha hb
    exact hall (a, b) (List.mem_of_getElem? (List.getElem?_zip_eq_some.mpr ⟨ha, hb⟩))
  · rintro hall ⟨a, b⟩ hmem
    obtain ⟨i, hi⟩ := List.mem_iff_getElem?.mp hmem
    obtain ⟨ha, hb⟩ := List.getElem?_zip_eq_some.mp hi
    exact hall i a b ha hb

/-- lists of one length that differ do so at some place -/
theorem exists_getElem?_ne {α : Type} {as bs : List α} (hlen : as.length = bs.length)
    (hne : as ≠ bs) : ∃ (i : Nat) (a b : α), as[i]? = some a ∧ bs[i]? = some b ∧ a ≠ b := by
  by_contra hsame
  refine hne (List.ext_getElem hlen fun i hi hi' => ?_)
  by_contra hdiffer
  exact hsame ⟨i, as[i], bs[i], List.getElem?_eq_getElem hi, List.getElem?_eq_getElem hi', hdiffer⟩

/-! ## Tests that a beginning of a list passes -/

section
variable {α : Type} {p : α → Bool} {l : List α}

/-- nothing passes after an element that fails -/
theorem filter_eq_nil_of_pairwise {a : α} (h : ∀ b ∈ l, p b = true → p a = true)
    (ha : p a = false) : l.filter p = [] :=
  List.filter_eq_nil_iff.mpr fun b hb hpb => Bool.false_ne_true (ha.symm.trans (h b hb hpb))

/-- what passes a test keeps its place when it comes first -/
theorem getElem?_filter_iff (h : l.Pairwise fun a b => p b = true → p a = true) {i : Nat} {a : α} :
    (l.filter p)[i]? = some a ↔ l[i]? = some a ∧ p a = true := by
  induction h generalizing i with
  | nil => simp
  | @cons b l hb _ ih =>
    cases hpb : p b with
    | true =>
      rw [List.filter_cons_of_pos hpb]
      cases i with
      | zero =>
        rw [List.getElem?_cons_zero, List.getElem?_cons_zero, Option.some.injEq]
        exact ⟨fun hba => ⟨hba, hba ▸ hpb⟩, fun hba => hba.1⟩
      | succ i =>
        rw [List.getElem?_cons_succ, List.getElem?_cons_succ]
        exact ih
    | false =>
      have hnil : (b :: l).filter p = [] :=
        filter_eq_nil_of_pairwise (List.forall_mem_cons.mpr ⟨id, hb⟩) hpb
      rw [hnil, List.getElem?_nil]
      refine iff_of_false nofun fun ⟨hi, hpa⟩ => ?_
      have hmem := List.mem_filter.mpr ⟨List.mem_of_getElem? hi, hpa⟩
      rw [hnil] at hmem
      exact List.not_mem_nil hmem

/-- what passes a test, and then what fails it, is the list when what passes comes first -/
theorem filter_append_filter (h : l.Pairwise fun a b => p b = true → p a = true) :
    l.filter p ++ l.filter (fun a => !p a) = l := by
  induction h with
  | nil => rfl
  | @cons b l hb _ ih =>
    cases hpb : p b with
    | true => rw [List.filter_cons_of_pos hpb, List.filter_cons_of_neg (by rw [hpb]; nofun),
        List.cons_append, ih]
    | false =>
      have hnil := filter_eq_nil_of_pairwise hb hpb
      rw [hnil, List.nil_append] at ih
      rw [List.filter_cons_of_neg (ne_true_of_eq_false hpb), hnil, List.nil_append,
        List.filter_cons_of_pos (by rw [hpb]; rfl), ih]

end

/-- results of each element of a list, if there is one of each -/
theorem mapM_eq_ok_iff {ε α β : Type} {f : α → Except ε β} {xs : List α} {ys : List β} :
    xs.mapM f = .ok ys ↔ List.Forall₂ (fun x y => f x = .ok y) xs ys := by
  induction xs generalizing ys with
  | nil =>
    rw [List.mapM_nil, List.forall₂_nil_left_iff]
    exact ⟨fun h => (Except.ok.inj h).symm, fun h => congrArg Except.ok h.symm⟩
  | cons x xs ih =>
    rw [List.mapM_cons, List.forall₂_cons_left_iff]
    cases hx : f x with
    | error e => exact iff_of_false nofun fun ⟨_, _, h, _⟩ => nomatch h
    | ok z =>
      cases hxs : xs.mapM f with
      | error e =>
        refine iff_of_false nofun fun ⟨_, zs, _, hzs, _⟩ => ?_
        rw [← ih, hxs] at hzs
        exact nomatch hzs
      | ok zs =>
        have hzs : List.Forall₂ (fun x y => f x = .ok y) xs zs := ih.mp hxs
        constructor
        · exact fun h => ⟨z, zs, rfl, hzs, (Except.ok.inj h).symm⟩
        · rintro ⟨y, ws, hy, hws, rfl⟩
          obtain rfl := Except.ok.inj hy
          obtain rfl := Except.ok.inj (hxs.symm.trans (ih.mpr hws))
          rfl

theorem exists_of_mem_forall₂ {α β : Type} {r : α → β → Prop} {xs : List α} {ys : List β}
    (h : List.Forall₂ r xs ys) {y : β} (hy : y ∈ ys) : ∃ x ∈ xs, r x y := by
  induction h with
  | nil => exact nomatch hy
  | @cons x _ xs _ hxy _ ih =>
    rcases List.mem_cons.mp hy with rfl | hy
    · exact ⟨x, List.mem_cons_self, hxy⟩
    · obtain ⟨z, hz, hzy⟩ := ih hy
      exact ⟨z, List.mem_cons_of_mem x hz, hzy⟩

/-! ## Finite descent -/

/-- an element of a list is unbeaten in it, or it is beaten by an element that is -/
theorem exists_unbeaten {α : Type} {r : α → α → Prop} {l : List α} (hirrefl : ∀ a ∈ l, ¬ r a a)
    (htrans : ∀ a ∈ l, ∀ b ∈ l, ∀ c ∈ l, r a b → r b c → r a c) {a : α} (ha : a ∈ l) :
    ∃ b ∈ l, (b = a ∨ r b a) ∧ ∀ c ∈ l, ¬ r c b := by
  -- over the elements looked at so far, one that beats `a` or is `a` beats the best one or not
  have hdescent : ∀ l' : List α, l' ⊆ l → ∃ b ∈ l, (b = a ∨ r b a) ∧ ∀ c ∈ l', ¬ r c b := by
    intro l' hsub
    induction l' with
    | nil => exact ⟨a, ha, .inl rfl, fun c hc => absurd hc List.not_mem_nil⟩
    | cons x xs ih =>
      obtain ⟨b, hb, hba, hmin⟩ := ih fun y hy => hsub (List.mem_cons_of_mem x hy)
      have hx : x ∈ l := hsub List.mem_cons_self
      by_cases hxb : r x b
      · refine ⟨x, hx, .inr ?_, List.forall_mem_cons.mpr ⟨hirrefl x hx, fun c hc hcx => ?_⟩⟩
        · rcases hba with rfl | hba
          · exact hxb
          · exact htrans x hx b hb a ha hxb hba
        · exact hmin c hc (htrans c (hsub (List.mem_cons_of_mem x hc)) x hx b hb hcx hxb)
      · exact ⟨b, hb, hba, List.forall_mem_cons.mpr ⟨hxb, hmin⟩⟩
  exact hdescent l fun _ h => h

/-- in a list where everything is beaten, something leads back to itself -/
theorem exists_cycle {α : Type} {r : α → α → Prop} {l : List α} {a : α} (ha : a ∈ l)
    (h : ∀ b ∈ l, ∃ c ∈ l, r c b) :
    ∃ b, Relation.TransGen (fun x y => x ∈ l ∧ y ∈ l ∧ r x y) b b := by
  by_contra hnone
  obtain ⟨b, hb, -, hmin⟩ :=
    exists_unbeaten (r := Relation.TransGen fun x y => x ∈ l ∧ y ∈ l ∧ r x y)
      (fun b _ hcycle => hnone ⟨b, hcycle⟩) (fun _ _ _ _ _ _ => Relation.TransGen.trans) ha
  obtain ⟨c, hc, hcb⟩ := h b hb
  exact hmin c hc (.single ⟨hc, hb, hcb⟩)

end Introspect
