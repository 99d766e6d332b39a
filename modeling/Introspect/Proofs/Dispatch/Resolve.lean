import Introspect.Proofs.Dispatch.Store

/-!
# The method that a call chooses

* `exists_filterBy`, `exists_anyOf`   tests that have results: a filter keeps what passes, and the
                            search for something that passes ends;
* `mem_filterBy_iff`, `anyOf_iff`   what they tell when they end;
* `exists_of_filterBy_eq_error`, `exists_of_anyOf_eq_error`   a fault of theirs is one of a test;
* `Store.resolve_eq_ok`     the method chosen stands in the table and applies.
-/

namespace Introspect

variable {α : Type}

/-- what a filter keeps when every test has a result -/
theorem filterBy_eq_ok {test : α → Except Fault Bool} {p : α → Bool} {xs : List α}
    (h : ∀ x ∈ xs, test x = .ok (p x)) : filterBy test xs = .ok (xs.filter p) := by
  induction xs with
  | nil => rfl
  | cons x xs ih =>
    unfold filterBy
    rw [h x List.mem_cons_self, ih fun y hy => h y (List.mem_cons_of_mem _ hy), List.filter_cons]
    rfl

/-- whether some element passes when every test has a result -/
theorem anyOf_eq_ok {test : α → Except Fault Bool} {p : α → Bool} {xs : List α}
    (h : ∀ x ∈ xs, test x = .ok (p x)) : anyOf test xs = .ok (xs.any p) := by
  induction xs with
  | nil => rfl
  | cons x xs ih =>
    unfold anyOf
    rw [h x List.mem_cons_self, ih fun y hy => h y (List.mem_cons_of_mem _ hy), List.any_cons]
    cases p x <;> rfl

/-- what a filter keeps when every test has some result -/
theorem exists_filterBy {test : α → Except Fault Bool} {xs : List α}
    (h : ∀ x ∈ xs, ∃ b, test x = .ok b) :
    ∃ ys, filterBy test xs = .ok ys ∧ ys.Sublist xs ∧ ∀ x, x ∈ ys ↔ x ∈ xs ∧ test x = .ok true := by
  have hp : ∀ x ∈ xs, test x = .ok ((test x).toOption.getD false) := by
    intro x hx
    obtain ⟨b, hb⟩ := h x hx
    rw [hb]
    rfl
  refine ⟨_, filterBy_eq_ok hp, List.filter_sublist, fun x => ?_⟩
  rw [List.mem_filter]
  refine and_congr_right fun hx => ?_
  rw [hp x hx, Except.ok.injEq]
  rfl

/-- a filter that ends has a result of every test -/
theorem exists_of_filterBy_eq_ok {test : α → Except Fault Bool} {xs ys : List α}
    (h : filterBy test xs = .ok ys) : ∀ x ∈ xs, ∃ b, test x = .ok b := by
  induction xs generalizing ys with
  | nil => exact fun x hx => absurd hx List.not_mem_nil
  | cons a as ih =>
    unfold filterBy at h
    cases ha : test a with
    | error e => rw [ha] at h; exact nomatch h
    | ok keep =>
      cases has : filterBy test as with
      | error e => rw [ha, has] at h; exact nomatch h
      | ok rest => exact List.forall_mem_cons.mpr ⟨⟨keep, ha⟩, ih has⟩

/-- what a filter keeps are the elements that pass its test -/
theorem mem_filterBy_iff {test : α → Except Fault Bool} {xs ys : List α}
    (h : filterBy test xs = .ok ys) (x : α) : x ∈ ys ↔ x ∈ xs ∧ test x = .ok true := by
  obtain ⟨zs, hzs, -, hmem⟩ := exists_filterBy (exists_of_filterBy_eq_ok h)
  obtain rfl := Except.ok.inj (h.symm.trans hzs)
  exact hmem x

/-- a fault of a filter is one of a test -/
theorem exists_of_filterBy_eq_error {test : α → Except Fault Bool} {xs : List α} {e : Fault}
    (h : filterBy test xs = .error e) : ∃ x ∈ xs, test x = .error e := by
  induction xs with
  | nil => exact nomatch h
  | cons a as ih =>
    unfold filterBy at h
    cases ha : test a with
    | error e' =>
      rw [ha] at h
      obtain rfl : e' = e := Except.error.inj h
      exact ⟨a, List.mem_cons_self, ha⟩
    | ok keep =>
      cases has : filterBy test as with
      | error e' =>
        rw [ha, has] at h
        obtain rfl : e' = e := Except.error.inj h
        obtain ⟨x, hx, hxe⟩ := ih has
        exact ⟨x, List.mem_cons_of_mem a hx, hxe⟩
      | ok rest => rw [ha, has] at h; exact nomatch h

/-- a search that ends tells whether some element passes -/
theorem anyOf_iff {test : α → Except Fault Bool} {xs : List α} {b : Bool}
    (h : anyOf test xs = .ok b) : b = true ↔ ∃ x ∈ xs, test x = .ok true := by
  induction xs with
  | nil =>
    obtain rfl := Except.ok.inj h
    simp
  | cons a as ih =>
    unfold anyOf at h
    simp only [List.mem_cons, exists_eq_or_imp]
    match test a, h with
    | .ok true, h => exact iff_of_true (Except.ok.inj h).symm (.inl rfl)
    | .ok false, h => exact (ih h).trans (or_iff_right nofun).symm

/-- a fault of a search is one of a test -/
theorem exists_of_anyOf_eq_error {test : α → Except Fault Bool} {xs : List α} {e : Fault}
    (h : anyOf test xs = .error e) : ∃ x ∈ xs, test x = .error e := by
  induction xs with
  | nil => exact nomatch h
  | cons a as ih =>
    unfold anyOf at h
    cases ha : test a with
    | error e' =>
      rw [ha] at h
      obtain rfl : e' = e := Except.error.inj h
      exact ⟨a, List.mem_cons_self, ha⟩
    | ok found =>
      rw [ha] at h
      cases found with
      | true => exact nomatch h
      | false =>
        obtain ⟨x, hx, hxe⟩ := ih h
        exact ⟨x, List.mem_cons_of_mem a hx, hxe⟩

/-- whether some element passes when every test has some result -/
theorem exists_anyOf {test : α → Except Fault Bool} {xs : List α}
    (h : ∀ x ∈ xs, ∃ b, test x = .ok b) :
    ∃ b, anyOf test xs = .ok b ∧ (b = true ↔ ∃ x ∈ xs, test x = .ok true) := by
  cases hany : anyOf test xs with
  | error e =>
    obtain ⟨x, hx, hxe⟩ := exists_of_anyOf_eq_error hany
    obtain ⟨b, hb⟩ := h x hx
    rw [hb] at hxe
    exact nomatch hxe
  | ok b => exact ⟨b, rfl, anyOf_iff hany⟩

namespace Store

/-- the method chosen stands in the table and applies -/
theorem resolve_eq_ok {s : Store} {view : Surroundings} {f m : Nat} {types : Signature}
    (h : s.resolve view f types = .ok m) :
    ∃ t, (s.function f).table = some t ∧ m ∈ t.methods
      ∧ (s.method m).isApplicable view.hierarchy types = .ok true := by
  unfold resolve at h
  cases ht : s.table? f with
  | error e => rw [ht] at h; exact nomatch h
  | ok t =>
    refine ⟨t, (table?_eq_ok_iff s f t).mp ht, ?_⟩
    rw [ht] at h
    simp only [bind, Except.bind] at h
    cases hc : s.candidates view.hierarchy t types with
    | error e => rw [hc] at h; exact nomatch h
    | ok cs =>
      rw [hc] at h
      cases cs with
      | nil => exact nomatch h
      | cons c cs =>
        cases hu : s.unbeaten view.hierarchy types.length (c :: cs) with
        | error e => simp only [hu] at h; exact nomatch h
        | ok us =>
          simp only [hu] at h
          match us, h with
          | [n], h =>
            obtain rfl : n = m := Except.ok.inj h
            obtain ⟨hn, -⟩ := (mem_filterBy_iff hu n).mp List.mem_cons_self
            exact (mem_filterBy_iff hc n).mp hn

end Store

end Introspect
