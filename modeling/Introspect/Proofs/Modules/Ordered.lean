import Introspect.Modules.Basic
import Introspect.Proofs.Acting
import Mathlib.Data.List.Sort
import Mathlib.Data.String.Basic

/-!
# Namespaces in order

The bindings of a namespace are put in order by comparing their keys two at a time.  Texts can be
compared with each other and with nothing else, so that a namespace with a key that is a text and
another one that is not cannot be put in order.

* `Bindings.Keyed`             no key is there twice, as in every mapping;
* `Bindings.TextKeys`, `Bindings.NoTextKeys`  all keys are texts, or none of them is one;
* `Bindings.perm_inOrder`      what is put in order stays the same;
* `Bindings.textKeys_or_noTextKeys`  what can be put in order has keys of one of these two sorts;
* `Bindings.names_inOrder`     texts can always be put in order;
* `Bindings.names_strict`      the names of a namespace that was put in order are in strict order.
-/

namespace Introspect

/-! ## Entries under texts -/

namespace Value

variable {key k v : Value} {es : List (Value × Value)}

theorem beq_str_iff (v : Value) (s : String) : (v == .str s) = true ↔ v = .str s := by
  show v.same (.str s) = true ↔ v = .str s
  cases v with
  | str t =>
    have hsame : (Value.str t).same (.str s) = (t == s) := rfl
    rw [hsame, beq_iff_eq, Value.str.injEq]
  | complex x y =>
    have hsame : (Value.complex x y).same (.str s) = (y == 0.0 && false) := rfl
    rw [hsame, Bool.and_false]
    exact iff_of_false Bool.false_ne_true nofun
  | _ => exact iff_of_false Bool.false_ne_true nofun

theorem lookup_cons_of_beq (h : (k == key) = true) : lookup key ((k, v) :: es) = some v := by
  unfold lookup
  exact congrArg (Option.map Prod.snd) (List.find?_cons_of_pos h)

theorem lookup_cons_of_not_beq (h : ¬(k == key) = true) :
    lookup key ((k, v) :: es) = lookup key es := by
  unfold lookup
  exact congrArg (Option.map Prod.snd) (List.find?_cons_of_neg h)

theorem mem_of_lookup_str {b : Bindings} {name : String} (h : lookup (.str name) b = some v) :
    (.str name, v) ∈ b := by
  unfold lookup at h
  obtain ⟨e, he, rfl⟩ := Option.map_eq_some_iff.mp h
  have hbeq := List.find?_some he
  have hkey : e.1 = .str name := (beq_str_iff _ _).mp hbeq
  exact hkey ▸ List.mem_of_find?_eq_some he

/-- texts can be compared with texts only -/
theorem str_iff_str_of_exceeds {h : Hierarchy} {v w : Value} {b : Bool}
    (hb : v.exceeds h w = .ok b) : (∃ s, v = .str s) ↔ ∃ t, w = .str t := by
  by_cases hv : ∃ s, v = .str s
  · obtain ⟨s, rfl⟩ := hv
    refine iff_of_true ⟨s, rfl⟩ ?_
    cases w with
    | str t => exact ⟨t, rfl⟩
    | _ => exact nomatch hb
  · refine iff_of_false hv ?_
    rintro ⟨t, rfl⟩
    cases v with
    | str s => exact hv ⟨s, rfl⟩
    | instanceOf c i =>
      -- whatever is under the instance, there is no number under a text
      have hnumber : ((Value.str t).core h).magnitude? = Option.none := rfl
      unfold exceeds at hb
      rw [hnumber] at hb
      split at hb
      · next hsome => exact nomatch hsome
      · exact nomatch hb
    | _ => exact nomatch hb

end Value

namespace Bindings

/-- no key is there twice -/
def Keyed (b : Bindings) : Prop := b.Pairwise fun e e' => (e.1 == e'.1) = false

/-- all keys are texts -/
def TextKeys (b : Bindings) : Prop := ∀ e ∈ b, ∃ name, e.1 = .str name

/-- no key is a text -/
def NoTextKeys (b : Bindings) : Prop := ∀ e ∈ b, ¬ ∃ name, e.1 = .str name

variable {h : Hierarchy} {b es : Bindings} {e : Value × Value}

theorem mem_names_iff {n : String} : n ∈ b.names ↔ ∃ v, (.str n, v) ∈ b := by
  unfold names
  rw [List.mem_filterMap]
  constructor
  · rintro ⟨⟨k, v⟩, he, hn⟩
    cases k with
    | str s =>
      obtain rfl : s = n := Option.some.inj hn
      exact ⟨v, he⟩
    | _ => exact nomatch hn
  · rintro ⟨v, hv⟩
    exact ⟨_, hv, rfl⟩

/-- a name is bound when something is looked up under it -/
theorem exists_lookup_iff {n : String} :
    (∃ v, Value.lookup (.str n) b = some v) ↔ n ∈ b.names := by
  rw [mem_names_iff]
  refine ⟨fun ⟨v, hv⟩ => ⟨v, Value.mem_of_lookup_str hv⟩, fun ⟨v, hv⟩ => ?_⟩
  have hfound : (b.find? fun e => e.1 == .str n).isSome = true :=
    List.find?_isSome.mpr ⟨_, hv, (Value.beq_str_iff _ _).mpr rfl⟩
  obtain ⟨e, he⟩ := Option.isSome_iff_exists.mp hfound
  refine ⟨e.2, ?_⟩
  unfold Value.lookup
  rw [he]
  rfl

/-- a name of a namespace is bound to what stands there under it -/
theorem lookup_eq_some_iff (hb : b.Keyed) (n : String) (v : Value) :
    Value.lookup (.str n) b = some v ↔ (.str n, v) ∈ b := by
  refine ⟨Value.mem_of_lookup_str, fun hv => ?_⟩
  induction b with
  | nil => exact absurd hv List.not_mem_nil
  | cons x xs ih =>
    obtain ⟨hx, hxs⟩ := List.pairwise_cons.mp hb
    rcases List.mem_cons.mp hv with rfl | hv
    · exact Value.lookup_cons_of_beq ((Value.beq_str_iff _ _).mpr rfl)
    · rw [← ih hxs hv]
      exact Value.lookup_cons_of_not_beq (Bool.eq_false_iff.mp (hx _ hv))

/-! ## Putting entries in order -/

theorem perm_insertInOrder (hes : b.insertInOrder h e = .ok es) : es.Perm (e :: b) := by
  induction b generalizing es with
  | nil =>
    obtain rfl := Except.ok.inj hes
    exact List.Perm.refl _
  | cons x xs ih =>
    obtain ⟨above, -, hes⟩ := bind_eq_ok_iff.mp hes
    cases above with
    | false =>
      obtain rfl := Except.ok.inj hes
      exact List.Perm.refl _
    | true =>
      obtain ⟨ys, hys, hes⟩ := bind_eq_ok_iff.mp hes
      obtain rfl := Except.ok.inj hes
      exact ((ih hys).cons x).trans (List.Perm.swap e x xs)

theorem perm_inOrder (hes : b.inOrder h = .ok es) : es.Perm b := by
  induction b generalizing es with
  | nil =>
    obtain rfl := Except.ok.inj hes
    exact List.Perm.refl _
  | cons e b ih =>
    obtain ⟨xs, hxs, hes⟩ := bind_eq_ok_iff.mp hes
    exact (perm_insertInOrder hes).trans ((ih hxs).cons e)

/-- what can be put in order has texts for keys only, or no text -/
theorem textKeys_or_noTextKeys (hes : b.inOrder h = .ok es) : b.TextKeys ∨ b.NoTextKeys := by
  induction b generalizing es with
  | nil => exact .inl nofun
  | cons e b ih =>
    obtain ⟨xs, hxs, hes⟩ := bind_eq_ok_iff.mp hes
    have hperm := perm_inOrder hxs
    cases xs with
    | nil =>
      -- there is no other entry
      obtain rfl := hperm.nil_eq
      by_cases he : ∃ name, e.1 = .str name
      · exact .inl (List.forall_mem_singleton.mpr he)
      · exact .inr (List.forall_mem_singleton.mpr he)
    | cons x xs =>
      -- the entry was compared with one of the others
      obtain ⟨above, hx, -⟩ := bind_eq_ok_iff.mp hes
      have hsame := Value.str_iff_str_of_exceeds hx
      have hmem : x ∈ b := hperm.subset List.mem_cons_self
      exact (ih hxs).imp
        (fun hb => List.forall_mem_cons.mpr ⟨hsame.mpr (hb x hmem), hb⟩)
        (fun hb => List.forall_mem_cons.mpr ⟨fun he => hb x hmem (hsame.mp he), hb⟩)

theorem names_insertInOrder {n : String} {v : Value} (hb : b.TextKeys) :
    ∃ es, b.insertInOrder h (.str n, v) = .ok es
      ∧ es.names = b.names.orderedInsert (· ≤ ·) n := by
  induction b with
  | nil => exact ⟨_, rfl, rfl⟩
  | cons x xs ih =>
    obtain ⟨⟨m, hm⟩, hxs⟩ := List.forall_mem_cons.mp hb
    obtain ⟨ys, hys, hnames⟩ := ih hxs
    have hx : x = (.str m, x.2) := Prod.ext hm rfl
    have hcompared : (Value.str n).exceeds h x.1 = .ok (m < n) := by
      rw [hm]
      rfl
    have hhead : names (x :: xs) = m :: names xs := by
      rw [hx]
      rfl
    unfold insertInOrder
    rw [hcompared, hys, hhead, List.orderedInsert_cons]
    by_cases hle : n ≤ m
    · rw [if_pos hle, decide_eq_false (not_lt.mpr hle)]
      exact ⟨_, rfl, congrArg (n :: ·) hhead⟩
    · rw [if_neg hle, decide_eq_true (not_le.mp hle)]
      refine ⟨_, rfl, ?_⟩
      rw [← hnames, hx]
      rfl

/-- texts can always be put in order -/
theorem names_inOrder (h : Hierarchy) (hb : b.TextKeys) :
    ∃ es, b.inOrder h = .ok es ∧ es.names = b.names.insertionSort (· ≤ ·) := by
  induction b with
  | nil => exact ⟨_, rfl, rfl⟩
  | cons e b ih =>
    obtain ⟨⟨n, hn⟩, hb⟩ := List.forall_mem_cons.mp hb
    obtain ⟨xs, hxs, hnames⟩ := ih hb
    have htexts : TextKeys xs := fun x hx => hb x ((perm_inOrder hxs).subset hx)
    obtain ⟨es, hes, hinserted⟩ := names_insertInOrder (h := h) (n := n) (v := e.2) htexts
    refine ⟨es, ?_, ?_⟩
    · unfold inOrder
      rw [hxs, show e = (.str n, e.2) from Prod.ext hn rfl]
      exact hes
    · rw [hinserted, hnames, show e = (.str n, e.2) from Prod.ext hn rfl]
      rfl

theorem names_eq_nil (hb : b.NoTextKeys) : b.names = [] :=
  List.eq_nil_iff_forall_not_mem.mpr fun n hn => by
    obtain ⟨v, hv⟩ := mem_names_iff.mp hn
    exact hb _ hv ⟨n, rfl⟩

theorem nodup_names (hb : b.Keyed) : b.names.Nodup := by
  have htext : ∀ {v : Value} {s : String}, v.str? = some s → v = .str s := by
    intro v s hs
    cases v with
    | str t => rw [Option.some.inj hs]
    | _ => exact nomatch hs
  refine List.Pairwise.filterMap _ (fun e e' hne s hs t ht heq => ?_) hb
  rw [htext hs, htext ht, heq, (Value.beq_str_iff _ _).mpr rfl] at hne
  exact Bool.false_ne_true hne.symm

/-- the names of a namespace that was put in order are in strict order -/
theorem names_strict (hb : b.Keyed) (hes : b.inOrder h = .ok es) : es.names.Pairwise (· < ·) := by
  rcases textKeys_or_noTextKeys hes with htexts | hnone
  · obtain ⟨es', hes', hnames⟩ := names_inOrder h htexts
    obtain rfl := Except.ok.inj (hes'.symm.trans hes)
    have hnodup : es'.names.Nodup := by
      rw [hnames]
      exact (List.perm_insertionSort _ _).nodup_iff.mpr (nodup_names hb)
    have hsorted : es'.names.Pairwise (· ≤ ·) := by
      rw [hnames]
      exact List.pairwise_insertionSort _ _
    exact (List.pairwise_and_iff.mpr ⟨hsorted, hnodup⟩).imp fun ⟨hle, hne⟩ => lt_of_le_of_ne hle hne
  · have hnil : es.names = [] := names_eq_nil fun e he => hnone e ((perm_inOrder hes).subset he)
    rw [hnil]
    exact .nil

theorem mem_names_inOrder {n : String} (hes : b.inOrder h = .ok es) :
    n ∈ es.names ↔ ∃ v, Value.lookup (.str n) b = some v := by
  rw [exists_lookup_iff, mem_names_iff, mem_names_iff]
  exact exists_congr fun v => (perm_inOrder hes).mem_iff

end Bindings

end Introspect
