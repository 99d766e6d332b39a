import Introspect.Proofs.Acting
import Introspect.Proofs.Dispatch.Storage
import Introspect.Reflection.Backedges

/-!
# Listing variants

The variants of a function are collected method by method.  When no variant is read from two
methods, the listing holds just what was read, and each variant once.

* `mem_addOwned`         a listing after one more variant;
* `OwnedBy`              every variant of a listing is paired with its own method;
* `OwnedBy.collectInto`  the variants of one more method;
* `collects_listed`      what is collected of a method that can be read or not;
* `specializationsOf_eq` the variants of several methods, when each can be read in some way;
* `specializations_of_methodsOf`, `specializations_eq`   the same for a function.
-/

namespace Introspect

/-! ## Variants with their methods -/

/-- one more variant takes a new place unless it is there already -/
theorem keys_addOwned (owned : List (Nat × Nat)) (v m : Nat) :
    (addOwned owned v m).map Prod.fst
      = if v ∈ owned.map Prod.fst then owned.map Prod.fst else owned.map Prod.fst ++ [v] := by
  unfold addOwned
  by_cases hv : v ∈ owned.map Prod.fst
  · obtain ⟨e, he, hev⟩ := List.mem_map.mp hv
    have hany : owned.any (fun e => e.1 == v) = true :=
      List.any_eq_true.mpr ⟨e, he, beq_iff_eq.mpr hev⟩
    rw [if_pos hany, if_pos hv, List.map_map]
    refine List.map_congr_left fun x _ => ?_
    by_cases hx : x.1 = v
    · rw [Function.comp_apply, if_pos (beq_iff_eq.mpr hx), hx]
    · rw [Function.comp_apply, if_neg fun hc => hx (beq_iff_eq.mp hc)]
  · have hany : ¬ owned.any (fun e => e.1 == v) = true := by
      intro hc
      obtain ⟨e, he, hev⟩ := List.any_eq_true.mp hc
      exact hv (List.mem_map.mpr ⟨e, he, beq_iff_eq.mp hev⟩)
    rw [if_neg hany, if_neg hv, List.map_append]
    rfl

/-- the last method takes the variant over -/
theorem mem_addOwned (owned : List (Nat × Nat)) (v m : Nat) (e : Nat × Nat) :
    e ∈ addOwned owned v m ↔ e = (v, m) ∨ e ∈ owned ∧ e.1 ≠ v := by
  unfold addOwned
  split
  · next hany =>
    obtain ⟨x, hx, hxv⟩ := List.any_eq_true.mp hany
    rw [List.mem_map]
    constructor
    · rintro ⟨y, hy, rfl⟩
      by_cases hyv : y.1 = v
      · exact Or.inl (if_pos (beq_iff_eq.mpr hyv))
      · rw [if_neg fun hc => hyv (beq_iff_eq.mp hc)]
        exact Or.inr ⟨hy, hyv⟩
    · rintro (rfl | ⟨he, hev⟩)
      · exact ⟨x, hx, if_pos hxv⟩
      · exact ⟨e, he, if_neg fun hc => hev (beq_iff_eq.mp hc)⟩
  · next hany =>
    rw [List.mem_append, List.mem_singleton, or_comm]
    refine or_congr_right (iff_self_and.mpr fun he hev => hany ?_)
    exact List.any_eq_true.mpr ⟨e, he, beq_iff_eq.mpr hev⟩

section
variable {own : Nat → Nat} {owned : List (Nat × Nat)}

/-- every variant is there once, with its own method -/
structure OwnedBy (own : Nat → Nat) (owned : List (Nat × Nat)) : Prop where
  own : ∀ e ∈ owned, e.2 = own e.1
  nodup : (owned.map Prod.fst).Nodup

theorem ownedBy_nil (own : Nat → Nat) : OwnedBy own [] :=
  ⟨fun _ he => absurd he List.not_mem_nil, List.nodup_nil⟩

theorem OwnedBy.addOwned (h : OwnedBy own owned) (v : Nat) :
    OwnedBy own (addOwned owned v (own v)) := by
  refine ⟨fun e he => ?_, ?_⟩
  · rcases (mem_addOwned owned v (own v) e).mp he with rfl | ⟨he, -⟩
    · rfl
    · exact h.own e he
  · rw [keys_addOwned]
    split
    · exact h.nodup
    · next hv =>
      exact List.nodup_append.mpr ⟨h.nodup, List.nodup_singleton v, fun a ha b hb hab =>
        hv (by rwa [hab, List.mem_singleton.mp hb] at ha)⟩

theorem OwnedBy.mem_addOwned_iff (h : OwnedBy own owned) (v : Nat) (e : Nat × Nat) :
    e ∈ Introspect.addOwned owned v (own v) ↔ e ∈ owned ∨ e = (v, own v) := by
  rw [mem_addOwned, or_comm]
  constructor
  · exact Or.imp_left And.left
  · rintro (he | he)
    · by_cases hv : e.1 = v
      · exact Or.inr (Prod.ext hv (hv ▸ h.own e he))
      · exact Or.inl ⟨he, hv⟩
    · exact Or.inr he

/-- the variants of one more method -/
def collectInto (m : Nat) (vs : List Nat) (owned : List (Nat × Nat)) : List (Nat × Nat) :=
  vs.foldl (fun o v => Introspect.addOwned o v m) owned

theorem OwnedBy.collectInto {m : Nat} {vs : List Nat} (hvs : ∀ v ∈ vs, own v = m)
    (h : OwnedBy own owned) :
    OwnedBy own (collectInto m vs owned)
      ∧ ∀ e, e ∈ Introspect.collectInto m vs owned ↔ e ∈ owned ∨ e.1 ∈ vs ∧ e.2 = m := by
  induction vs generalizing owned with
  | nil => exact ⟨h, fun e => by simp [Introspect.collectInto]⟩
  | cons v vs ih =>
    obtain rfl := hvs v List.mem_cons_self
    obtain ⟨h1, h2⟩ := ih (fun w hw => hvs w (List.mem_cons_of_mem _ hw)) (h.addOwned v)
    refine ⟨h1, fun e => (h2 e).trans ?_⟩
    rw [h.mem_addOwned_iff, List.mem_cons, or_assoc]
    refine or_congr_right ⟨?_, ?_⟩
    · rintro (rfl | ⟨he, hm⟩)
      · exact ⟨Or.inl rfl, rfl⟩
      · exact ⟨Or.inr he, hm⟩
    · rintro ⟨he | he, hm⟩
      · exact Or.inl (Prod.ext he hm)
      · exact Or.inr ⟨he, hm⟩

end

/-! ## Reading the methods -/

variable {s : Store} {view : Surroundings} {source : VariantSource}

/-- the variants of a method are collected without a fault -/
def Collects (s : Store) (view : Surroundings) (source : VariantSource) (m : Nat)
    (vs : List Nat) : Prop :=
  ∀ notes, ∃ notes', collectVariants s view source m notes = (.ok vs, notes')

/-- what is listed of a method: all that was yielded, or nothing when the source was stopped -/
def Yielded.listed (y : Yielded) : List Nat := if y.stopped.isNone then y.variants else []

/-- a source that is stopped because the storage cannot be read leaves nothing -/
theorem collects_listed {m : Nat} (h : ∀ e,
    (source view.hierarchy (s.method m)).stopped = some e → e.kind.isStorage = true) :
    Collects s view source m (source view.hierarchy (s.method m)).listed := by
  intro notes
  unfold collectVariants Yielded.listed
  cases hstop : (source view.hierarchy (s.method m)).stopped with
  | none => exact ⟨notes, rfl⟩
  | some e =>
    dsimp only
    rw [if_pos (h e hstop)]
    exact ⟨_, rfl⟩

theorem collects_of_yielded {m : Nat} {vs : List Nat}
    (h : source view.hierarchy (s.method m) = ⟨vs, none⟩) : Collects s view source m vs := by
  have hlisted : Collects s view source m (source view.hierarchy (s.method m)).listed :=
    collects_listed fun e he => by rw [h] at he; exact nomatch he
  rwa [h] at hlisted

/-- storage that cannot be read for a common reason counts as empty -/
theorem collects_of_fault {m : Nat} {e : Fault}
    (h : source view.hierarchy (s.method m) = .fault e) (he : e.kind.isStorage = true) :
    Collects s view source m [] := by
  have hlisted : Collects s view source m (source view.hierarchy (s.method m)).listed :=
    collects_listed fun x hx => by rw [h] at hx; exact Option.some.inj hx ▸ he
  rwa [h] at hlisted

theorem specializationsOf_eq {ms : List Nat} {vs : Nat → List Nat}
    (h : ∀ m ∈ ms, Collects s view source m (vs m)) (owned : List (Nat × Nat))
    (notes : List String) :
    ∃ notes', specializationsOf s view source ms owned notes
      = (.ok (ms.foldl (fun o m => collectInto m (vs m) o) owned), notes') := by
  induction ms generalizing owned notes with
  | nil => exact ⟨notes, rfl⟩
  | cons m ms ih =>
    obtain ⟨notes₁, h₁⟩ := h m List.mem_cons_self notes
    obtain ⟨notes₂, h₂⟩ := ih (fun k hk => h k (List.mem_cons_of_mem _ hk))
      (collectInto m (vs m) owned) notes₁
    refine ⟨notes₂, ?_⟩
    unfold specializationsOf
    rw [Acting.bind_of_ok h₁]
    exact h₂

/-- what is read from several methods, when no variant is read from two of them -/
theorem ownedBy_foldl {own : Nat → Nat} {ms : List Nat} {vs : Nat → List Nat}
    (hvs : ∀ m ∈ ms, ∀ v ∈ vs m, own v = m) {owned : List (Nat × Nat)} (h : OwnedBy own owned) :
    OwnedBy own (ms.foldl (fun o m => collectInto m (vs m) o) owned)
      ∧ ∀ e, e ∈ ms.foldl (fun o m => collectInto m (vs m) o) owned
          ↔ e ∈ owned ∨ e.2 ∈ ms ∧ e.1 ∈ vs e.2 := by
  induction ms generalizing owned with
  | nil => exact ⟨h, fun e => by simp⟩
  | cons m ms ih =>
    obtain ⟨h₁, hmem⟩ := h.collectInto (hvs m List.mem_cons_self)
    obtain ⟨h₂, hmem'⟩ := ih (fun k hk => hvs k (List.mem_cons_of_mem _ hk)) h₁
    refine ⟨h₂, fun e => (hmem' e).trans ?_⟩
    rw [hmem, List.mem_cons, or_assoc]
    refine or_congr_right ⟨?_, ?_⟩
    · rintro (⟨he, rfl⟩ | ⟨hm, he⟩)
      · exact ⟨Or.inl rfl, he⟩
      · exact ⟨Or.inr hm, he⟩
    · rintro ⟨hm | hm, he⟩
      · exact Or.inl ⟨hm ▸ he, hm⟩
      · exact Or.inr ⟨hm, he⟩

/-- without a filter, the methods of a function are those of its table -/
theorem Store.methodsOf_none {f : Nat} {t : Table} (ht : (s.function f).table = some t)
    (h : Hierarchy) : s.methodsOf h f none = .ok t.methods := by
  unfold methodsOf
  rw [(table?_eq_ok_iff s f t).mpr ht]
  rfl

/-- the variants of the methods of a function that may match, when each can be read in some way -/
theorem specializations_of_methodsOf {f : Nat} {filter : Option Signature} {ms : List Nat}
    (hms : s.methodsOf view.hierarchy f filter = .ok ms) {vs : Nat → List Nat}
    (h : ∀ m ∈ ms, Collects s view source m (vs m)) (notes : List String) :
    ∃ notes', specializations s view source (.generic f) filter notes
      = (.ok (ms.foldl (fun o m => collectInto m (vs m) o) []), notes') := by
  have hvalue : methodsOfValue s view.hierarchy (.generic f) filter = .ok ms := hms
  unfold specializations
  rw [hvalue]
  exact specializationsOf_eq h [] notes

/-- the variants of a function, when each of its methods can be read in some way -/
theorem specializations_eq {f : Nat} {t : Table} (ht : (s.function f).table = some t)
    {vs : Nat → List Nat} (h : ∀ m ∈ t.methods, Collects s view source m (vs m))
    (notes : List String) :
    ∃ notes', specializations s view source (.generic f) none notes
      = (.ok (t.methods.foldl (fun o m => collectInto m (vs m) o) []), notes') :=
  specializations_of_methodsOf (Store.methodsOf_none ht view.hierarchy) h notes

/-! ## Storage of one layout read as the other -/

/-- sound storage can be read with the reader of either layout: with that of the other one there is
nothing to be found -/
theorem Storage.Sound.collects {m : Nat}
    (h : (s.method m).storage.Sound (s.method m).layout) (view : Surroundings) (layout : Layout) :
    Collects s view layout.source m
      (if layout = (s.method m).layout then (s.method m).storage.entries.map Prod.snd else []) := by
  by_cases hl : layout = (s.method m).layout
  · rw [if_pos hl, hl]
    exact collects_of_yielded (h.source_eq view.hierarchy)
  · rw [if_neg hl]
    rcases h.cases_on with ⟨t, hlayout, hs, -⟩ | ⟨⟨es, ending⟩, hlayout, hs, hc⟩
    · cases layout with
      | slots => exact absurd hlayout.symm hl
      | linked =>
        refine collects_of_yielded ?_
        show linkedSource view.hierarchy (s.method m) = _
        unfold linkedSource
        rw [hs]
    · cases layout with
      | linked => exact absurd hlayout.symm hl
      | slots =>
        obtain rfl : ending = .mark := hc.ending
        -- the head of a chain has no length, and neither has its end
        cases es with
        | nil =>
          refine collects_of_fault (e := .noLength "_EndOfEntries") ?_ rfl
          show slotsSource view.hierarchy (s.method m) = _
          unfold slotsSource
          rw [hs]
        | cons x xs =>
          refine collects_of_fault (e := .noLength "TypeMapEntry") ?_ rfl
          show slotsSource view.hierarchy (s.method m) = _
          unfold slotsSource
          rw [hs]

end Introspect
