import Introspect.Proofs.Acting
import Introspect.Session.Basic
import Mathlib.Data.Nat.Init

/-!
# The longest importable part of a target

A dotted target is tried from all of its parts down to the first one.  What the search comes to is
decided by one of these imports, the last that does not just miss a module on its way.

* `leading`, `trailing`          the first parts of a dotted text, and what is left of it;
* `isSelfOrParent_iff`           the modules on the way to a module are its leading parts;
* `Resolver.Misses`              an import that misses a module on its way;
* `Resolver.Tells`               an import that tells which module it misses, if it misses one;
* `Resolver.Longest`             the leading part whose import decides;
* `Resolver.longestModule_step`  one step of the search;
* `Resolver.longestModule_of_misses`  the search goes on through the imports that miss a module;
* `Resolver.SameOutcome`         two searches find the same value, or fail alike;
* `Resolver.target_dotted`       the outcome of a dotted target.
-/

namespace Introspect

open Text (parts)

/-- the first parts of a dotted text -/
def leading (t : String) (i : Nat) : String := ".".intercalate ((parts '.' t).take i)

/-- what is left of a dotted text after its first parts -/
def trailing (t : String) (i : Nat) : String := ".".intercalate ((parts '.' t).drop i)

variable {t : String} {i j n : Nat}

theorem leading_length (t : String) : leading t (parts '.' t).length = t := by
  rw [leading, List.take_length]
  exact Text.intercalate_parts '.' t

theorem leading_append_trailing (hi : 1 ≤ i) (hlt : i < (parts '.' t).length) :
    t = leading t i ++ "." ++ trailing t i := by
  have htake : (parts '.' t).take i ≠ [] := List.ne_nil_of_length_pos (by
    rw [List.length_take]
    omega)
  have hdrop : (parts '.' t).drop i ≠ [] := List.ne_nil_of_length_pos (by
    rw [List.length_drop]
    omega)
  rw [leading, trailing, ← String.intercalate_append_of_ne_nil htake hdrop, List.take_append_drop]
  exact (Text.intercalate_parts '.' t).symm

theorem parts_leading (hi : 1 ≤ i) : parts '.' (leading t i) = (parts '.' t).take i := by
  have hne : (parts '.' t).take i ≠ [] := fun h =>
    (List.take_eq_nil_iff.mp h).elim (by omega) (Text.parts_ne_nil '.' t)
  exact Text.parts_intercalate hne fun part hpart =>
    Text.not_mem_of_mem_parts (List.mem_of_mem_take hpart)

theorem leading_leading (hi : 1 ≤ i) (hj : j ≤ i) : leading (leading t i) j = leading t j := by
  rw [leading, parts_leading hi, List.take_take, Nat.min_eq_left hj, leading]

/-- the path after the first parts of a text -/
theorem pathParts_trailing (t : String) (i : Nat) :
    Resolver.pathParts (trailing t i) = ((parts '.' t).drop i).filter (· != "") := by
  by_cases hnil : (parts '.' t).drop i = []
  · rw [trailing, hnil]
    rfl
  · rw [Resolver.pathParts, trailing]
    exact congrArg (List.filter (· != "")) (Text.parts_intercalate hnil fun part hpart =>
      Text.not_mem_of_mem_parts (List.mem_of_mem_drop hpart))

theorem isSelfOrParent_iff {name whole : String} : Resolver.isSelfOrParent name whole = true ↔
    ∃ j, 1 ≤ j ∧ j ≤ (parts '.' whole).length ∧ name = leading whole j := by
  unfold Resolver.isSelfOrParent
  rw [Bool.or_eq_true, beq_iff_eq, List.isPrefixOf_iff_prefix]
  constructor
  · rintro (rfl | ⟨rest, hrest⟩)
    · exact ⟨_, List.length_pos_iff.mpr (Text.parts_ne_nil '.' whole), Nat.le_refl _,
        (leading_length whole).symm⟩
    · obtain rfl : name ++ "." ++ String.ofList rest = whole := by
        rw [← String.toList_inj, String.toList_append, String.toList_ofList]
        exact hrest
      have hparts : parts '.' (name ++ "." ++ String.ofList rest)
          = parts '.' name ++ parts '.' (String.ofList rest) :=
        Text.parts_append '.' name (String.ofList rest)
      refine ⟨(parts '.' name).length, List.length_pos_iff.mpr (Text.parts_ne_nil '.' name), ?_, ?_⟩
      · rw [hparts, List.length_append]
        exact Nat.le_add_right _ _
      · rw [leading, hparts, List.take_left]
        exact (Text.intercalate_parts '.' name).symm
  · rintro ⟨j, hj, hle, rfl⟩
    rcases Nat.eq_or_lt_of_le hle with rfl | hlt
    · exact .inl (leading_length whole).symm
    · refine .inr ⟨(trailing whole j).toList, ?_⟩
      rw [← String.toList_append, ← leading_append_trailing hj hlt]

/-- a module on the way to the first parts of a text -/
theorem isSelfOrParent_leading_iff {name : String} (hi : 1 ≤ i) (hle : i ≤ (parts '.' t).length) :
    Resolver.isSelfOrParent name (leading t i) = true ↔
      ∃ j, 1 ≤ j ∧ j ≤ i ∧ name = leading t j := by
  rw [isSelfOrParent_iff, parts_leading hi, List.length_take, Nat.min_eq_left hle]
  constructor
  · rintro ⟨j, hj, hji, rfl⟩
    exact ⟨j, hj, hji, leading_leading hi hji⟩
  · rintro ⟨j, hj, hji, rfl⟩
    exact ⟨j, hj, hji, (leading_leading hi hji).symm⟩

namespace Resolver

variable (r : Resolver)

/-- the import of the first parts misses a module on its way there -/
def Misses (t : String) (i : Nat) : Prop :=
  ∃ j text, 1 ≤ j ∧ j ≤ i
    ∧ r.importModule (leading t i) = .error (.missingModule (some (leading t j)) text)

/-- if the import of the first parts misses a module, it tells which one -/
def Tells (t : String) (i : Nat) : Prop :=
  ∀ e, r.importModule (leading t i) = .error e → e.kind = .missingModule →
    ∃ name text, e = .missingModule (some name) text

/-- the first parts are the most whose import does not miss a module on its way -/
structure Longest (t : String) (i : Nat) : Prop where
  pos : 1 ≤ i
  le : i ≤ (parts '.' t).length
  reached : ¬ r.Misses t i
  missed : ∀ k, i < k → k ≤ (parts '.' t).length → r.Misses t k

variable {r}

/-- what is made of the import that decides -/
def probed (r : Resolver) (t : String) (i : Nat) : Except Fault Value := do
  let m ← r.importModule (leading t i)
  r.follow t (((parts '.' t).drop i).filter (· != "")) (.module m)

/-! ## The search -/

theorem longestModule_succ : r.longestModule t (parts '.' t) (n + 1) =
    match r.importModule (leading t (n + 1)) with
    | .ok m => r.follow t (((parts '.' t).drop (n + 1)).filter (· != "")) (.module m)
    | .error e =>
      if isMissing (leading t (n + 1)) e then r.longestModule t (parts '.' t) n else .error e :=
  rfl

/-- one step: the search goes on where a module on the way is missed, and ends otherwise, unless it
is not told which module is missed -/
theorem longestModule_step (hle : n + 1 ≤ (parts '.' t).length) :
    (r.Misses t (n + 1) →
        r.longestModule t (parts '.' t) (n + 1) = r.longestModule t (parts '.' t) n)
      ∧ (¬ r.Misses t (n + 1) → r.Tells t (n + 1) →
        r.longestModule t (parts '.' t) (n + 1) = r.probed t (n + 1)) := by
  have hself : ∀ name, isSelfOrParent name (leading t (n + 1)) = true ↔
      ∃ j, 1 ≤ j ∧ j ≤ n + 1 ∧ name = leading t j :=
    fun _ => isSelfOrParent_leading_iff (Nat.le_add_left 1 n) hle
  rw [longestModule_succ]
  constructor
  · rintro ⟨j, text, hj, hjn, himport⟩
    rw [himport]
    exact if_pos ((hself _).mpr ⟨j, hj, hjn, rfl⟩)
  · intro hreached htells
    unfold probed
    cases himport : r.importModule (leading t (n + 1)) with
    | ok m => rfl
    | error e =>
      refine if_neg fun h => hreached ?_
      obtain ⟨hkind, hname⟩ := Bool.and_eq_true_iff.mp h
      obtain ⟨name, text, rfl⟩ := htells e himport (beq_iff_eq.mp hkind)
      obtain ⟨j, hj, hjn, rfl⟩ := (hself name).mp hname
      exact ⟨j, text, hj, hjn, himport⟩

/-- the search goes down to where nothing is missed any more -/
theorem longestModule_of_misses (hin : i ≤ n) (hn : n ≤ (parts '.' t).length)
    (hmiss : ∀ k, i < k → k ≤ n → r.Misses t k) :
    r.longestModule t (parts '.' t) n = r.longestModule t (parts '.' t) i := by
  induction n, hin using Nat.le_induction with
  | base => rfl
  | succ n hin ih =>
    rw [(longestModule_step hn).1 (hmiss _ (Nat.lt_succ_of_le hin) (Nat.le_refl _))]
    exact ih (Nat.le_of_succ_le hn) fun k hik hkn => hmiss k hik (Nat.le_succ_of_le hkn)

/-- without a leading part that decides, every import misses a module on its way -/
theorem misses_of_not_longest (h : ∀ i, ¬ r.Longest t i) (hi : 1 ≤ i)
    (hle : i ≤ (parts '.' t).length) : r.Misses t i := by
  induction hd : (parts '.' t).length - i using Nat.strongRecOn generalizing i with
  | ind d ih =>
    refine Classical.byContradiction fun hreached => h i ⟨hi, hle, hreached, fun k hik hk => ?_⟩
    exact ih _ (by omega) (by omega) hk rfl

theorem longestModule_of_longest (h : r.Longest t i) (htells : r.Tells t i) :
    r.longestModule t (parts '.' t) (parts '.' t).length = r.probed t i := by
  rw [longestModule_of_misses h.le (Nat.le_refl _) h.missed]
  obtain ⟨k, rfl⟩ := Nat.exists_eq_add_of_le' h.pos
  exact (longestModule_step h.le).2 h.reached htells

/-! ## Following a path -/

/-- two searches find the same value, both lack an attribute, or fail with the same fault -/
inductive SameOutcome : Except Fault Value → Except Fault Value → Prop where
  | found (v : Value) : SameOutcome (.ok v) (.ok v)
  | lacking {e e' : Fault} (h : e.kind = .attribute) (h' : e'.kind = .attribute) :
    SameOutcome (.error e) (.error e')
  | raised (e : Fault) : SameOutcome (.error e) (.error e)

theorem requireDisplay_ends (store : Store) (v : Value) :
    Ends (fun _ => True) (·.kind = .attribute) (requireDisplay store v) := by
  have htable : ∀ f, Ends (fun _ => True) (·.kind = .attribute) (store.table? f) := by
    intro f
    unfold Store.table?
    split
    · exact .ok trivial
    · exact .error rfl
  exact (Ends.mapM fun f _ => htable f).map _

theorem missingPart_kind (target : String) (v : Value) (part : String) :
    (r.missingPart target v part).kind = .attribute := by
  unfold missingPart
  split
  · rfl
  · next h => exact ((requireDisplay_ends r.scope.store v).map _).of_error h

/-- the text of a target shows in the fault of a missing attribute only -/
theorem follow_sameOutcome (t u : String) (path : List String) (v : Value) :
    SameOutcome (r.follow t path v) (r.follow u path v) := by
  induction path generalizing v with
  | nil => exact .found v
  | cons part path ih =>
    unfold follow
    cases r.attributeOf v part with
    | error e => exact .raised e
    | ok found =>
      cases found with
      | none => exact .lacking (missingPart_kind t v part) (missingPart_kind u v part)
      | some w => exact ih w

/-- following a path imports nothing -/
theorem follow_importing (importModule' : String → Except Fault Nat) (path : List String)
    (v : Value) : follow { r with importModule := importModule' } t path v = r.follow t path v := by
  induction path generalizing v with
  | nil => rfl
  | cons part path ih =>
    unfold follow
    dsimp only
    cases r.attributeOf v part with
    | error e => rfl
    | ok found =>
      cases found with
      | none => rfl
      | some w => exact ih w

/-- a module and a path on both sides of a colon -/
theorem target_colon {name : String} (hname : ':' ∉ name.toList) (path : String) :
    r.target (name ++ ":" ++ path) = (do
      let m ← r.importModule name
      r.follow (name ++ ":" ++ path) (pathParts path) (.module m)) := by
  have hchars : (name ++ ":" ++ path).toList = name.toList ++ ':' :: path.toList := by
    rw [String.toList_append, String.toList_append, List.append_assoc]
    rfl
  have hne : ∀ c ∈ name.toList, (c != ':') = true := fun c hc =>
    bne_iff_ne.mpr fun h => hname (h ▸ hc)
  have hbefore : (name.toList ++ ':' :: path.toList).takeWhile (· != ':') = name.toList := by
    rw [List.takeWhile_append_of_pos hne]
    exact List.append_nil _
  have hafter : (name.toList ++ ':' :: path.toList).dropWhile (· != ':') = ':' :: path.toList :=
    List.dropWhile_append_of_pos hne
  have hcolon : (name.toList ++ ':' :: path.toList).contains ':' = true :=
    List.contains_iff_mem.mpr (List.mem_append_right _ List.mem_cons_self)
  unfold target
  simp only [hchars, hcolon, if_true, hbefore, hafter, String.ofList_toList, List.drop_succ_cons,
    List.drop_zero]

theorem not_mem_leading {c : Char} (hc : c ∉ t.toList) (i : Nat) (hi : 1 ≤ i)
    (hle : i ≤ (parts '.' t).length) : c ∉ (leading t i).toList := by
  intro hmem
  rcases Nat.eq_or_lt_of_le hle with rfl | hlt
  · rw [leading_length] at hmem
    exact hc hmem
  · rw [leading_append_trailing hi hlt, String.toList_append, String.toList_append] at hc
    exact hc (List.mem_append_left _ (List.mem_append_left _ hmem))

/-- which imports miss a module is a matter of these imports alone -/
theorem Misses.congr {r' : Resolver}
    (h : r'.importModule (leading t i) = r.importModule (leading t i)) :
    r'.Misses t i ↔ r.Misses t i := by
  unfold Misses
  rw [h]

theorem Tells.congr {r' : Resolver} (h : r.Tells t i)
    (hagree : r'.importModule (leading t i) = r.importModule (leading t i)) : r'.Tells t i :=
  fun e he => h e (hagree.symm.trans he)

theorem Longest.congr {r' : Resolver} (h : r.Longest t i)
    (hagree : ∀ k, i ≤ k → k ≤ (parts '.' t).length →
      r'.importModule (leading t k) = r.importModule (leading t k)) : r'.Longest t i where
  pos := h.pos
  le := h.le
  reached := fun hmiss => h.reached ((Misses.congr (hagree i (Nat.le_refl _) h.le)).mp hmiss)
  missed := fun k hik hk => (Misses.congr (hagree k (Nat.le_of_lt hik) hk)).mpr (h.missed k hik hk)

/-- imports from a list of modules tell which one they miss -/
theorem exists_of_importParts {i : Importable} {ps : List String} {e : Fault}
    (h : i.importParts ps = .error e) (hkind : e.kind = .missingModule) :
    ∃ name text, e = .missingModule (some name) text := by
  induction ps with
  | nil =>
    obtain rfl := Except.error.inj h
    exact nomatch hkind
  | cons part parents ih =>
    unfold Importable.importParts at h
    dsimp only at h
    split at h
    · exact nomatch h
    · split at h
      · obtain rfl := Except.error.inj h
        unfold Importable.locate at hkind ⊢
        split at hkind
        · exact ⟨_, _, rfl⟩
        · exact nomatch hkind
        · exact ⟨_, _, rfl⟩
      · cases hmore : i.importParts parents with
        | error e' =>
          rw [hmore] at h
          obtain rfl := Except.error.inj h
          exact ih hmore
        | ok m =>
          rw [hmore] at h
          obtain rfl := Except.error.inj h
          exact ⟨_, _, rfl⟩

theorem tells_importModule (i : Importable) (hr : r.importModule = i.importModule) (t : String)
    (k : Nat) : r.Tells t k := by
  intro e h hkind
  rw [hr] at h
  unfold Importable.importModule at h
  split at h
  · obtain rfl := Except.error.inj h
    exact nomatch hkind
  · split at h
    · obtain rfl := Except.error.inj h
      exact nomatch hkind
    · exact exists_of_importParts h hkind

/-! ## The outcome of a dotted target -/

theorem target_dotted_eq (hcolon : ':' ∉ t.toList)
    (hbound : 2 ≤ (parts '.' t).length ∨ r.attributeOf (.module r.builtins) t = .ok none) :
    r.target t = r.longestModule t (parts '.' t) (parts '.' t).length := by
  have hfree : r.alwaysBound (parts '.' t) t = .ok none := by
    unfold alwaysBound
    split
    · next hone => exact hbound.resolve_left (by omega)
    · rfl
  unfold target
  rw [if_neg fun h => hcolon (List.contains_iff_mem.mp h)]
  dsimp only
  rw [hfree]
  rfl

/-- the import that decides gives the module that the rest of the target is followed from, as if it
stood before a colon, or the fault of the target; the imports of fewer parts do not matter.  Imports
have to tell which module they miss. -/
theorem target_dotted (r : Resolver) {t : String} (hcolon : ':' ∉ t.toList)
    (hbound : 2 ≤ (parts '.' t).length ∨ r.attributeOf (.module r.builtins) t = .ok none)
    (htells : ∀ i, 1 ≤ i → i ≤ (parts '.' t).length → r.Tells t i) :
    (∀ i, r.Longest t i →
      (∀ m, r.importModule (leading t i) = .ok m →
        r.target t = r.follow t (((parts '.' t).drop i).filter (· != "")) (.module m)
          ∧ SameOutcome (r.target t) (r.target (leading t i ++ ":" ++ trailing t i)))
      ∧ (∀ e, r.importModule (leading t i) = .error e → r.target t = .error e)
      ∧ (∀ importModule' : String → Except Fault Nat,
          (∀ k, i ≤ k → k ≤ (parts '.' t).length →
            importModule' (leading t k) = r.importModule (leading t k)) →
          Resolver.target { r with importModule := importModule' } t = r.target t))
    ∧ ((∀ i, ¬ r.Longest t i) → r.target t = .error (.unresolved (Text.quoted t))) := by
  rw [target_dotted_eq hcolon hbound]
  have hdecides : ∀ i, r.Longest t i →
      r.longestModule t (parts '.' t) (parts '.' t).length = r.probed t i :=
    fun i h => longestModule_of_longest h (htells i h.pos h.le)
  refine ⟨fun i h => ⟨fun m hm => ?_, fun e he => ?_, fun importModule' hagree => ?_⟩, fun h => ?_⟩
  · have hfollow : r.longestModule t (parts '.' t) (parts '.' t).length
        = r.follow t (((parts '.' t).drop i).filter (· != "")) (.module m) := by
      rw [hdecides i h, probed, hm]
      rfl
    refine ⟨hfollow, ?_⟩
    rw [hfollow, target_colon (not_mem_leading hcolon i h.pos h.le), hm, pathParts_trailing]
    exact follow_sameOutcome t _ _ _
  · rw [hdecides i h, probed, he]
    rfl
  · let r' : Resolver := { r with importModule := importModule' }
    have hlongest : r'.Longest t i := h.congr hagree
    have htells' : r'.Tells t i :=
      (htells i h.pos h.le).congr (hagree i (Nat.le_refl _) h.le)
    have hprobed : r'.probed t i = r.probed t i := by
      unfold probed
      rw [show r'.importModule (leading t i) = r.importModule (leading t i) from
        hagree i (Nat.le_refl _) h.le]
      cases r.importModule (leading t i) with
      | error e => rfl
      | ok m => exact follow_importing importModule' _ _
    rw [target_dotted_eq (r := r') hcolon hbound, longestModule_of_longest hlongest htells', hprobed,
      hdecides i h]
  · rw [longestModule_of_misses (Nat.zero_le _) (Nat.le_refl _) fun k hk hle =>
      misses_of_not_longest h hk hle]
    rfl

/-- a module with a path after it, a module that misses another one, and no module at all -/
theorem target_besideBroken :
    let r := Session.resolver
      { importable := ⟨[("builtins", 0), ("a", 1)], [("broken", some "other")]⟩ }
    SameOutcome (r.target "a..b.c") (r.target "a:.b.c")
      ∧ r.target "broken.b" = .error (.missingModule (some "other") "No module named 'other'")
      ∧ r.target "c.d" = .error (.unresolved "'c.d'") := by
  intro r
  have hlongest : r.Longest "a..b.c" 1 := by
    refine ⟨Nat.le_refl _, by decide +kernel, nofun, fun k hk hle => ?_⟩
    have hcases : k = 2 ∨ k = 3 ∨ k = 4 := by
      have hlength : (parts '.' "a..b.c").length = 4 := by decide +kernel
      omega
    rcases hcases with rfl | rfl | rfl <;> exact ⟨2, _, by decide, by decide, rfl⟩
  have hbroken : r.Longest "broken.b" 2 := by
    refine ⟨by decide, by decide +kernel, ?_, fun k hk hle => ?_⟩
    · rintro ⟨j, text, hj, hle, himport⟩
      have hother : "other" = leading "broken.b" j :=
        Option.some.inj (Fault.missingModule.inj (Except.error.inj himport)).1
      obtain rfl | rfl : j = 1 ∨ j = 2 := by omega
      · exact absurd hother (by decide +kernel)
      · exact absurd hother (by decide +kernel)
    · have hlength : (parts '.' "broken.b").length = 2 := by decide +kernel
      omega
  have hmissing : ∀ i, ¬ r.Longest "c.d" i := by
    intro i h
    have hlength : (parts '.' "c.d").length = 2 := by decide +kernel
    have hle := h.le
    have hpos := h.pos
    obtain rfl | rfl : i = 1 ∨ i = 2 := by omega
    · exact h.reached ⟨1, _, by decide, by decide, rfl⟩
    · exact h.reached ⟨1, _, by decide, by decide, rfl⟩
  have htells : ∀ (t : String) (i : Nat), 1 ≤ i → i ≤ (parts '.' t).length → r.Tells t i :=
    fun t i _ _ => tells_importModule _ rfl t i
  refine ⟨?_, ?_, ?_⟩
  · exact (((target_dotted r (by decide +kernel) (.inl (by decide +kernel)) (htells _)).1 1
      hlongest).1 1 rfl).2
  · exact ((target_dotted r (by decide +kernel) (.inl (by decide +kernel)) (htells _)).1 2
      hbroken).2.1 _ rfl
  · exact (target_dotted r (by decide +kernel) (.inl (by decide +kernel)) (htells _)).2 hmissing

end Resolver

end Introspect
