import Introspect.Proofs.Acting
import Introspect.Proofs.Targets.Prefixes

/-!
# How targets cannot be resolved

In an ordinary world imports and attributes fail in one way each: something is missing.  Targets
then fail in the same ways, and in two more: some names are refused before anything is looked for.

* `IsAbsolute`, `NameFault`      the names that are looked for, and the faults of the other ones;
* `OrdinaryImports`              imports that fail because something is missing;
* `Importable.ordinaryImports`   so they do where no module is broken;
* `Resolver.Reachable`, `Resolver.Ordinary`  values that attributes lead to; worlds where attributes
                                 fail because they are missing;
* `Resolver.target_ends`, `Resolver.classTarget_ends`, `Resolver.parseSignature_ends`  what comes of
                                 the three sorts of targets.
-/

namespace Introspect

open Text (parts)

/-! ## Names of modules -/

/-- a name that is looked for: it is there and does not start with a dot -/
def IsAbsolute (name : String) : Prop := ∃ c cs, name.toList = c :: cs ∧ c ≠ '.'

/-- the faults of the other names -/
inductive NameFault (name : String) : Fault → Prop where
  | empty (h : name = "") : NameFault name .emptyModuleName
  | relative (h : name.toList.head? = some '.') :
    NameFault name (.relativeModuleName (Text.quoted name))

/-- imports miss a module on the way to the one that is wanted, or are refused for their names -/
structure OrdinaryImports (importModule : String → Except Fault Nat) : Prop where
  empty : importModule "" = .error .emptyModuleName
  relative : ∀ name, name.toList.head? = some '.' →
    importModule name = .error (.relativeModuleName (Text.quoted name))
  absolute : ∀ name e, IsAbsolute name → importModule name = .error e →
    ∃ j text, 1 ≤ j ∧ j ≤ (parts '.' name).length ∧ e = .missingModule (some (leading name j)) text

variable {name t : String} {i : Nat}

theorem empty_or_relative_or_absolute (name : String) :
    name = "" ∨ name.toList.head? = some '.' ∨ IsAbsolute name := by
  cases hname : name.toList with
  | nil => exact .inl (String.toList_eq_nil_iff.mp hname)
  | cons c cs =>
    by_cases hc : c = '.'
    · exact .inr (.inl (congrArg some hc))
    · exact .inr (.inr ⟨c, cs, hname, hc⟩)

theorem IsAbsolute.leading (h : IsAbsolute t) (hi : 1 ≤ i) (hle : i ≤ (parts '.' t).length) :
    IsAbsolute (leading t i) := by
  rcases Nat.eq_or_lt_of_le hle with rfl | hlt
  · rwa [leading_length]
  · obtain ⟨c, cs, ht, hc⟩ := h
    rw [leading_append_trailing hi hlt, String.toList_append, String.toList_append] at ht
    cases hlead : (Introspect.leading t i).toList with
    | nil =>
      rw [hlead] at ht
      exact absurd (List.cons.inj ht).1.symm hc
    | cons d ds =>
      rw [hlead] at ht
      exact ⟨d, ds, hlead, (List.cons.inj ht).1 ▸ hc⟩

namespace OrdinaryImports

variable {importModule : String → Except Fault Nat}

theorem refused (h : OrdinaryImports importModule) (hname : ¬ IsAbsolute name) :
    ∃ e, NameFault name e ∧ importModule name = .error e := by
  rcases empty_or_relative_or_absolute name with rfl | hrel | habs
  · exact ⟨_, .empty rfl, h.empty⟩
  · exact ⟨_, .relative hrel, h.relative name hrel⟩
  · exact absurd habs hname

/-- what comes of an import -/
theorem ends (h : OrdinaryImports importModule) (name : String) :
    Ends (fun m => importModule name = .ok m)
      (fun e => NameFault name e ∨ e.kind = .missingModule) (importModule name) := by
  cases himport : importModule name with
  | ok m => exact .ok rfl
  | error e =>
    by_cases hname : IsAbsolute name
    · obtain ⟨j, text, -, -, rfl⟩ := h.absolute name e hname himport
      exact .error (.inr rfl)
    · obtain ⟨e', he', himport'⟩ := h.refused hname
      obtain rfl := Except.error.inj (himport'.symm.trans himport)
      exact .error (.inl he')

end OrdinaryImports

namespace Importable

/-- without broken modules, an import misses the module that is wanted or one on the way -/
theorem missing_of_importParts {i : Importable} (hi : i.broken = []) {ps : List String}
    (hps : ps ≠ []) {e : Fault} (h : i.importParts ps = .error e) :
    ∃ j text, 1 ≤ j ∧ j ≤ ps.length
      ∧ e = .missingModule (some (".".intercalate (ps.reverse.take j))) text := by
  induction ps with
  | nil => exact absurd rfl hps
  | cons part parents ih =>
    have hwhole : ∃ j, 1 ≤ j ∧ j ≤ (part :: parents).length
        ∧ (part :: parents).reverse.take j = (part :: parents).reverse :=
      ⟨_, Nat.le_add_left 1 parents.length, Nat.le_refl _,
        List.take_of_length_le (Nat.le_of_eq List.length_reverse)⟩
    obtain ⟨j, hj, hle, hwhole⟩ := hwhole
    unfold importParts at h
    dsimp only at h
    split at h
    · exact nomatch h
    · split at h
      · obtain rfl := Except.error.inj h
        unfold locate
        rw [hi]
        exact ⟨j, _, hj, hle, by rw [hwhole]; rfl⟩
      · next hparents =>
        cases hmore : i.importParts parents with
        | ok m =>
          rw [hmore] at h
          obtain rfl := Except.error.inj h
          exact ⟨j, _, hj, hle, by rw [hwhole]; rfl⟩
        | error e' =>
          rw [hmore] at h
          obtain rfl := Except.error.inj h
          obtain ⟨j, text, hj, hle, rfl⟩ := ih (fun hnil => hparents (hnil ▸ rfl)) hmore
          refine ⟨j, text, hj, Nat.le_succ_of_le hle, ?_⟩
          rw [List.reverse_cons, List.take_append_of_le_length]
          rwa [List.length_reverse]

theorem ordinaryImports {i : Importable} (hi : i.broken = []) :
    OrdinaryImports i.importModule where
  empty := rfl
  relative := by
    intro name hrel
    have hne : name ≠ "" := by
      rintro rfl
      exact nomatch hrel
    unfold importModule
    rw [if_neg hne, if_pos hrel]
  absolute := by
    rintro name e ⟨c, cs, hname, hc⟩ h
    have hne : name ≠ "" := by
      rintro rfl
      exact nomatch hname
    have hhead : name.toList.head? ≠ some '.' := by
      rw [hname]
      exact fun hdot => hc (Option.some.inj hdot)
    unfold importModule at h
    rw [if_neg hne, if_neg hhead] at h
    obtain ⟨j, text, hj, hle, rfl⟩ := missing_of_importParts hi
      (fun hnil => Text.parts_ne_nil '.' name (List.reverse_eq_nil_iff.mp hnil)) h
    rw [List.length_reverse] at hle
    rw [List.reverse_reverse]
    exact ⟨j, text, hj, hle, rfl⟩

end Importable

namespace Resolver

/-- the values that attributes lead to from modules -/
inductive Reachable (r : Resolver) : Value → Prop where
  | imported {name : String} {m : Nat} (h : r.importModule name = .ok m) : Reachable r (.module m)
  | builtins : Reachable r (.module r.builtins)
  | attribute {v w : Value} {name : String} (hv : Reachable r v)
    (h : r.attributeOf v name = .ok (some w)) : Reachable r w

/-- imports and attributes fail because something is missing -/
structure Ordinary (r : Resolver) : Prop where
  imports : OrdinaryImports r.importModule
  attributes : ∀ v name e, r.Reachable v → r.attributeOf v name ≠ .error e

/-- the faults of targets in an ordinary world: the name of its module is refused, or a module or an
attribute is missing -/
def TargetFault (name : String) (e : Fault) : Prop :=
  NameFault name e ∨ e.kind.isImport = true ∨ e.kind = .attribute

variable {r : Resolver}

theorem follow_ends (hr : r.Ordinary) (t : String) (path : List String) {v : Value}
    (hv : r.Reachable v) : Ends r.Reachable (·.kind = .attribute) (r.follow t path v) := by
  induction path generalizing v with
  | nil => exact .ok hv
  | cons part path ih =>
    unfold follow
    cases hpart : r.attributeOf v part with
    | error e => exact absurd hpart (hr.attributes v part e hv)
    | ok found =>
      cases found with
      | none => exact .error (missingPart_kind t v part)
      | some w => exact ih (.attribute hv hpart)

/-- the text of a target before its first colon -/
def moduleText (t : String) : String := String.ofList (t.toList.takeWhile (· != ':'))

theorem moduleText_of_not_mem (h : ':' ∉ t.toList) : moduleText t = t := by
  have hall : ∀ c ∈ t.toList, (c != ':') = true := fun c hc =>
    bne_iff_ne.mpr fun heq => h (heq ▸ hc)
  have htake : (t.toList ++ []).takeWhile (· != ':') = t.toList ++ [].takeWhile (· != ':') :=
    List.takeWhile_append_of_pos hall
  rw [List.append_nil, List.takeWhile_nil, List.append_nil] at htake
  rw [moduleText, htake, String.ofList_toList]

/-- a text that is refused as a name ends the search at once -/
theorem longestModule_of_refused {e : Fault} (he : NameFault t e)
    (h : r.importModule t = .error e) :
    r.longestModule t (parts '.' t) (parts '.' t).length = .error e := by
  have hlongest : r.Longest t (parts '.' t).length := by
    refine ⟨List.length_pos_iff.mpr (Text.parts_ne_nil '.' t), Nat.le_refl _, ?_,
      fun k hk hle => absurd hk (Nat.not_lt.mpr hle)⟩
    rintro ⟨j, text, -, -, hmiss⟩
    rw [leading_length] at hmiss
    obtain rfl := Except.error.inj (h.symm.trans hmiss)
    exact nomatch he
  have htells : r.Tells t (parts '.' t).length := by
    intro e' he' hkind
    rw [leading_length] at he'
    obtain rfl := Except.error.inj (h.symm.trans he')
    cases he <;> exact nomatch hkind
  rw [longestModule_of_longest hlongest htells, probed, leading_length, h]
  rfl

theorem Ordinary.misses (hr : r.Ordinary) (ht : IsAbsolute t) (hi : 1 ≤ i)
    (hle : i ≤ (parts '.' t).length) {e : Fault} (h : r.importModule (leading t i) = .error e) :
    r.Misses t i := by
  obtain ⟨j, text, hj, hji, rfl⟩ := hr.imports.absolute _ e (ht.leading hi hle) h
  rw [parts_leading hi, List.length_take, Nat.min_eq_left hle] at hji
  rw [leading_leading hi hji] at h
  exact ⟨j, text, hj, hji, h⟩

/-- the search in a dotted text -/
theorem longestModule_ends (hr : r.Ordinary) (t : String) :
    Ends r.Reachable (TargetFault t) (r.longestModule t (parts '.' t) (parts '.' t).length) := by
  by_cases ht : IsAbsolute t
  · by_cases hfound : ∃ i, r.Longest t i
    · obtain ⟨i, hlongest⟩ := hfound
      have hfails : ∀ e, r.importModule (leading t i) ≠ .error e := fun e himport =>
        hlongest.reached (hr.misses ht hlongest.pos hlongest.le himport)
      rw [longestModule_of_longest hlongest fun e he => absurd he (hfails e), probed]
      cases himport : r.importModule (leading t i) with
      | ok m =>
        exact (follow_ends hr t _ (.imported himport)).mono fun e he => .inr (.inr he)
      | error e => exact absurd himport (hfails e)
    · rw [longestModule_of_misses (Nat.zero_le _) (Nat.le_refl _) fun k hk hle =>
        misses_of_not_longest (not_exists.mp hfound) hk hle]
      exact .error (.inr (.inl rfl))
  · obtain ⟨e, he, himport⟩ := hr.imports.refused ht
    rw [longestModule_of_refused he himport]
    exact .error (.inl he)

theorem target_ends (hr : r.Ordinary) (t : String) :
    Ends r.Reachable (TargetFault (moduleText t)) (r.target t) := by
  unfold target
  dsimp only
  split
  · refine ((hr.imports.ends (moduleText t)).mono fun e he => ?_).bind fun m hm => ?_
    · refine he.imp_right fun hkind => .inl ?_
      rw [hkind]
      rfl
    · exact (follow_ends hr t _ (.imported hm)).mono fun e he => .inr (.inr he)
  · next hcolon =>
    rw [moduleText_of_not_mem fun h => hcolon (List.contains_iff_mem.mpr h)]
    unfold alwaysBound
    split
    · cases hbound : r.attributeOf (.module r.builtins) t with
      | error e => exact absurd hbound (hr.attributes _ t e .builtins)
      | ok found =>
        cases found with
        | none => exact longestModule_ends hr t
        | some v => exact .ok (.attribute .builtins hbound)
    · exact longestModule_ends hr t

/-- a target whose module is refused for its name; the empty text might be bound, though -/
theorem target_of_refused {e : Fault} (he : NameFault (moduleText t) e)
    (h : r.importModule (moduleText t) = .error e)
    (hbound : t = "" → r.attributeOf (.module r.builtins) "" = .ok none) :
    r.target t = .error e := by
  by_cases hcolon : ':' ∈ t.toList
  · unfold target
    dsimp only
    rw [if_pos (List.contains_iff_mem.mpr hcolon)]
    exact congrArg (· >>= _) h
  · rw [moduleText_of_not_mem hcolon] at he h
    rw [target_dotted_eq hcolon ?_, longestModule_of_refused he h]
    -- a text without a dot is refused only if it is empty
    cases he with
    | empty hempty => exact .inr (hempty ▸ hbound hempty)
    | relative hdot =>
      refine .inl (Nat.lt_of_not_le fun hle => ?_)
      obtain ⟨part, hparts⟩ := List.length_eq_one_iff.mp (Nat.le_antisymm hle
        (List.length_pos_iff.mpr (Text.parts_ne_nil '.' t)))
      have htext := Text.intercalate_parts '.' t
      rw [hparts, String.intercalate_singleton] at htext
      subst htext
      have hmem : part ∈ parts '.' part := by
        rw [hparts]
        exact List.mem_singleton_self part
      exact Text.not_mem_of_mem_parts hmem (List.mem_of_mem_head? hdot)

theorem classTarget_of_error {e : Fault} (h : r.target t = .error e) :
    r.classTarget t = .error e := by
  unfold classTarget
  rw [h]
  rfl

/-- the value of a target is shown to be a class or not, but is not examined further -/
theorem classTarget_ends (hr : r.Ordinary) (t : String) :
    Ends (fun _ => True) (fun e => TargetFault (moduleText t) e ∨ e.kind = .type)
      (r.classTarget t) := by
  unfold classTarget
  refine ((target_ends hr t).mono fun e he => .inl he).bind fun v hv => ?_
  split
  · exact .ok trivial
  · cases hclass : r.attributeOf v "__class__" with
    | error e => exact absurd hclass (hr.attributes v _ e hv)
    | ok found => exact .error (.inr rfl)

/-- the texts of the classes of a signature -/
def signatureParts (text : String) : List String :=
  ((parts ',' text).map Text.trim).filter (· != "")

theorem parseSignature_ends (hr : r.Ordinary) (text : String) :
    Ends (fun _ => True)
      (fun e => ∃ part ∈ signatureParts text, TargetFault (moduleText part) e ∨ e.kind = .type)
      (r.parseSignature text) := by
  refine Ends.mapM fun part hpart => Ends.map Value.cls ((classTarget_ends hr part).mono ?_)
  exact fun e he => ⟨part, hpart, he⟩

end Resolver

end Introspect
