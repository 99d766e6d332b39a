import Introspect.Proofs.Hierarchy.Primary
import Introspect.Session.Inspections

/-!
# Questions about the classes above a class or a value

* `Session.supertypes_answered`   what is listed above a class, and above a value: the chain of
                                  primary bases, with the class of the value in front.
-/

namespace Introspect.Session

/-- above a class stands what going up from base to base passes by: nothing for the root, and for any
other class its primary base and all that is above that, down to the root, each once, and in the order
in which the class is resolved; above a value stand its class and what is above that, unless the value
refuses to be examined -/
theorem supertypes_answered {s : Session} (hm : s.hierarchy.Made) (hr : s.hierarchy.Rooted) :
    (∀ c : ClassId, c.index < s.hierarchy.size →
      typeAnswerOf s .supertypes (.cls c)
          = .ok (classNames s.hierarchy (s.hierarchy.supertypes c))
        ∧ (∃ n, s.hierarchy.supertypes c
              = (List.range n).map (fun k => s.hierarchy.supertype^[k + 1] c)
            ∧ (∀ k < n, s.hierarchy.supertype^[k + 1] c ≠ s.hierarchy.supertype^[k] c)
            ∧ s.hierarchy.supertype^[n + 1] c = s.hierarchy.supertype^[n] c)
        ∧ (s.hierarchy.supertypes c = [] ↔ c = .object)
        ∧ (c ≠ .object →
          s.hierarchy.supertypes c
              = s.hierarchy.supertype c :: s.hierarchy.supertypes (s.hierarchy.supertype c)
            ∧ (s.hierarchy.supertypes c).getLast? = some .object)
        ∧ (s.hierarchy.supertypes c).Nodup
        ∧ ∃ order, s.hierarchy.mro c = c :: order ∧ (s.hierarchy.supertypes c).Sublist order)
      ∧ ∀ v : Value, (∀ c, v ≠ .cls c) →
        typeAnswerOf s .supertypes v = if v.refuses s.hierarchy then .error .refused
          else .ok (classNames s.hierarchy (v.classOf s.hierarchy
            :: s.hierarchy.supertypes (v.classOf s.hierarchy))) := by
  refine ⟨fun c hc => ⟨rfl, hm.exists_rounds c, ?_, fun hne => ⟨?_,
    hm.getLast?_supertypes hr hc hne⟩, hm.nodup_supertypes c, hm.supertypes_sublist hc⟩,
    fun v hv => ?_⟩
  · rw [← hm.primary_eq_none_iff hr hc]
    cases hp : (s.hierarchy.info c).primary with
    | none => exact iff_of_true (Hierarchy.supertypes_of_none hp) rfl
    | some p =>
      rw [hm.supertypes_of_some hp]
      exact iff_of_false nofun nofun
  · cases hp : (s.hierarchy.info c).primary with
    | none => exact absurd ((hm.primary_eq_none_iff hr hc).mp hp) hne
    | some p =>
      have hup : s.hierarchy.supertype c = p := congrArg (Option.getD · c) hp
      rw [hup]
      exact hm.supertypes_of_some hp
  · cases v with
    | cls c => exact absurd rfl (hv c)
    | _ => rfl

/-- a class with two bases, and a value that refuses to be examined -/
theorem supertypes_answered_intEnum :
    let h := Hierarchy.baseOf 74
    (h.info .intEnum).bases = [.int, .reprEnum]
      ∧ h.supertypes .intEnum = [.int, .object]
      ∧ (∃ order, h.mro .intEnum = .intEnum :: order ∧ (h.supertypes .intEnum).Sublist order)
      ∧ typeAnswerOf { hierarchy := h } .supertypes (.instanceOf .hostileSample 0)
          = .error .refused := by
  have hanswered := supertypes_answered (s := { hierarchy := Hierarchy.baseOf 74 })
    (by dsimp only; exact Hierarchy.made_baseOf 74)
    (by dsimp only; exact Hierarchy.rooted_baseOf 74)
  -- the hierarchy of the session is put in place, before it is compared by unfolding
  dsimp only at hanswered
  have hresolved := (hanswered.1 .intEnum (by decide +kernel)).2.2.2.2.2
  have hrefuses : (Value.instanceOf .hostileSample 0).refuses (Hierarchy.baseOf 74) = true := by
    decide +kernel
  refine ⟨by decide +kernel, by decide +kernel, hresolved, ?_⟩
  rw [hanswered.2 (.instanceOf .hostileSample 0) nofun, if_pos hrefuses]

end Introspect.Session
