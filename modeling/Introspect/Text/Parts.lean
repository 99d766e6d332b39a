/-!
# The parts of a text

* `parts`                        what stands between the separators of a text;
* `intercalate_parts`            put together again, the parts are the text;
* `parts_intercalate`            texts without the separator are the parts of what they make;
* `parts_append`                 the parts on both sides of a separator.
-/

namespace Introspect.Text

def parts (separator : Char) (text : String) : List String :=
  (text.toList.splitOn separator).map String.ofList

theorem parts_ne_nil (separator : Char) (text : String) : parts separator text ≠ [] := by
  unfold parts
  rw [ne_eq, List.map_eq_nil_iff]
  exact List.splitOn_ne_nil separator text.toList

theorem toList_parts (separator : Char) (text : String) :
    (parts separator text).map String.toList = text.toList.splitOn separator := by
  unfold parts
  rw [List.map_map]
  exact List.map_id'' (fun _ => String.toList_ofList) _

/-- the texts put together with a separator between them, as characters -/
theorem toList_intercalate_singleton (separator : Char) (texts : List String) :
    ((String.singleton separator).intercalate texts).toList
      = [separator].intercalate (texts.map String.toList) := by
  rw [String.toList_intercalate, String.toList_singleton]

theorem intercalate_parts (separator : Char) (text : String) :
    (String.singleton separator).intercalate (parts separator text) = text := by
  rw [← String.toList_inj, toList_intercalate_singleton, toList_parts, List.intercalate_splitOn]

theorem parts_intercalate {separator : Char} {texts : List String} (hne : texts ≠ [])
    (hfree : ∀ t ∈ texts, separator ∉ t.toList) :
    parts separator ((String.singleton separator).intercalate texts) = texts := by
  have hchars : ∀ cs ∈ texts.map String.toList, separator ∉ cs := by
    intro cs hcs
    obtain ⟨t, ht, rfl⟩ := List.mem_map.mp hcs
    exact hfree t ht
  unfold parts
  rw [toList_intercalate_singleton, List.splitOn_intercalate separator hchars
    (fun h => hne (List.map_eq_nil_iff.mp h)), List.map_map]
  exact List.map_id'' (fun _ => String.ofList_toList) _

theorem parts_append (separator : Char) (first second : String) :
    parts separator (first ++ String.singleton separator ++ second)
      = parts separator first ++ parts separator second := by
  unfold parts
  rw [String.toList_append, String.toList_append, String.toList_singleton, List.append_assoc,
    List.singleton_append]
  exact (congrArg _ (List.splitOnP_append_cons (p := (· == separator)) _ _
    (beq_self_eq_true separator))).trans List.map_append

/-- a part does not hold the separator -/
theorem not_mem_of_mem_splitOn {c : Char} {cs part : List Char} (h : part ∈ cs.splitOn c) :
    c ∉ part := by
  induction cs generalizing part with
  | nil =>
    rw [List.splitOn_nil, List.mem_singleton] at h
    rw [h]
    exact List.not_mem_nil
  | cons d ds ih =>
    rw [List.splitOn_cons_eq_if_modifyHead] at h
    split at h
    · rcases List.mem_cons.mp h with rfl | h
      · exact List.not_mem_nil
      · exact ih h
    · next hne =>
      obtain ⟨first, rest, hsplit⟩ := List.exists_cons_of_ne_nil (List.splitOn_ne_nil c ds)
      rw [hsplit] at ih h
      rcases List.mem_cons.mp h with rfl | h
      · intro hc
        rcases List.mem_cons.mp hc with rfl | hc
        · exact hne (beq_self_eq_true _)
        · exact ih List.mem_cons_self hc
      · exact ih (List.mem_cons_of_mem _ h)

theorem not_mem_of_mem_parts {separator : Char} {text part : String}
    (h : part ∈ parts separator text) : separator ∉ part.toList := by
  obtain ⟨cs, hcs, rfl⟩ := List.mem_map.mp h
  rw [String.toList_ofList]
  exact not_mem_of_mem_splitOn hcs

end Introspect.Text
