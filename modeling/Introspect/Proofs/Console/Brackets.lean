import Introspect.Dispatch.Store
import Introspect.Proofs.Console.Verbatim
import Mathlib.Data.List.Basic

/-!
# Methods and variants as texts with markup

The display of a method has its optional parameters between brackets, and markup takes such a
bracket for a tag when the name inside of it begins as a tag does.  Nothing else in the displays of
methods and variants has a role in markup, as long as their names have none.

* `Markup.IsPlain`           a text without characters that have a role;
* `Markup.Closed`            a text that leaves no tag open, and of which only tags are not shown;
* `Closed.intercalate`       texts that are closed, with a plain one between them, are closed;
* `Method.literal_text_iff`  the methods that are shown as they are;
* `Store.literal_variant`    variants are shown as they are.
-/

namespace Introspect

namespace Markup

/-! ## Closed texts -/

/-- characters that are shown as they are, unless they belong to a tag -/
def isTame (c : Char) : Bool := c != '\\' && c != ':' && !isCursorControl c

def IsPlain (cs : List Char) : Prop := (cs.all fun c => isTame c && c != '[' && c != ']') = true

instance (cs : List Char) : Decidable (IsPlain cs) := inferInstanceAs (Decidable (_ = true))

structure Closed (cs : List Char) : Prop where
  tame : ∀ c ∈ cs, isTame c = true
  hasTag_append : ∀ after, HasTag (cs ++ after) ↔ HasTag cs ∨ HasTag after

theorem literal_iff_of_closed {cs : List Char} (h : Closed cs) : Literal cs ↔ ¬ HasTag cs := by
  have htame : ∀ c ∈ cs, c ≠ '\\' ∧ c ≠ ':' ∧ isCursorControl c = false := by
    intro c hc
    have hcs := h.tame c hc
    rw [isTame, Bool.and_eq_true, Bool.and_eq_true, bne_iff_ne, bne_iff_ne,
      Bool.not_eq_true'] at hcs
    exact ⟨hcs.1.1, hcs.1.2, hcs.2⟩
  refine ⟨Literal.noTag, fun hnot => ⟨hnot, ?_, ?_, fun c hc => (htame c hc).2.2⟩⟩
  · rintro ⟨before, after, rfl⟩
    exact (htame '\\' (List.mem_append_right _ List.mem_cons_self)).1 rfl
  · exact Console.showPictures_of_not_mem fun hc => (htame ':' hc).2.1 rfl

theorem hasTag_append_of_not_mem {cs : List Char} (h : '[' ∉ cs) (after : List Char) :
    HasTag (cs ++ after) ↔ HasTag after := by
  induction cs with
  | nil => exact Iff.rfl
  | cons c cs ih =>
    obtain ⟨hc, hcs⟩ := not_or.mp (mt List.mem_cons.mpr h)
    rw [List.cons_append, hasTag_cons, if_neg (Ne.symm hc), ih hcs]
    exact or_iff_right fun hnot => hnot rfl

theorem not_hasTag_of_not_mem {cs : List Char} (h : '[' ∉ cs) : ¬ HasTag cs := by
  rw [← List.append_nil cs, hasTag_append_of_not_mem h]
  exact not_hasTag_nil

theorem IsPlain.tame {cs : List Char} (h : IsPlain cs) : ∀ c ∈ cs, isTame c = true := fun c hc =>
  (Bool.and_eq_true_iff.mp (Bool.and_eq_true_iff.mp (List.all_eq_true.mp h c hc)).1).1

theorem IsPlain.not_mem_open {cs : List Char} (h : IsPlain cs) : '[' ∉ cs := fun hc =>
  nomatch List.all_eq_true.mp h '[' hc

theorem IsPlain.not_mem_close {cs : List Char} (h : IsPlain cs) : ']' ∉ cs := fun hc =>
  nomatch List.all_eq_true.mp h ']' hc

theorem IsPlain.not_hasTag {cs : List Char} (h : IsPlain cs) : ¬ HasTag cs :=
  not_hasTag_of_not_mem h.not_mem_open

namespace Closed

theorem of_isPlain {cs : List Char} (h : IsPlain cs) : Closed cs where
  tame := h.tame
  hasTag_append after := by
    rw [hasTag_append_of_not_mem h.not_mem_open, or_iff_right h.not_hasTag]

theorem append {cs ds : List Char} (hcs : Closed cs) (hds : Closed ds) : Closed (cs ++ ds) where
  tame c hc := (List.mem_append.mp hc).elim (hcs.tame c) (hds.tame c)
  hasTag_append after := by
    rw [List.append_assoc, hcs.hasTag_append, hds.hasTag_append, hcs.hasTag_append, or_assoc]

theorem intercalate {sep : List Char} (hsep : IsPlain sep) {parts : List (List Char)}
    (h : ∀ p ∈ parts, Closed p) :
    Closed (sep.intercalate parts) ∧ (HasTag (sep.intercalate parts) ↔ ∃ p ∈ parts, HasTag p) := by
  induction parts with
  | nil => exact ⟨of_isPlain rfl, iff_of_false not_hasTag_nil fun ⟨_, hp, _⟩ => nomatch hp⟩
  | cons p parts ih =>
    obtain ⟨hp, hparts⟩ := List.forall_mem_cons.mp h
    cases parts with
    | nil =>
      rw [List.intercalate_singleton]
      exact ⟨hp, fun htag => ⟨p, List.mem_singleton_self p, htag⟩,
        fun ⟨q, hq, htag⟩ => List.mem_singleton.mp hq ▸ htag⟩
    | cons q parts =>
      obtain ⟨hclosed, htag⟩ := ih hparts
      have hfirst : Closed (p ++ sep) := hp.append (of_isPlain hsep)
      rw [List.intercalate_cons_cons, hfirst.hasTag_append, hp.hasTag_append,
        or_iff_left hsep.not_hasTag, htag]
      exact ⟨hfirst.append hclosed, (List.exists_mem_cons_iff _ _ _).symm⟩

end Closed

/-! ## Names between brackets -/

/-- whether a text begins as a tag does -/
def BeginsTag (cs : List Char) : Prop := ∃ c ∈ cs.head?, startsTag c = true

theorem tagInside_label {label : List Char} (h : IsPlain label) (after : List Char) :
    tagInside (label ++ ']' :: after) ≠ none ↔ BeginsTag label := by
  cases label with
  | nil => exact iff_of_false (fun hsome => hsome rfl) fun ⟨_, hc, _⟩ => nomatch hc
  | cons c label =>
    by_cases hc : startsTag c = true
    · have hopen : '[' ∉ label := fun hmem => h.not_mem_open (List.mem_cons_of_mem c hmem)
      have hclose : ']' ∉ label := fun hmem => h.not_mem_close (List.mem_cons_of_mem c hmem)
      rw [tagInside_of_tag hc hopen hclose]
      exact iff_of_true nofun ⟨c, rfl, hc⟩
    · rw [List.cons_append, tagInside, if_neg hc]
      refine iff_of_false (fun hsome => hsome rfl) ?_
      rintro ⟨d, hd, hstarts⟩
      exact hc (Option.some.inj hd ▸ hstarts)

theorem hasTag_bracketed {label : List Char} (h : IsPlain label) (after : List Char) :
    HasTag ('[' :: label ++ ']' :: after) ↔ BeginsTag label ∨ HasTag after := by
  have hnot : '[' ∉ [']'] := by decide
  have hclose : HasTag (']' :: after) ↔ HasTag after := hasTag_append_of_not_mem hnot after
  rw [List.cons_append, hasTag_cons, if_pos rfl, tagInside_label h,
    hasTag_append_of_not_mem h.not_mem_open, hclose]

theorem closed_bracketed {label : List Char} (h : IsPlain label) :
    Closed ('[' :: label ++ [']']) where
  tame c hc := by
    rcases List.mem_append.mp hc with hc | hc
    · rcases List.mem_cons.mp hc with rfl | hc
      · rfl
      · exact h.tame c hc
    · rw [List.mem_singleton.mp hc]
      rfl
  hasTag_append after := by
    rw [List.append_assoc, List.singleton_append, hasTag_bracketed h, hasTag_bracketed h,
      or_iff_left not_hasTag_nil]

theorem hasTag_bracketed_iff {label : List Char} (h : IsPlain label) :
    HasTag ('[' :: label ++ [']']) ↔ BeginsTag label := by
  rw [hasTag_bracketed h, or_iff_left not_hasTag_nil]

/-- parameters between parentheses after a plain text -/
theorem Closed.parenthesized {start inner : List Char} (hstart : IsPlain start) (h : Closed inner) :
    Closed (start ++ ['('] ++ inner ++ [')'])
      ∧ (HasTag (start ++ ['('] ++ inner ++ [')']) ↔ HasTag inner) := by
  have hopen : IsPlain ['('] := rfl
  have hclose : IsPlain [')'] := rfl
  have hbefore := (of_isPlain hstart).append (of_isPlain hopen)
  refine ⟨(hbefore.append h).append (of_isPlain hclose), ?_⟩
  rw [(hbefore.append h).hasTag_append, hbefore.hasTag_append, (of_isPlain hstart).hasTag_append,
    or_iff_left hclose.not_hasTag, or_iff_right]
  exact not_or.mpr ⟨hstart.not_hasTag, hopen.not_hasTag⟩

end Markup

/-! ## Displays -/

open Markup

namespace Method

/-- the names in the display of a method have no role in markup -/
structure Unmarked (view : Surroundings) (name : String) (m : Method) : Prop where
  name : IsPlain name.toList
  required : ∀ t ∈ m.required, IsPlain (t.typeLabel view).toList
  optional : ∀ t ∈ m.optional, IsPlain (t.typeLabel view).toList
  variadic : ∀ t ∈ m.variadic, IsPlain (t.typeLabel view).toList

/-- the parameters in the display of a method -/
def parameters (view : Surroundings) (m : Method) : List (List Char) :=
  m.required.map (fun t => (t.typeLabel view).toList)
    ++ m.optional.map (fun t => '[' :: (t.typeLabel view).toList ++ [']'])
    ++ (m.variadic.map fun t => '*' :: (t.typeLabel view).toList).toList

theorem text_eq (view : Surroundings) (name : String) (m : Method) :
    (m.text view name).toList
      = name.toList ++ ['('] ++ [',', ' '].intercalate (m.parameters view) ++ [')'] := by
  have hbracketed : String.toList ∘ (fun t => "[" ++ Value.typeLabel view t ++ "]")
      = fun t => '[' :: (Value.typeLabel view t).toList ++ [']'] := funext fun t => by
    rw [Function.comp, String.toList_append, String.toList_append]
    rfl
  have hvariadic : (m.variadic.map fun t => "*" ++ Value.typeLabel view t).toList.map String.toList
      = (m.variadic.map fun t => '*' :: (Value.typeLabel view t).toList).toList := by
    cases m.variadic with
    | none => rfl
    | some t => exact congrArg (fun cs => [cs]) String.toList_append
  unfold text
  simp only [String.toList_append, String.toList_intercalate, List.map_append, List.map_map,
    hbracketed, hvariadic]
  rfl

variable {view : Surroundings} {name : String} {m : Method}

theorem Unmarked.parameter_cases (h : m.Unmarked view name) {p : List Char}
    (hp : p ∈ m.parameters view) : IsPlain p
      ∨ ∃ t ∈ m.optional, p = '[' :: (t.typeLabel view).toList ++ [']'] := by
  rcases List.mem_append.mp hp with hp | hp
  · rcases List.mem_append.mp hp with hp | hp
    · obtain ⟨t, ht, rfl⟩ := List.mem_map.mp hp
      exact .inl (h.required t ht)
    · obtain ⟨t, ht, rfl⟩ := List.mem_map.mp hp
      exact .inr ⟨t, ht, rfl⟩
  · obtain ⟨t, ht, rfl⟩ := Option.map_eq_some_iff.mp (Option.mem_toList.mp hp)
    exact .inl (h.variadic t ht)

/-- a method is shown as it is when no optional parameter has a type whose name begins as a tag
does -/
theorem literal_text_iff (h : m.Unmarked view name) : Markup.Literal (m.text view name).toList
    ↔ ∀ t ∈ m.optional, ¬ BeginsTag (t.typeLabel view).toList := by
  have hsep : IsPlain [',', ' '] := rfl
  have hparameters : ∀ p ∈ m.parameters view, Closed p := by
    intro p hp
    rcases h.parameter_cases hp with hplain | ⟨t, ht, rfl⟩
    · exact .of_isPlain hplain
    · exact closed_bracketed (h.optional t ht)
  obtain ⟨hinner, htag⟩ := Closed.intercalate hsep hparameters
  obtain ⟨hwhole, hwholeTag⟩ := Closed.parenthesized h.name hinner
  rw [text_eq, literal_iff_of_closed hwhole, hwholeTag, htag]
  constructor
  · intro hnot t ht hbegins
    refine hnot ⟨_, ?_, (hasTag_bracketed_iff (h.optional t ht)).mpr hbegins⟩
    exact List.mem_append_left _ (List.mem_append_right _ (List.mem_map_of_mem ht))
  · rintro hnot ⟨p, hp, hptag⟩
    rcases h.parameter_cases hp with hplain | ⟨t, ht, rfl⟩
    · exact hplain.not_hasTag hptag
    · exact hnot t ht ((hasTag_bracketed_iff (h.optional t ht)).mp hptag)

end Method

theorem signatureText_eq (view : Surroundings) (sig : Signature) : (signatureText view sig).toList
    = ['('] ++ [',', ' '].intercalate (sig.map fun t => (t.typeLabel view).toList) ++ [')'] := by
  unfold signatureText
  rw [String.toList_append, String.toList_append, String.toList_intercalate, List.map_map]
  rfl

/-- a variant of a function with a plain name is shown as it is -/
theorem Store.literal_variant {s : Store} {types : Surroundings} {v : Nat}
    (hname : IsPlain (s.function (s.method (s.variant v).method).function).name.toList)
    (hlabels : ∀ t ∈ (s.variant v).types, IsPlain (t.typeLabel types).toList) :
    Markup.Literal (s.referenceText types (.variant v)).toList := by
  have hsep : IsPlain [',', ' '] := rfl
  have hstart : IsPlain ("CompiledVariant for ".toList
      ++ (s.function (s.method (s.variant v).method).function).name.toList) := by
    rw [IsPlain, List.all_append, hname]
    rfl
  have hparts : ∀ p ∈ (s.variant v).types.map fun t => (t.typeLabel types).toList, IsPlain p := by
    intro p hp
    obtain ⟨t, ht, rfl⟩ := List.mem_map.mp hp
    exact hlabels t ht
  obtain ⟨hinner, htag⟩ := Closed.intercalate hsep fun p hp => .of_isPlain (hparts p hp)
  obtain ⟨hwhole, hwholeTag⟩ := Closed.parenthesized hstart hinner
  have htext : (s.referenceText types (.variant v)).toList = "CompiledVariant for ".toList
      ++ (s.function (s.method (s.variant v).method).function).name.toList ++ ['(']
      ++ [',', ' '].intercalate ((s.variant v).types.map fun t => (t.typeLabel types).toList)
      ++ [')'] := by
    unfold referenceText
    rw [String.toList_append, String.toList_append, signatureText_eq]
    simp only [List.append_assoc]
  rw [htext, literal_iff_of_closed hwhole, hwholeTag, htag]
  rintro ⟨p, hp, hptag⟩
  exact (hparts p hp).not_hasTag hptag

end Introspect
