import Introspect.Fault
import Introspect.Hierarchy.Linearization
import Introspect.Hierarchy.Subclass

/-!
# Making classes

* `Blueprint`            what a new class is made from;
* `Hierarchy.bestBase`   the base whose instances the new class extends: the first one, unless a
                         later one has the richer layout;
* `Hierarchy.declare`    the hierarchy with one more class, or the reason why it cannot be made;
* `Hierarchy.adopt`      an abstract class adopts a virtual subclass.
-/

namespace Introspect

structure Blueprint where
  name : String
  qualname : String
  module : String
  bases : List ClassId
  family : Family := .plain
  traits : Traits := {}
  /-- whether instances have a layout of their own -/
  ownLayout : Bool := false

namespace Hierarchy

def bestBase (h : Hierarchy) : List ClassId → Option ClassId
  | [] => none
  | b :: rest =>
    rest.foldl (fun best c =>
      best.bind fun b =>
        let lb := (h.info b).layout
        let lc := (h.info c).layout
        if h.inherits lb lc then some b
        else if h.inherits lc lb then some c
        else none) (some b)

/-- the family of a class: its own, or else the first one of its bases that is not plain -/
def familyOf (h : Hierarchy) (b : Blueprint) : Family :=
  if b.family != .plain then b.family
  else (b.bases.map fun c => (h.info c).family).find? (· != .plain) |>.getD .plain

/-- a class in the next free place -/
def push (h : Hierarchy) (c : ClassInfo) (hc : ∀ d ∈ c.mro, d.index ≤ h.size) : Hierarchy where
  classes := h.classes.push c
  ordered i d hd e he := by
    rw [Array.getElem?_push] at hd
    by_cases hi : i = h.classes.size
    · rw [if_pos hi] at hd
      rw [← Option.some.inj hd] at he
      exact hi ▸ hc e he
    · rw [if_neg hi] at hd
      exact h.ordered i d hd e he

theorem index_le_of_mem_linearize {h : Hierarchy} {bases mro : List ClassId}
    (hb : ∀ d ∈ bases, d.index < h.size)
    (hm : Linearization.linearize ⟨h.size⟩ bases (bases.map h.mro) = some mro) :
    ∀ d ∈ mro, d.index ≤ h.size := by
  intro d hd
  rcases Linearization.mem_linearize hm hd with rfl | hd | ⟨s, hs, hd⟩
  · exact Nat.le_refl _
  · exact Nat.le_of_lt (hb d hd)
  · obtain ⟨b, hbs, rfl⟩ := List.mem_map.mp hs
    exact Nat.le_trans (index_le_of_mem_mro hd) (Nat.le_of_lt (hb b hbs))

def declare (h : Hierarchy) (b : Blueprint) : Except Fault (Hierarchy × ClassId) :=
  let c : ClassId := ⟨h.size⟩
  match b.bases.find? fun d => (h.info d).traits.sealed with
  | some d => .error (.badClass (h.className d))
  | none =>
    match h.bestBase b.bases, b.bases with
    | none, _ :: _ => .error (.badClass b.name)
    | primary, bases =>
      if hb : ∀ d ∈ bases, d.index < h.size then
        match hm : Linearization.linearize c bases (bases.map h.mro) with
        | none => .error (.badClass b.name)
        | some mro =>
          let layout :=
            if b.ownLayout then c else (primary.map fun p => (h.info p).layout).getD c
          let info : ClassInfo :=
            { name := b.name, qualname := b.qualname, module := b.module, bases, primary, mro,
              layout, family := h.familyOf b, adopted := [], traits := b.traits }
          .ok (h.push info (index_le_of_mem_linearize hb hm), c)
      else .error (.badClass b.name)

/-- one more class adopted by `c` -/
def addAdopted (h : Hierarchy) (c d : ClassId) : Hierarchy where
  classes := h.classes.modify c.index fun i => { i with adopted := i.adopted ++ [d] }
  ordered i e he x hx := by
    rw [Array.getElem?_modify] at he
    split at he
    · obtain ⟨e', he', rfl⟩ := Option.map_eq_some_iff.mp he
      exact h.ordered i e' he' x hx
    · exact h.ordered i e he x hx

def adopt (h : Hierarchy) (c d : ClassId) : Except Fault Hierarchy :=
  if (h.info c).family != .abstract then .error (.noAttribute "type" "register")
  else if h.isSubclass d c then .ok h
  else if h.isSubclass c d then .error .refused
  else .ok (h.addAdopted c d)

end Hierarchy

end Introspect
