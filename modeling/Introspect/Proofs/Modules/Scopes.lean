import Introspect.Proofs.Acting
import Introspect.Proofs.Modules.Descendants

/-!
# Walks and their scopes

A walk is an induction: what the root hands on to its children, and these to theirs, holds of every
module below the root.  So the name of the root is handed on when imports are not followed.

* `Catalog.descendants_within`  what edges hand on holds of all modules below a root;
* `Catalog.descendants_walks`   edges lead to all modules below a root;
* `Catalog.descendants_closed`  edges do not lead out of what a walk finds;
* `Catalog.Owned`               a module is named below the root;
* `Catalog.enters_owned`        foundational modules are no exception below modules that are;
* `Catalog.foundational_irrelevant`  nor are they for a whole walk.
-/

namespace Introspect

/-! ## Names below a name -/

theorem takeWhile_append_dot (cs rest : List Char) :
    (cs ++ '.' :: rest).takeWhile (· != '.') = cs.takeWhile (· != '.') := by
  induction cs with
  | nil => rfl
  | cons x cs ih => rw [List.cons_append, List.takeWhile_cons, List.takeWhile_cons, ih]

theorem topPackage_of_prefix {name below : String} (h : (name ++ ".").toList <+: below.toList) :
    topPackage below = topPackage name := by
  obtain ⟨rest, hrest⟩ := h
  have hsplit : below.toList = name.toList ++ '.' :: rest := by
    rw [← hrest, String.toList_append, List.append_assoc]
    rfl
  unfold topPackage
  rw [hsplit, takeWhile_append_dot]

namespace Catalog

variable (c : Catalog) (settings : Settings) (scope : WalkScope) (root : Nat)

/-! ## Walks as inductions -/

/-- what edges hand on, from the root and from the modules that have it, holds of all modules below
the root; and a walk that fails does so at such a module -/
theorem descendants_within {P : Nat → Prop}
    (hnext : ∀ p, p = root ∨ P p → ∀ i, c.Edge settings scope root p i → P i) :
    (∃ p e, (p = root ∨ P p) ∧ c.Fails p e
        ∧ c.descendants settings scope (.module root) = .error e)
      ∨ ∃ ms, c.descendants settings scope (.module root) = .ok ms ∧ ∀ i ∈ ms, P i := by
  cases hcs : c.children settings scope (.module root) with
  | error e =>
    exact .inl ⟨root, e, .inl rfl, fails_of_error hcs,
      c.descendants_of_error settings scope root hcs⟩
  | ok cs =>
    have hfirst : ∀ i ∈ fresh [root] cs, P i := fun i hi =>
      hnext root (.inl rfl) i ((mem_childrenBelow hcs i).mp (mem_fresh.mp hi).1)
    have hclosed : ∀ p, P p → ∀ is,
        c.childrenBelow settings scope (.module root) (.module p) = .ok is → ∀ i ∈ is, P i :=
      fun p hp is his i hi => hnext p (.inr hp) i ((mem_childrenBelow his i).mp hi)
    rw [c.descendants_of_children settings scope root hcs]
    rcases discover_within hclosed (root :: fresh [root] cs) hfirst
        ((fresh [root] cs).length + c.boundModules.length) with
      ⟨p, e, hp, herror, hfailed⟩ | ⟨all, hall, hmem⟩
    · exact .inl ⟨p, e, .inr hp, fails_of_error herror, by rw [hfailed]; rfl⟩
    · refine .inr ⟨all.drop 1, by rw [hall]; rfl, fun i hi => ?_⟩
      -- the root itself stands in front, and only there
      obtain ⟨⟨rest, rfl⟩, hnodup⟩ :=
        discover_nodup (nodup_append_fresh (List.nodup_singleton root) cs) hall
      have hi' : i ∈ fresh [root] cs ++ rest := hi
      have hroot : i ≠ root := fun heq => (List.nodup_cons.mp hnodup).1 (heq ▸ hi')
      rcases hmem i (List.mem_of_mem_drop hi) with hseen | hP
      · exact hfirst i ((List.mem_cons.mp hseen).resolve_left hroot)
      · exact hP

/-- edges lead to all modules below a root, and to one whose children cannot be told when they cannot
be told -/
theorem descendants_walks :
    (∃ p n e, Walk (c.Edge settings scope root) root n p ∧ c.Fails p e
        ∧ c.descendants settings scope (.module root) = .error e)
      ∨ ∃ ms, c.descendants settings scope (.module root) = .ok ms
        ∧ ∀ i ∈ ms, ∃ n, Walk (c.Edge settings scope root) root (n + 1) i := by
  have hnext : ∀ p, p = root ∨ (∃ n, Walk (c.Edge settings scope root) root (n + 1) p) →
      ∀ i, c.Edge settings scope root p i →
        ∃ n, Walk (c.Edge settings scope root) root (n + 1) i := by
    rintro p (rfl | ⟨n, hwalk⟩) i hi
    · exact ⟨0, .step .here hi⟩
    · exact ⟨n + 1, .step hwalk hi⟩
  rcases c.descendants_within settings scope root hnext with
    ⟨p, e, rfl | ⟨n, hwalk⟩, hfails, hfailed⟩ | hfound
  · exact .inl ⟨p, 0, e, .here, hfails, hfailed⟩
  · exact .inl ⟨p, n + 1, e, hwalk, hfails, hfailed⟩
  · exact .inr hfound

/-- edges lead to all children of a module, when they can be told -/
theorem children_within :
    (∃ e, c.Fails root e ∧ c.children settings scope (.module root) = .error e)
      ∨ ∃ cs, c.children settings scope (.module root) = .ok cs
        ∧ ∀ i ∈ cs, c.Edge settings scope root root i := by
  rcases c.childrenBelow_cases settings scope root root with h | ⟨-, cs, hcs, -, hmem⟩
  · exact .inl h
  · exact .inr ⟨cs, hcs, fun i hi => (hmem i).mp hi⟩

/-- edges do not lead out of what a walk finds, and the children of all its modules can be told -/
theorem descendants_closed {ms : List Nat}
    (h : c.descendants settings scope (.module root) = .ok ms) :
    ∀ p ∈ root :: ms, (∀ e, ¬ c.Fails p e)
      ∧ ∀ i, c.Edge settings scope root p i → i ∈ root :: ms := by
  cases hcs : c.children settings scope (.module root) with
  | error e => exact nomatch (c.descendants_of_error settings scope root hcs).symm.trans h
  | ok cs =>
    rw [c.descendants_of_children settings scope root hcs] at h
    obtain ⟨all, hall, hms⟩ := bind_eq_ok_iff.mp h
    obtain rfl := Except.ok.inj hms
    obtain ⟨⟨rest, rfl⟩, -⟩ :=
      discover_nodup (nodup_append_fresh (List.nodup_singleton root) cs) hall
    have hcandidates : ∀ p is, c.childrenBelow settings scope (.module root) (.module p) = .ok is →
        ∀ i ∈ is, i ∈ c.boundModules := fun p is his i hi =>
      c.mem_boundModules ((mem_childrenBelow his i).mp hi).2.bound
    have hsteps : (fresh [root] cs).length
          + (unseen c.boundModules (root :: fresh [root] cs)).length
        ≤ (fresh [root] cs).length + c.boundModules.length :=
      Nat.add_le_add_left (List.length_filter_le _ _) _
    -- all children of the root are seen at the start, and the others are pending
    have hstart : ∀ p ∈ root :: fresh [root] cs, p ∈ fresh [root] cs
        ∨ ∃ is, c.childrenBelow settings scope (.module root) (.module p) = .ok is
          ∧ ∀ i ∈ is, i ∈ root :: fresh [root] cs := by
      intro p hp
      rcases List.mem_cons.mp hp with rfl | hp
      · refine .inr ⟨cs, hcs, fun i hi => ?_⟩
        by_cases hroot : i ∈ [p]
        · exact List.mem_singleton.mp hroot ▸ List.mem_cons_self
        · exact List.mem_cons_of_mem _ (mem_fresh.mpr ⟨hi, hroot⟩)
      · exact .inl hp
    intro p hp
    obtain ⟨is, his, hmem⟩ := discover_closed hcandidates hstart hsteps hall p hp
    exact ⟨not_fails_of_ok his, fun i hi => hmem i ((mem_childrenBelow his i).mpr hi)⟩

/-- so walks along edges stay in what a walk finds -/
theorem mem_of_walk {ms : List Nat} (h : c.descendants settings scope (.module root) = .ok ms)
    {n p : Nat} (hwalk : Walk (c.Edge settings scope root) root n p) : p ∈ root :: ms := by
  induction hwalk with
  | here => exact List.mem_cons_self
  | step _ hbc ih => exact (c.descendants_closed settings scope root h _ ih).2 _ hbc

/-! ## Modules named below the root -/

/-- a module is named below the root, and so it belongs to the package of the root -/
structure Owned (i : Nat) : Prop where
  named : (c.nameText (.module root) ++ ".").toList <+: (c.nameText (.module i)).toList
  package : topPackage (c.nameText (.module i)) = topPackage (c.nameText (.module root))

variable {c settings scope root}

theorem Owned.of_named {i : Nat}
    (h : (c.nameText (.module root) ++ ".").toList <+: (c.nameText (.module i)).toList) :
    c.Owned root i := ⟨h, topPackage_of_prefix h⟩

/-- what is named below a module that is named below the root is so, too -/
theorem Owned.below {p i : Nat} (hp : p = root ∨ c.Owned root p)
    (h : (c.nameText (.module p) ++ ".").toList <+: (c.nameText (.module i)).toList) :
    c.Owned root i := by
  rcases hp with rfl | hp
  · exact .of_named h
  · have hdot : (c.nameText (.module p)).toList <+: (c.nameText (.module p) ++ ".").toList := by
      rw [String.toList_append]
      exact List.prefix_append _ _
    exact .of_named ((hp.named.trans hdot).trans h)

theorem Edge.owned {foundational : Bool} {p i : Nat} (hp : p = root ∨ c.Owned root p)
    (h : c.Edge settings ⟨foundational, false⟩ root p i) : c.Owned root i :=
  .below hp (h.2.owned.resolve_left Bool.false_ne_true)

/-- every step of a walk goes to a module that is named below the root -/
theorem owned_of_walk {foundational : Bool} {n i : Nat}
    (h : Walk (c.Edge settings ⟨foundational, false⟩ root) root (n + 1) i) : c.Owned root i := by
  induction n generalizing i with
  | zero =>
    obtain - | ⟨hstart, hedge⟩ := h
    cases hstart
    exact hedge.owned (.inl rfl)
  | succ n ih =>
    obtain - | ⟨hwalk, hedge⟩ := h
    exact hedge.owned (.inr (ih hwalk))

variable (c settings root)

/-- below modules that are named below the root, imports not being followed, only names decide -/
theorem enters_owned {p : Nat} (hp : p = root ∨ c.Owned root p) (foundational : Bool) (i : Nat) :
    c.enters settings ⟨foundational, false⟩ (.module root) (.module p) i = true
      ↔ (c.nameText (.module p) ++ ".").toList <+: (c.nameText (.module i)).toList := by
  rw [enters_iff]
  constructor
  · rintro ⟨-, howned⟩
    exact howned.resolve_left Bool.false_ne_true
  · intro hnamed
    exact ⟨.inr (.inr (Owned.below hp hnamed).package), .inr hnamed⟩

theorem childrenBelow_owned {p : Nat} (hp : p = root ∨ c.Owned root p) :
    c.childrenBelow settings ⟨true, false⟩ (.module root) (.module p)
      = c.childrenBelow settings ⟨false, false⟩ (.module root) (.module p) := by
  have henters : c.enters settings ⟨true, false⟩ (.module root) (.module p)
      = c.enters settings ⟨false, false⟩ (.module root) (.module p) := by
    funext i
    rw [Bool.eq_iff_iff, c.enters_owned settings root hp, c.enters_owned settings root hp]
  unfold childrenBelow
  rw [henters]

/-- a walk that follows no imports is the same whether it enters foundational modules or not: all its
modules are named below the root and belong to its package; it fails only where it comes to a module
whose children cannot be told; and so it is with the children of a module -/
theorem foundational_irrelevant :
    (c.descendants settings ⟨true, false⟩ (.module root)
        = c.descendants settings ⟨false, false⟩ (.module root)
      ∧ ((∃ p n e, Walk (c.Edge settings ⟨false, false⟩ root) root n p ∧ c.Fails p e
            ∧ c.descendants settings ⟨false, false⟩ (.module root) = .error e)
          ∨ ∃ ms, c.descendants settings ⟨false, false⟩ (.module root) = .ok ms
            ∧ ∀ i ∈ ms, c.Owned root i))
      ∧ c.children settings ⟨true, false⟩ (.module root)
          = c.children settings ⟨false, false⟩ (.module root)
        ∧ ((∃ e, c.Fails root e ∧ c.children settings ⟨false, false⟩ (.module root) = .error e)
          ∨ ∃ cs, c.children settings ⟨false, false⟩ (.module root) = .ok cs
            ∧ ∀ i ∈ cs, c.Owned root i) := by
  have hchildren : c.children settings ⟨true, false⟩ (.module root)
      = c.children settings ⟨false, false⟩ (.module root) :=
    c.childrenBelow_owned settings root (.inl rfl)
  refine ⟨⟨?_, ?_⟩, hchildren, ?_⟩
  · cases hcs : c.children settings ⟨false, false⟩ (.module root) with
    | error e =>
      rw [c.descendants_of_error settings _ root (hchildren.trans hcs),
        c.descendants_of_error settings _ root hcs]
    | ok cs =>
      rw [c.descendants_of_children settings _ root (hchildren.trans hcs),
        c.descendants_of_children settings _ root hcs]
      refine congrArg (· >>= fun seen => .ok (seen.drop 1)) (discover_congr (P := c.Owned root)
        (fun p hp is his i hi => ?_) (fun p hp => ?_) (fun i hi => ?_) _)
      · exact ((mem_childrenBelow his i).mp hi).owned (.inr hp)
      · exact c.childrenBelow_owned settings root (.inr hp)
      · exact ((mem_childrenBelow hcs i).mp (mem_fresh.mp hi).1).owned (.inl rfl)
  · rcases c.descendants_walks settings ⟨false, false⟩ root with hfailed | ⟨ms, hms, hwalks⟩
    · exact .inl hfailed
    · exact .inr ⟨ms, hms, fun i hi => (hwalks i hi).elim fun n hwalk => owned_of_walk hwalk⟩
  · rcases c.children_within settings ⟨false, false⟩ root with hfailed | ⟨cs, hcs, hedges⟩
    · exact .inl hfailed
    · exact .inr ⟨cs, hcs, fun i hi => (hedges i hi).owned (.inl rfl)⟩

end Catalog

end Introspect
