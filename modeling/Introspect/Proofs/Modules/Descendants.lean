import Introspect.Hierarchy.Builtin
import Introspect.Proofs.Modules.Discover
import Introspect.Proofs.Modules.Ordered

/-!
# The modules below a module

* `Catalog.Child`          a module is a child of another one for a walk: it is bound there, under a
                           key that does not stand for that module itself, and it passes the filters;
* `Catalog.Listable`       the keys of a module can be put in order, so that its children are listed;
* `Catalog.Edge`           a walk goes from a module that can be listed to its children;
* `Catalog.Refusing`       a module that can be listed binds a value that refuses to be examined;
* `Catalog.Fails`          the children of a module cannot be told;
* `Catalog.childrenBelow_cases`  the children of a module are where edges lead to, each once;
* `Catalog.descendants_of_children`  a walk in terms of the children of its root;
* `Catalog.descendants_eq`       the modules below a root are what edges lead to, the nearest first;
* `Catalog.descendants_unlisted` what a key beside others that it cannot be compared with, or a value
                           that refuses to be examined, does to a walk.
-/

namespace Introspect

theorem Value.beq_module_iff {m n : Nat} : (Value.module m == .module n) = true ↔ m = n := by
  show (m == n) = true ↔ m = n
  exact beq_iff_eq

/-! ## Lookups one after the other -/

section
variable {α β : Type} {f : α → Except Fault β} {xs : List α}

theorem exists_mapM (h : ∀ x ∈ xs, ∃ y, f x = .ok y) :
    ∃ ys, xs.mapM f = .ok ys ∧ ∀ y, y ∈ ys ↔ ∃ x ∈ xs, f x = .ok y := by
  induction xs with
  | nil => exact ⟨[], rfl, fun y => by simp⟩
  | cons x xs ih =>
    obtain ⟨⟨y, hy⟩, hxs⟩ := List.forall_mem_cons.mp h
    obtain ⟨ys, hys, hmem⟩ := ih hxs
    refine ⟨y :: ys, by rw [List.mapM_cons, hy, hys]; rfl, fun z => ?_⟩
    rw [List.mem_cons, hmem, List.exists_mem_cons_iff, hy, Except.ok.injEq, eq_comm]

/-- when some lookup fails, and others fail for the same reason only, all of them together do -/
theorem mapM_eq_error {e : Fault} (h : ∀ x ∈ xs, f x = .error e ∨ ∃ y, f x = .ok y)
    (hx : ∃ x ∈ xs, f x = .error e) : xs.mapM f = .error e := by
  induction xs with
  | nil =>
    obtain ⟨x, hx, -⟩ := hx
    exact absurd hx List.not_mem_nil
  | cons x xs ih =>
    obtain ⟨hfirst, hxs⟩ := List.forall_mem_cons.mp h
    rw [List.mapM_cons]
    rcases hfirst with herror | ⟨y, hy⟩
    · rw [herror]
      rfl
    · have hrest : ∃ z ∈ xs, f z = .error e := by
        obtain ⟨z, hz, hfz⟩ := hx
        rcases List.mem_cons.mp hz with rfl | hz
        · exact nomatch hy.symm.trans hfz
        · exact ⟨z, hz, hfz⟩
      rw [hy, ih hxs hrest]
      rfl

end

namespace Catalog

/-! ## Children -/

/-- a module binds a value under a key other than its own short name -/
def Binds (c : Catalog) (p : Nat) (v : Value) : Prop :=
  ∃ key, key ≠ .str (shortName (c.nameText (.module p))) ∧ (key, v) ∈ (c.module p).bindings

/-- a module is a child of another one, for a walk below a root -/
structure Child (c : Catalog) (settings : Settings) (scope : WalkScope) (root p i : Nat) : Prop where
  bound : c.Binds p (.module i)
  other : i ≠ p
  /-- foundational modules are entered when that is asked for, or in the package of the root -/
  admitted : scope.foundational = true ∨ c.isFoundational settings (.module i) = false
    ∨ topPackage (c.nameText (.module i)) = topPackage (c.nameText (.module root))
  /-- modules with names elsewhere are entered when that is asked for -/
  owned : scope.imported = true
    ∨ (c.nameText (.module p) ++ ".").toList <+: (c.nameText (.module i)).toList

/-- the keys of a module can be put in order -/
def Listable (c : Catalog) (p : Nat) : Prop := ∃ es, c.entriesOf (.module p) = .ok es

/-- the keys of a module cannot be put in order -/
def Unlistable (c : Catalog) (p : Nat) (e : Fault) : Prop := c.entriesOf (.module p) = .error e

/-- a walk goes from a module whose keys can be put in order to its children -/
def Edge (c : Catalog) (settings : Settings) (scope : WalkScope) (root p i : Nat) : Prop :=
  c.Listable p ∧ c.Child settings scope root p i

/-- a walk comes to look at a value that refuses to be examined -/
def Refusing (c : Catalog) (p : Nat) : Prop :=
  c.Listable p ∧ ∃ v, c.Binds p v ∧ v.refuses c.hierarchy = true

/-- a walk cannot tell the children of a module: to compare its keys fails in another way than that
there is no order between them, or it looks at a value that refuses to be examined -/
inductive Fails (c : Catalog) (p : Nat) : Fault → Prop where
  | keys {e : Fault} (h : c.Unlistable p e) (hkind : e.kind ≠ .type) : Fails c p e
  | refusing (h : c.Refusing p) : Fails c p .refused

variable (c : Catalog) (settings : Settings) (scope : WalkScope) (root : Nat)

theorem listable_or_unlistable (p : Nat) : c.Listable p ∨ ∃ e, c.Unlistable p e := by
  unfold Listable Unlistable
  cases c.entriesOf (.module p) with
  | ok es => exact .inl ⟨es, rfl⟩
  | error e => exact .inr ⟨e, rfl⟩

variable {c} in
theorem Unlistable.not_listable {p : Nat} {e : Fault} (h : c.Unlistable p e) : ¬ c.Listable p :=
  fun ⟨_, hes⟩ => nomatch h.symm.trans hes

theorem perm_entriesOf {p : Nat} {es : Bindings} (h : c.entriesOf (.module p) = .ok es) :
    es.Perm (c.module p).bindings :=
  Bindings.perm_inOrder (h := c.hierarchy) h

theorem childAt_eq_refused_iff {p : Nat} {e : Value × Value} :
    c.childAt (.module p) e = .error .refused
      ↔ e.1 ≠ .str (shortName (c.nameText (.module p))) ∧ e.2.refuses c.hierarchy = true := by
  unfold childAt
  rw [ne_eq, ← Value.beq_str_iff]
  by_cases hname : (e.1 == .str (shortName (c.nameText (.module p)))) = true
  · rw [if_pos hname]
    exact iff_of_false nofun fun h => h.1 hname
  · rw [if_neg hname]
    by_cases hrefuses : e.2.refuses c.hierarchy = true
    · rw [if_pos hrefuses]
      exact iff_of_true rfl ⟨hname, hrefuses⟩
    · rw [if_neg hrefuses]
      refine iff_of_false (fun h => ?_) fun h => hrefuses h.2
      split at h <;> exact nomatch h

theorem childAt_eq_some {p i : Nat} {e : Value × Value}
    (h : c.childAt (.module p) e = .ok (some i)) :
    i ≠ p ∧ e.1 ≠ .str (shortName (c.nameText (.module p))) ∧ e.2 = .module i := by
  unfold childAt at h
  split at h
  · exact nomatch h
  · next hname =>
    split at h
    · exact nomatch h
    · split at h
      · next j hj =>
        split at h
        · exact nomatch h
        · next hother =>
          obtain rfl := Option.some.inj (Except.ok.inj h)
          exact ⟨fun heq => hother (Value.beq_module_iff.mpr heq.symm),
            fun heq => hname ((Value.beq_str_iff _ _).mpr heq), hj⟩
      · exact nomatch h

theorem childAt_of_child {p i : Nat} {key : Value} (hi : i ≠ p)
    (hkey : key ≠ .str (shortName (c.nameText (.module p))))
    (hexamined : (Value.module i).refuses c.hierarchy = false) :
    c.childAt (.module p) (key, .module i) = .ok (some i) := by
  unfold childAt
  rw [if_neg fun heq => hkey ((Value.beq_str_iff _ _).mp heq)]
  dsimp only
  rw [if_neg (by rw [hexamined]; exact Bool.false_ne_true),
    if_neg fun heq => hi (Value.beq_module_iff.mp heq).symm]

/-- an entry is looked at, unless its value refuses to be examined -/
theorem childAt_cases (p : Nat) (e : Value × Value) :
    c.childAt (.module p) e = .error .refused ∨ ∃ o, c.childAt (.module p) e = .ok o := by
  unfold childAt
  split
  · exact .inr ⟨_, rfl⟩
  · split
    · exact .inl rfl
    · split
      · exact .inr ⟨_, rfl⟩
      · exact .inr ⟨_, rfl⟩

theorem enters_iff (p i : Nat) : c.enters settings scope (.module root) (.module p) i = true
    ↔ (scope.foundational = true ∨ c.isFoundational settings (.module i) = false
        ∨ topPackage (c.nameText (.module i)) = topPackage (c.nameText (.module root)))
      ∧ (scope.imported = true
        ∨ (c.nameText (.module p) ++ ".").toList <+: (c.nameText (.module i)).toList) := by
  unfold enters
  simp only [Bool.and_eq_true, Bool.or_eq_true, Bool.not_eq_true', beq_iff_eq,
    List.isPrefixOf_iff_prefix, or_assoc]

/-- where there is no order between keys there are no children -/
theorem childrenBelow_of_unlistable {p : Nat} {e : Fault} (h : c.Unlistable p e) :
    c.childrenBelow settings scope (.module root) (.module p)
      = if e.kind = .type then .ok [] else .error e := by
  have hentries : c.entriesOf (.module p) = .error e := h
  unfold childrenBelow
  rw [hentries]

theorem childrenBelow_of_refusing {p : Nat} (h : c.Refusing p) :
    c.childrenBelow settings scope (.module root) (.module p) = .error .refused := by
  obtain ⟨⟨entries, hentries⟩, v, ⟨key, hkey, hv⟩, hrefuses⟩ := h
  have hmem : (key, v) ∈ entries := (c.perm_entriesOf hentries).mem_iff.mpr hv
  unfold childrenBelow
  rw [hentries]
  dsimp only
  rw [mapM_eq_error (fun e _ => c.childAt_cases p e)
    ⟨(key, v), hmem, c.childAt_eq_refused_iff.mpr ⟨hkey, hrefuses⟩⟩]
  rfl

theorem childrenBelow_of_listable {p : Nat} (hlist : c.Listable p) (hexamined : ¬ c.Refusing p) :
    ∃ is, c.childrenBelow settings scope (.module root) (.module p) = .ok is ∧ is.Nodup
      ∧ ∀ i, i ∈ is ↔ c.Edge settings scope root p i := by
  obtain ⟨entries, hentries⟩ := id hlist
  have hmem : ∀ e, e ∈ entries ↔ e ∈ (c.module p).bindings := fun e =>
    (c.perm_entriesOf hentries).mem_iff
  have hok : ∀ e ∈ entries, ∃ o, c.childAt (.module p) e = .ok o := by
    intro e he
    refine (c.childAt_cases p e).resolve_left fun herror => hexamined ?_
    obtain ⟨hkey, hrefuses⟩ := c.childAt_eq_refused_iff.mp herror
    exact ⟨hlist, e.2, ⟨e.1, hkey, (hmem e).mp he⟩, hrefuses⟩
  obtain ⟨found, hfound, hmemfound⟩ := exists_mapM hok
  unfold childrenBelow
  rw [hentries]
  dsimp only
  rw [hfound]
  refine ⟨_, rfl, nodup_eraseDups _, fun i => ?_⟩
  rw [List.mem_eraseDups, List.mem_filter, List.mem_filterMap, enters_iff]
  constructor
  · rintro ⟨⟨o, ho, hi⟩, hadmitted, howned⟩
    obtain ⟨⟨key, v⟩, he, hchild⟩ := (hmemfound o).mp ho
    obtain rfl : o = some i := hi
    obtain ⟨hother, hkey, rfl⟩ := c.childAt_eq_some hchild
    exact ⟨hlist, ⟨key, hkey, (hmem _).mp he⟩, hother, hadmitted, howned⟩
  · rintro ⟨-, hchild⟩
    obtain ⟨key, hkey, hv⟩ := hchild.bound
    have hlooked : (Value.module i).refuses c.hierarchy = false :=
      Bool.eq_false_iff.mpr fun h => hexamined ⟨hlist, _, hchild.bound, h⟩
    exact ⟨⟨some i, (hmemfound _).mpr ⟨(key, .module i), (hmem _).mpr hv,
      c.childAt_of_child hchild.other hkey hlooked⟩, rfl⟩, hchild.admitted, hchild.owned⟩

/-- the children of a module are those to which edges lead, each once, unless they cannot be told -/
theorem childrenBelow_cases (p : Nat) :
    (∃ e, c.Fails p e ∧ c.childrenBelow settings scope (.module root) (.module p) = .error e)
      ∨ (∀ e, ¬ c.Fails p e)
        ∧ ∃ is, c.childrenBelow settings scope (.module root) (.module p) = .ok is ∧ is.Nodup
          ∧ ∀ i, i ∈ is ↔ c.Edge settings scope root p i := by
  rcases c.listable_or_unlistable p with hlist | ⟨e, he⟩
  · by_cases hrefusing : c.Refusing p
    · exact .inl ⟨_, .refusing hrefusing, c.childrenBelow_of_refusing settings scope root hrefusing⟩
    · refine .inr ⟨fun e he => ?_, c.childrenBelow_of_listable settings scope root hlist hrefusing⟩
      cases he with
      | keys h => exact h.not_listable hlist
      | refusing h => exact hrefusing h
  · rw [c.childrenBelow_of_unlistable settings scope root he]
    by_cases hkind : e.kind = .type
    · rw [if_pos hkind]
      refine .inr ⟨fun e' he' => ?_, [], rfl, List.nodup_nil, fun i =>
        iff_of_false List.not_mem_nil fun h => he.not_listable h.1⟩
      cases he' with
      | keys h hother => exact hother (Except.error.inj (he.symm.trans h) ▸ hkind)
      | refusing h => exact he.not_listable h.1
    · rw [if_neg hkind]
      exact .inl ⟨e, .keys he hkind, rfl⟩

section
variable {c settings scope root}

/-- the children of a module, when they can be told -/
theorem mem_childrenBelow {p : Nat} {is : List Nat}
    (h : c.childrenBelow settings scope (.module root) (.module p) = .ok is) (i : Nat) :
    i ∈ is ↔ c.Edge settings scope root p i := by
  rcases c.childrenBelow_cases settings scope root p with
    ⟨e, -, herror⟩ | ⟨-, is', his, -, hmem⟩
  · exact nomatch herror.symm.trans h
  · obtain rfl := Except.ok.inj (his.symm.trans h)
    exact hmem i

theorem not_fails_of_ok {p : Nat} {is : List Nat}
    (h : c.childrenBelow settings scope (.module root) (.module p) = .ok is) (e : Fault) :
    ¬ c.Fails p e := by
  rcases c.childrenBelow_cases settings scope root p with ⟨e', -, herror⟩ | ⟨hnot, -⟩
  · exact nomatch herror.symm.trans h
  · exact hnot e

theorem fails_of_error {p : Nat} {e : Fault}
    (h : c.childrenBelow settings scope (.module root) (.module p) = .error e) : c.Fails p e := by
  rcases c.childrenBelow_cases settings scope root p with ⟨e', hp, herror⟩ | ⟨-, is, his, -⟩
  · obtain rfl := Except.error.inj (herror.symm.trans h)
    exact hp
  · exact nomatch his.symm.trans h

end

/-- what is bound in a module is bound in one of the catalog -/
theorem mem_boundModules {p i : Nat} (h : c.Binds p (.module i)) : i ∈ c.boundModules := by
  obtain ⟨key, -, hmem⟩ := h
  have hmodule : c.module p = c.modules.getD p default := rfl
  rw [Array.getD_eq_getD_getElem?] at hmodule
  cases hp : c.modules[p]? with
  | none =>
    rw [hmodule, hp] at hmem
    exact absurd hmem List.not_mem_nil
  | some m =>
    rw [hmodule, hp] at hmem
    exact List.mem_flatMap.mpr ⟨m, Array.mem_toList_iff.mpr (Array.mem_of_getElem? hp),
      List.mem_filterMap.mpr ⟨_, hmem, rfl⟩⟩

/-! ## Descendants -/

theorem descendants_of_children {cs : List Nat}
    (h : c.children settings scope (.module root) = .ok cs) :
    c.descendants settings scope (.module root)
      = discover (fun m => c.childrenBelow settings scope (.module root) (.module m))
          ((fresh [root] cs).length + c.boundModules.length) (root :: fresh [root] cs)
          (fresh [root] cs) >>= fun seen => .ok (seen.drop 1) := by
  unfold descendants
  rw [h]
  rfl

theorem descendants_of_error {e : Fault}
    (h : c.children settings scope (.module root) = .error e) :
    c.descendants settings scope (.module root) = .error e := by
  unfold descendants
  rw [h]
  rfl

/-- when the children of the root, or of a module that edges lead to, cannot be told, the modules below
the root cannot be told; otherwise they are the other modules that edges lead to, each once and the
nearest first, and the children of the root stand in front -/
theorem descendants_eq :
    (∃ p n e, Walk (c.Edge settings scope root) root n p ∧ c.Fails p e
        ∧ c.descendants settings scope (.module root) = .error e)
      ∨ (∀ p n e, Walk (c.Edge settings scope root) root n p → ¬ c.Fails p e)
        ∧ ∃ ms, c.descendants settings scope (.module root) = .ok ms ∧ ms.Nodup ∧ root ∉ ms
          ∧ (∀ i, i ∈ ms ↔ i ≠ root ∧ ∃ n, Walk (c.Edge settings scope root) root (n + 1) i)
          ∧ ms.Pairwise (NoFarther (c.Edge settings scope root) root)
          ∧ ∃ cs, c.children settings scope (.module root) = .ok cs ∧ cs <+: ms := by
  let next : Nat → Except Fault (List Nat) := fun m =>
    c.childrenBelow settings scope (.module root) (.module m)
  have hnext : ∀ p, (∃ e, next p = .error e)
      ∨ ∃ is, next p = .ok is ∧ ∀ i, i ∈ is ↔ c.Edge settings scope root p i := fun p =>
    (c.childrenBelow_cases settings scope root p).imp (fun ⟨e, _, herror⟩ => ⟨e, herror⟩)
      fun ⟨_, is, his, _, hmem⟩ => ⟨is, his, hmem⟩
  rcases c.childrenBelow_cases settings scope root root with
    ⟨e, h, herror⟩ | ⟨-, cs, hcs, hnodup, hmem⟩
  · exact .inl ⟨root, 0, e, .here, h, c.descendants_of_error settings scope root herror⟩
  · have hother : ∀ i ∈ cs, i ∉ [root] := fun i hi hroot =>
      ((hmem i).mp hi).2.other (List.mem_singleton.mp hroot)
    have hfresh : fresh [root] cs = cs := fresh_eq_self hnodup hother
    have hdescendants := c.descendants_of_children settings scope root hcs
    rw [hfresh] at hdescendants
    have hfirst : Exploring next (c.Edge settings scope root) root (root :: cs) cs := by
      have hstep := (Exploring.initial next (c.Edge settings scope root) root).step hcs hmem
      rw [hfresh] at hstep
      exact hstep
    have hsteps : cs.length + (unseen c.boundModules (root :: cs)).length
        ≤ cs.length + c.boundModules.length :=
      Nat.add_le_add_left (List.length_filter_le _ _) _
    rcases hfirst.run hnext (fun p i h => c.mem_boundModules h.2.bound) hsteps with
      ⟨p, e, ⟨n, hwalk⟩, he, hfailed⟩ | ⟨all, hall, ⟨rest, hrest⟩, hend⟩
    · refine .inl ⟨p, n, e, hwalk, fails_of_error he, ?_⟩
      rw [hdescendants, hfailed]
      rfl
    · obtain rfl : root :: (cs ++ rest) = all := hrest
      obtain ⟨hroot, hnodup'⟩ := List.nodup_cons.mp hend.nodup
      refine .inr ⟨fun p n e hwalk => ?_, cs ++ rest, by rw [hdescendants, hall]; rfl, hnodup',
        hroot, fun i => ?_, (List.pairwise_cons.mp hend.ordered).2, cs, hcs,
        List.prefix_append _ _⟩
      · have hseen := (hend.mem_iff p).mpr ⟨n, hwalk⟩
        obtain ⟨⟨is, his⟩, -⟩ := (hend.closed p hseen).resolve_left List.not_mem_nil
        exact not_fails_of_ok his e
      · have hiff := hend.mem_iff i
        rw [List.mem_cons] at hiff
        constructor
        · intro hi
          refine ⟨fun heq => hroot (heq ▸ hi), ?_⟩
          obtain ⟨n, hwalk⟩ := hiff.mp (.inr hi)
          cases hwalk with
          | here => exact absurd hi hroot
          | @step n b _ h hbc => exact ⟨n, .step h hbc⟩
        · rintro ⟨hne, n, hwalk⟩
          exact (hiff.mpr ⟨n + 1, hwalk⟩).resolve_left hne

/-! ## Children that are not found -/

/-- a module with a child and one more binding -/
def packageWith (extra : Value × Value) : Catalog where
  view :=
    { hierarchy := (Hierarchy.empty.extend (blueprint "object" "builtins" [] true)).extend
        (blueprint "Refusing" "pkg" [.object] false { refuses := true })
      reference := fun _ => "", functionName := fun _ => "", moduleName := fun _ => none
      variantLabel := fun _ => "" }
  modules := #[
    { bindings := [(.str "__name__", .str "pkg"), (.str "child", .module 1), extra] },
    { bindings := [(.str "__name__", .str "pkg.child")] }]

/-- an instance of the class that refuses to be examined -/
def refusing : Value := .instanceOf ⟨1⟩ 0

theorem child_packageWith (extra : Value × Value) :
    (packageWith extra).Child {} ⟨false, false⟩ 0 0 1 := by
  have hroot : (packageWith extra).nameText (.module 0) = "pkg" := rfl
  have hchild : (packageWith extra).nameText (.module 1) = "pkg.child" := rfl
  have hshort : "child" ≠ shortName "pkg" := by decide +kernel
  have htop : standardPackages.contains (topPackage "pkg.child") = false := by decide +kernel
  have howned : ("pkg" ++ ".").toList <+: "pkg.child".toList := by decide +kernel
  refine ⟨⟨.str "child", by rw [hroot]; exact fun h => hshort (Value.str.inj h),
    List.mem_cons_of_mem _ List.mem_cons_self⟩, by decide, .inr (.inl ?_), .inr ?_⟩
  · unfold isFoundational
    rw [hchild]
    dsimp only
    rw [htop]
    rfl
  · rw [hroot, hchild]
    exact howned

theorem refusing_packageWith : (packageWith (.str "odd", refusing)).Refusing 0 := by
  refine ⟨⟨_, rfl⟩, refusing, ⟨.str "odd", fun h => ?_, ?_⟩, by decide +kernel⟩
  · exact absurd (Value.str.inj h) (by decide +kernel)
  · exact List.mem_cons_of_mem _ (List.mem_cons_of_mem _ List.mem_cons_self)

/-- the modules below a root are told: they are the other modules that children lead to -/
def TellsChildren (c : Catalog) (settings : Settings) (scope : WalkScope) (root : Nat) : Prop :=
  ∃ ms, c.descendants settings scope (.module root) = .ok ms
    ∧ ∀ i, i ∈ ms ↔ i ≠ root ∧ ∃ n, Walk (c.Child settings scope root) root (n + 1) i

/-- a child is not found when a key beside its name is no text, nor when a value beside it refuses to
be examined -/
theorem descendants_unlisted :
    ¬ (packageWith (.int 1, .int 2)).TellsChildren {} ⟨false, false⟩ 0
      ∧ ¬ (packageWith (.str "odd", refusing)).TellsChildren {} ⟨false, false⟩ 0 := by
  constructor
  · rintro ⟨ms, hms, hmem⟩
    have hchild : 1 ∈ ms := (hmem 1).mpr ⟨by decide, 0, .step .here (child_packageWith _)⟩
    obtain rfl : [] = ms := Except.ok.inj hms
    exact List.not_mem_nil hchild
  · rintro ⟨ms, hms, -⟩
    have herror := (packageWith (.str "odd", refusing)).childrenBelow_of_refusing {}
      ⟨false, false⟩ 0 refusing_packageWith
    exact nomatch (descendants_of_error _ _ _ _ herror).symm.trans hms

end Catalog

end Introspect
