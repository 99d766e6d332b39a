import Introspect.Proofs.Modules.Inventory
import Introspect.Proofs.Modules.Scopes

/-!
# Wider walks

A walk with a wider scope visits modules in another order and comes to modules that the narrower one
never sees.  Yet what the wider one finds is closed, so the narrower one cannot leave it.

* `WalkScope.Within`            a scope asks for nothing that another one does not ask for;
* `Catalog.Widened`             what a wider scope does to a walk;
* `Catalog.descendants_widened` a walk loses nothing, unless it comes to a module whose children cannot
                                be told;
* `Catalog.namesByModule_ok`, `Catalog.valuesByModule_ok`  the global variables of several modules,
                                as a set;
* `Catalog.inventoryValues_cases`  those of a root and the modules below it, when these are told;
* `Catalog.WidenedValues`       what following imports does to an inventory;
* `Catalog.widened_scopes`      neither walks nor inventories lose anything, failures apart;
* `Catalog.widened_importing`   the two failures.
-/

namespace Introspect

/-- a scope asks for nothing that another one does not ask for -/
structure WalkScope.Within (scope wider : WalkScope) : Prop where
  foundational : scope.foundational = true → wider.foundational = true
  imported : scope.imported = true → wider.imported = true

namespace Catalog

variable {c : Catalog} {settings : Settings} {scope wider : WalkScope} {root : Nat}

/-! ## Walks -/

theorem Edge.mono (h : scope.Within wider) {p i : Nat}
    (hedge : c.Edge settings scope root p i) : c.Edge settings wider root p i :=
  ⟨hedge.1, hedge.2.bound, hedge.2.other, hedge.2.admitted.imp_left h.foundational,
    hedge.2.owned.imp_left h.imported⟩

variable (c settings root)

/-- a walk comes to a module whose children cannot be told -/
def ComesToFail (scope : WalkScope) (e : Fault) : Prop :=
  ∃ p n, Walk (c.Edge settings scope root) root n p ∧ c.Fails p e

/-- with the wider scope the walk comes to a module whose children cannot be told, and fails; otherwise
it finds whatever the narrower scope finds -/
def Widened (scope wider : WalkScope) : Prop :=
  (∃ e, c.ComesToFail settings root wider e
      ∧ c.descendants settings wider (.module root) = .error e)
    ∨ (∀ e, ¬ c.ComesToFail settings root wider e)
      ∧ ∃ ms ms', c.descendants settings scope (.module root) = .ok ms
        ∧ c.descendants settings wider (.module root) = .ok ms' ∧ ms ⊆ ms'

theorem not_comesToFail {ms : List Nat}
    (h : c.descendants settings scope (.module root) = .ok ms) (e : Fault) :
    ¬ c.ComesToFail settings root scope e := by
  rintro ⟨p, n, hwalk, hfails⟩
  exact (c.descendants_closed settings scope root h p
    (c.mem_of_walk settings scope root h hwalk)).1 e hfails

theorem descendants_widened (h : scope.Within wider) :
    c.Widened settings root scope wider := by
  rcases c.descendants_walks settings wider root with
    ⟨p, n, e, hwalk, hfails, hfailed⟩ | ⟨ms', hms', -⟩
  · exact .inl ⟨e, ⟨p, n, hwalk, hfails⟩, hfailed⟩
  · refine .inr ⟨c.not_comesToFail settings root hms', ?_⟩
    have hclosed := c.descendants_closed settings wider root hms'
    have hseen : ∀ p, p = root ∨ p ∈ root :: ms' → p ∈ root :: ms' := fun p hp =>
      hp.elim (fun heq => heq ▸ List.mem_cons_self) id
    rcases c.descendants_within settings scope root fun p hp i hi =>
        (hclosed p (hseen p hp)).2 i (hi.mono h) with ⟨p, e, hp, hfails, -⟩ | ⟨ms, hms, hmem⟩
    · exact absurd hfails ((hclosed p (hseen p hp)).1 e)
    · refine ⟨ms, ms', hms, hms', fun i hi => ?_⟩
      have hroot : i ≠ root := fun heq =>
        (List.nodup_cons.mp (nodup_descendants hms)).1 (heq ▸ hi)
      exact (List.mem_cons.mp (hmem i hi)).resolve_left hroot

/-! ## Inventories -/

variable (given : Option BindingLookup) (s : Selection)

/-- the groups of several modules, when the names of each are told -/
theorem namesByModule_ok {ms : List Value}
    (h : ∀ m ∈ ms, ∃ names, c.globalNames settings given s m = .ok names) :
    ∃ groups, c.namesByModule settings given s ms = .ok groups
      ∧ ∀ m names, (m, names) ∈ groups
          ↔ m ∈ ms ∧ c.globalNames settings given s m = .ok names ∧ names ≠ [] := by
  induction ms with
  | nil => exact ⟨[], rfl, fun m names => by simp⟩
  | cons m ms ih =>
    obtain ⟨⟨found, hfound⟩, hms⟩ := List.forall_mem_cons.mp h
    obtain ⟨rest, hrest, hmem⟩ := ih hms
    refine ⟨if found.isEmpty then rest else (m, found) :: rest, ?_, fun k names => ?_⟩
    · rw [namesByModule, hfound, hrest]
      rfl
    · have hhead : k = m → c.globalNames settings given s k = .ok names → names = found := by
        rintro rfl hnames
        exact Except.ok.inj (hnames.symm.trans hfound)
      cases found with
      | nil =>
        show (k, names) ∈ rest ↔ _
        rw [hmem, List.mem_cons]
        constructor
        · rintro ⟨hk, hnames, hne⟩
          exact ⟨.inr hk, hnames, hne⟩
        · rintro ⟨hk, hnames, hne⟩
          exact ⟨hk.resolve_left fun heq => hne (hhead heq hnames), hnames, hne⟩
      | cons n ns =>
        show (k, names) ∈ (m, n :: ns) :: rest ↔ _
        rw [List.mem_cons, hmem, List.mem_cons, Prod.mk.injEq]
        constructor
        · rintro (⟨rfl, rfl⟩ | ⟨hk, hnames, hne⟩)
          · exact ⟨.inl rfl, hfound, List.cons_ne_nil n ns⟩
          · exact ⟨.inr hk, hnames, hne⟩
        · rintro ⟨hk | hk, hnames, hne⟩
          · exact .inl ⟨hk, hhead hk hnames⟩
          · exact .inr ⟨hk, hnames, hne⟩

/-- the values of several groups, when the namespace of each is there -/
theorem valuesByModule_ok {groups : List (Value × List String)}
    (h : ∀ g ∈ groups, ∃ b, c.namespaceOf g.1 = .ok b) :
    ∃ values, c.valuesByModule groups = .ok values
      ∧ ∀ e, e ∈ values
          ↔ ∃ g ∈ groups, ∃ b, c.namespaceOf g.1 = .ok b ∧ e ∈ b.valuesAt g.1 g.2 := by
  induction groups with
  | nil => exact ⟨[], rfl, fun e => by simp⟩
  | cons g groups ih =>
    obtain ⟨⟨b, hb⟩, hgroups⟩ := List.forall_mem_cons.mp h
    obtain ⟨rest, hrest, hmem⟩ := ih hgroups
    refine ⟨b.valuesAt g.1 g.2 ++ rest, ?_, fun e => ?_⟩
    · rw [valuesByModule, hb, hrest]
      rfl
    · rw [List.mem_append, hmem, List.exists_mem_cons_iff]
      refine or_congr_left ⟨fun he => ⟨b, hb, he⟩, ?_⟩
      rintro ⟨b', hb', he⟩
      exact Except.ok.inj (hb.symm.trans hb') ▸ he

/-- the names of a module are told when they can be put in order -/
theorem globalNames_listable (m : Nat) :
    (∃ e, c.Unlistable m e ∧ c.globalNames settings given s (.module m) = .error e)
      ∨ c.Listable m ∧ ∃ names, c.globalNames settings given s (.module m) = .ok names := by
  rcases c.listable_or_unlistable m with ⟨es, hes⟩ | ⟨e, he⟩
  · exact .inr ⟨⟨es, hes⟩, _, c.globalNames_of_entries settings given s hes⟩
  · exact .inl ⟨e, he, c.globalNames_of_unlistable settings given s he⟩

theorem namesByModule_unlisted {ms : List Nat} (h : ∃ m ∈ ms, ¬ c.Listable m) :
    ∃ m ∈ ms, ∃ e, c.Unlistable m e
      ∧ c.namesByModule settings given s (ms.map Value.module) = .error e := by
  induction ms with
  | nil =>
    obtain ⟨m, hm, -⟩ := h
    exact absurd hm List.not_mem_nil
  | cons m ms ih =>
    rw [List.map_cons, namesByModule]
    rcases c.globalNames_listable settings given s m with ⟨e, hnot, herror⟩ | ⟨hlist, found, hfound⟩
    · rw [herror]
      exact ⟨m, List.mem_cons_self, e, hnot, rfl⟩
    · have hrest : ∃ k ∈ ms, ¬ c.Listable k := by
        obtain ⟨k, hk, hnot⟩ := h
        rcases List.mem_cons.mp hk with rfl | hk
        · exact absurd hlist hnot
        · exact ⟨k, hk, hnot⟩
      obtain ⟨k, hk, e, hnot, herror⟩ := ih hrest
      rw [hfound, herror]
      exact ⟨k, List.mem_cons_of_mem m hk, e, hnot, rfl⟩

/-- the values of an inventory, when the modules below the root are told: it fails where the names of
one of the modules cannot be put in order -/
theorem inventoryValues_cases {imported : Bool} {below : List Nat}
    (h : c.descendants settings ⟨false, imported⟩ (.module root) = .ok below) :
    (∃ m ∈ root :: below, ∃ e, c.Unlistable m e
        ∧ c.inventoryValues settings given s imported (.module root) = .error e)
      ∨ (∀ m ∈ root :: below, c.Listable m)
        ∧ ∃ values, c.inventoryValues settings given s imported (.module root) = .ok values
          ∧ ∀ e, e ∈ values ↔ ∃ m ∈ root :: below, ∃ names,
              c.globalNames settings given s (.module m) = .ok names
                ∧ e ∈ Bindings.valuesAt (c.module m).bindings (.module m) names := by
  have hinventory := inventory_of_descendants given s h
  by_cases hlist : ∀ m ∈ root :: below, c.Listable m
  · have hnames : ∀ k ∈ (root :: below).map Value.module,
        ∃ names, c.globalNames settings given s k = .ok names := by
      intro k hk
      obtain ⟨m, hm, rfl⟩ := List.mem_map.mp hk
      exact ((c.globalNames_listable settings given s m).resolve_left fun ⟨_, hnot, _⟩ =>
        hnot.not_listable (hlist m hm)).2
    obtain ⟨groups, hgroups, hmem⟩ := c.namesByModule_ok settings given s hnames
    have hmodule : ∀ g ∈ groups, ∃ m ∈ root :: below, g.1 = .module m := by
      intro g hg
      obtain ⟨m, hm, heq⟩ := List.mem_map.mp ((hmem g.1 g.2).mp hg).1
      exact ⟨m, hm, heq.symm⟩
    have hspaces : ∀ g ∈ groups, ∃ b, c.namespaceOf g.1 = .ok b := by
      intro g hg
      obtain ⟨m, -, heq⟩ := hmodule g hg
      exact ⟨(c.module m).bindings, by rw [heq]; rfl⟩
    obtain ⟨values, hvalues, hvalue⟩ := c.valuesByModule_ok hspaces
    refine .inr ⟨hlist, values,
      (inventoryValues_of_inventory given s (hinventory.trans hgroups)).trans hvalues, fun e => ?_⟩
    rw [hvalue]
    constructor
    · rintro ⟨⟨k, names⟩, hg, b, hb, he⟩
      obtain ⟨m, hm, rfl⟩ := hmodule _ hg
      obtain rfl : (c.module m).bindings = b := Except.ok.inj hb
      exact ⟨m, hm, names, ((hmem _ _).mp hg).2.1, he⟩
    · rintro ⟨m, hm, names, hglobal, he⟩
      have hne : names ≠ [] := by
        rintro rfl
        exact List.not_mem_nil he
      exact ⟨(.module m, names), (hmem _ _).mpr ⟨List.mem_map_of_mem hm, hglobal, hne⟩, _, rfl, he⟩
  · have hunlisted : ∃ m ∈ root :: below, ¬ c.Listable m := by
      by_contra hnone
      exact hlist fun m hm => by_contra fun hnot => hnone ⟨m, hm, hnot⟩
    obtain ⟨m, hm, e, hnot, herror⟩ := c.namesByModule_unlisted settings given s hunlisted
    exact .inl ⟨m, hm, e, hnot, inventoryValues_of_error given s (hinventory.trans herror)⟩

/-- when imports are followed, an inventory fails where the walk does, or the names of one of its
modules cannot be put in order; otherwise it has every entry that it has when they are not -/
def WidenedValues : Prop :=
  (∃ e, c.ComesToFail settings root ⟨false, true⟩ e
      ∧ c.inventoryValues settings given s true (.module root) = .error e)
    ∨ (∀ e, ¬ c.ComesToFail settings root ⟨false, true⟩ e)
      ∧ ((∃ p n e, Walk (c.Edge settings ⟨false, true⟩ root) root n p ∧ c.Unlistable p e
          ∧ c.inventoryValues settings given s true (.module root) = .error e)
        ∨ (∀ p n, Walk (c.Edge settings ⟨false, true⟩ root) root n p → c.Listable p)
          ∧ ∃ values values',
            c.inventoryValues settings given s false (.module root) = .ok values
              ∧ c.inventoryValues settings given s true (.module root) = .ok values'
              ∧ values ⊆ values')

theorem inventoryValues_widened : c.WidenedValues settings root given s := by
  rcases c.descendants_walks settings ⟨false, true⟩ root with
    ⟨p, n, e, hwalk, hfails, hfailed⟩ | ⟨ms', hms', hwalks⟩
  · exact .inl ⟨e, ⟨p, n, hwalk, hfails⟩,
      inventoryValues_of_error given s (inventory_of_error given s hfailed)⟩
  · have hnot := c.not_comesToFail settings root hms'
    refine .inr ⟨hnot, ?_⟩
    rcases c.inventoryValues_cases settings root given s hms' with
      ⟨m, hm, e, hunlisted, herror⟩ | ⟨hlist, values', hvalues', hmem'⟩
    · rcases List.mem_cons.mp hm with rfl | hm
      · exact .inl ⟨m, 0, e, .here, hunlisted, herror⟩
      · obtain ⟨n, hwalk⟩ := hwalks m hm
        exact .inl ⟨m, n + 1, e, hwalk, hunlisted, herror⟩
    · refine .inr ⟨fun p n hwalk => hlist p (c.mem_of_walk settings _ root hms' hwalk), ?_⟩
      have hwithin : WalkScope.Within ⟨false, false⟩ ⟨false, true⟩ := ⟨id, fun _ => rfl⟩
      obtain ⟨ms, ms'', hms, hms'', hsub⟩ :=
        ((c.descendants_widened settings root hwithin).resolve_left
          fun ⟨e, hfails, _⟩ => hnot e hfails).2
      obtain rfl := Except.ok.inj (hms''.symm.trans hms')
      have hmodules : ∀ m ∈ root :: ms, m ∈ root :: ms'' := List.cons_subset_cons root hsub
      obtain ⟨-, values, hvalues, hmem⟩ :=
        (c.inventoryValues_cases settings root given s hms).resolve_left
          fun ⟨m, hm, _, hunlisted, _⟩ => hunlisted.not_listable (hlist m (hmodules m hm))
      refine ⟨values, values', hvalues, hvalues', fun e he => ?_⟩
      obtain ⟨m, hm, hentry⟩ := (hmem e).mp he
      exact (hmem' e).mpr ⟨m, hmodules m hm, hentry⟩

/-- when a flag of a walk is set and the other stays as it is, the walk loses nothing, and neither do
inventories, except where they fail -/
theorem widened_scopes :
    (∀ imported, c.Widened settings root ⟨false, imported⟩ ⟨true, imported⟩)
      ∧ (∀ foundational, c.Widened settings root ⟨foundational, false⟩ ⟨foundational, true⟩)
      ∧ ∀ given s, c.WidenedValues settings root given s :=
  ⟨fun _ => c.descendants_widened settings root ⟨fun _ => rfl, id⟩,
    fun _ => c.descendants_widened settings root ⟨id, fun _ => rfl⟩,
    c.inventoryValues_widened settings root⟩

/-! ## Where a wider walk fails -/

/-- a module with a child and an import that has one more binding -/
def importing (extra : Value × Value) : Catalog where
  view := (packageWith (.int 1, .int 2)).view
  modules := #[
    { bindings := [(.str "__name__", .str "pkg"), (.str "child", .module 1),
        (.str "other", .module 2)] },
    { bindings := [(.str "__name__", .str "pkg.child")] },
    { bindings := [(.str "__name__", .str "other"), extra] }]

/-- a wider walk finds whatever a narrower one finds, and it never fails where that one does not -/
def LosesNoModule (scope wider : WalkScope) : Prop :=
  ∀ ms, c.descendants settings scope (.module root) = .ok ms →
    ∃ ms', c.descendants settings wider (.module root) = .ok ms' ∧ ms ⊆ ms'

/-- an inventory that follows imports has whatever it has otherwise, and it never fails where that one
does not -/
def LosesNoValue : Prop :=
  ∀ values, c.inventoryValues settings given s false (.module root) = .ok values →
    ∃ values', c.inventoryValues settings given s true (.module root) = .ok values'
      ∧ values ⊆ values'

/-- in all modules but the import, names can be put in order and values can be examined -/
theorem plain_importing (extra : Value × Value) {p : Nat} (hp : p ≠ 2) :
    (importing extra).Listable p ∧ ∀ e, ¬ (importing extra).Fails p e := by
  have hlist : (importing extra).Listable p := by
    match p with
    | 0 | 1 | _ + 3 => exact ⟨_, rfl⟩
    | 2 => exact absurd rfl hp
  have hplain : ∀ e ∈ ((importing extra).module p).bindings,
      e.2.refuses (importing extra).hierarchy = false := by
    match p with
    | 0 => exact List.forall_mem_cons.mpr ⟨rfl, List.forall_mem_cons.mpr ⟨rfl,
        List.forall_mem_singleton.mpr rfl⟩⟩
    | 1 => exact List.forall_mem_singleton.mpr rfl
    | 2 => exact absurd rfl hp
    | p + 3 => exact fun e he => absurd he List.not_mem_nil
  refine ⟨hlist, fun e he => ?_⟩
  cases he with
  | keys h => exact h.not_listable hlist
  | refusing h =>
    obtain ⟨-, v, ⟨key, -, hv⟩, hrefuses⟩ := h
    exact Bool.false_ne_true ((hplain _ hv).symm.trans hrefuses)

/-- a walk that follows no imports does not come to the import -/
theorem ne_of_walk_importing (extra : Value × Value) {n p : Nat}
    (h : Walk ((importing extra).Edge {} ⟨false, false⟩ 0) 0 n p) : p ≠ 2 := by
  rintro rfl
  cases n with
  | zero => cases h
  | succ n =>
    have hroot : (importing extra).nameText (.module 0) = "pkg" := rfl
    have himport : (importing extra).nameText (.module 2) = "other" := rfl
    have hnamed := (owned_of_walk h).named
    rw [hroot, himport] at hnamed
    exact absurd hnamed (by decide +kernel)

/-- a walk that follows imports comes to it -/
theorem edge_importing (extra : Value × Value) :
    (importing extra).Edge {} ⟨false, true⟩ 0 0 2 := by
  have hroot : (importing extra).nameText (.module 0) = "pkg" := rfl
  have himport : (importing extra).nameText (.module 2) = "other" := rfl
  have hshort : "other" ≠ shortName "pkg" := by decide +kernel
  have htop : standardPackages.contains (topPackage "other") = false := by decide +kernel
  refine ⟨(plain_importing extra (by decide)).1,
    ⟨⟨.str "other", by rw [hroot]; exact fun h => hshort (Value.str.inj h), ?_⟩, by decide,
      .inr (.inl ?_), .inl rfl⟩⟩
  · exact List.mem_cons_of_mem _ (List.mem_cons_of_mem _ List.mem_cons_self)
  · unfold isFoundational
    rw [himport]
    dsimp only
    rw [htop]
    rfl

theorem descendants_importing (extra : Value × Value) :
    ∃ ms, (importing extra).descendants {} ⟨false, false⟩ (.module 0) = .ok ms
      ∧ ∀ m ∈ 0 :: ms, (importing extra).Listable m := by
  rcases (importing extra).descendants_walks {} ⟨false, false⟩ 0 with
    ⟨p, n, e, hwalk, hfails, -⟩ | ⟨ms, hms, hwalks⟩
  · exact absurd hfails ((plain_importing extra (ne_of_walk_importing extra hwalk)).2 e)
  · refine ⟨ms, hms, fun m hm => ?_⟩
    rcases List.mem_cons.mp hm with rfl | hm
    · exact (plain_importing extra (by decide)).1
    · obtain ⟨n, hwalk⟩ := hwalks m hm
      exact (plain_importing extra (ne_of_walk_importing extra hwalk)).1

/-- when imports are followed, a walk is lost to a value that refuses to be examined, and an inventory
to a key that is no text, in a module that was not entered before -/
theorem widened_importing :
    ¬ (importing (.str "odd", refusing)).LosesNoModule {} 0 ⟨false, false⟩ ⟨false, true⟩
      ∧ ¬ (importing (.int 1, .int 2)).LosesNoValue {} 0 none {} := by
  constructor
  · intro h
    obtain ⟨ms, hms, -⟩ := descendants_importing (.str "odd", refusing)
    obtain ⟨ms', hms', -⟩ := h ms hms
    have hrefusing : (importing (.str "odd", refusing)).Refusing 2 :=
      ⟨⟨_, rfl⟩, refusing,
        ⟨.str "odd", fun h => absurd (Value.str.inj h) (by decide +kernel),
          List.mem_cons_of_mem _ List.mem_cons_self⟩, by decide +kernel⟩
    exact not_comesToFail _ {} 0 hms' _ ⟨2, 1, .step .here (edge_importing _), .refusing hrefusing⟩
  · intro h
    obtain ⟨ms, hms, hlist⟩ := descendants_importing (.int 1, .int 2)
    obtain ⟨-, values, hvalues, -⟩ :=
      ((importing (.int 1, .int 2)).inventoryValues_cases {} 0 none {} hms).resolve_left
        fun ⟨m, hm, _, hunlisted, _⟩ => hunlisted.not_listable (hlist m hm)
    obtain ⟨values', hvalues', -⟩ := h values hvalues
    rcases (importing (.int 1, .int 2)).inventoryValues_widened {} 0 none {} with
      ⟨e, -, herror⟩ | ⟨-, ⟨p, n, e, -, -, herror⟩ | ⟨hall, -⟩⟩
    · exact nomatch herror.symm.trans hvalues'
    · exact nomatch herror.symm.trans hvalues'
    · obtain ⟨es, hes⟩ := hall 2 1 (.step .here (edge_importing _))
      exact nomatch hes

end Catalog

end Introspect
