import Introspect.Modules.Inventory
import Introspect.Proofs.Modules.Globals

/-!
# Inventories and single names

An inventory of a tree of modules is told by questions about single names:

* `Catalog.Global`          a name is bound in a module, and asked about by itself it is a global
                            variable;
* `Catalog.ListsGlobals`    the modules that have such names, in their order, each with all of them in
                            strict order;
* `Catalog.MapsGlobals`     the same with values, by module and name;
* `Catalog.globalNames_cases`    the names of one module;
* `Catalog.namesByModule_cases`  those of several modules;
* `Catalog.inventory_cases` those of a root and of the modules below it.
-/

namespace Introspect

namespace Bindings

variable (b : Bindings) (m : Value)

theorem mem_valuesAt_iff (names : List String) (k : Value) (n : String) (v : Value) :
    ((k, n), v) ∈ b.valuesAt m names
      ↔ k = m ∧ n ∈ names ∧ Value.lookup (.str n) b = some v := by
  unfold valuesAt
  rw [List.mem_filterMap]
  constructor
  · rintro ⟨n', hn', h⟩
    obtain ⟨v', hv', heq⟩ := Option.map_eq_some_iff.mp h
    obtain ⟨hkn, rfl⟩ := Prod.mk.inj heq
    obtain ⟨rfl, rfl⟩ := Prod.mk.inj hkn
    exact ⟨rfl, hn', hv'⟩
  · rintro ⟨rfl, hn, hv⟩
    exact ⟨n, hn, by rw [hv]; rfl⟩

theorem nodup_valuesAt {names : List String} (h : names.Nodup) :
    ((b.valuesAt m names).map Prod.fst).Nodup := by
  induction names with
  | nil => exact List.nodup_nil
  | cons n names ih =>
    obtain ⟨hn, hnames⟩ := List.nodup_cons.mp h
    have hrest := ih hnames
    unfold valuesAt at hrest ⊢
    rw [List.filterMap_cons]
    cases Value.lookup (.str n) b with
    | none => exact hrest
    | some v =>
      refine List.nodup_cons.mpr ⟨fun hmem => ?_, hrest⟩
      obtain ⟨⟨⟨k, n'⟩, v'⟩, hmem, heq⟩ := List.mem_map.mp hmem
      obtain ⟨-, hn', -⟩ := (b.mem_valuesAt_iff m names k n' v').mp hmem
      obtain ⟨-, rfl⟩ := Prod.mk.inj heq
      exact hn hn'

end Bindings

namespace Catalog

variable (c : Catalog) (settings : Settings) (given : Option BindingLookup) (s : Selection)

/-- a name is bound in a module, and asked about by itself it is a global variable -/
def Global (m : Nat) (n : String) : Prop :=
  (∃ v, Value.lookup (.str n) (c.module m).bindings = some v)
    ∧ c.isGlobal settings given s (.module m) n = true

/-- the modules of a list that have global variables, in its order, each with all of its names -/
structure ListsGlobals (ms : List Nat) (groups : List (Value × List String)) : Prop where
  modules : ∃ kept : List Nat, kept.Sublist ms ∧ groups.map Prod.fst = kept.map Value.module
    ∧ ∀ m ∈ ms, m ∈ kept ↔ ∃ n, c.Global settings given s m n
  names : ∀ m names, (.module m, names) ∈ groups → names ≠ [] ∧ names.Pairwise (· < ·)
    ∧ ∀ n, n ∈ names ↔ c.Global settings given s m n

/-- the values of the global variables of the modules of a list, by module and name -/
structure MapsGlobals (ms : List Nat) (values : List ((Value × String) × Value)) : Prop where
  nodup : (values.map Prod.fst).Nodup
  mem_iff : ∀ k n v, ((k, n), v) ∈ values ↔ ∃ m ∈ ms, k = .module m
    ∧ c.Global settings given s m n ∧ Value.lookup (.str n) (c.module m).bindings = some v

/-! ## One module -/

/-- the names of a module are its global variables in strict order, when they can be put in order -/
theorem globalNames_cases {m : Nat} (hkeyed : Bindings.Keyed (c.module m).bindings) :
    (∃ e, c.Unlistable m e ∧ c.globalNames settings given s (.module m) = .error e)
      ∨ c.Listable m ∧ ∃ names, c.globalNames settings given s (.module m) = .ok names
        ∧ names.Pairwise (· < ·) ∧ ∀ n, n ∈ names ↔ c.Global settings given s m n := by
  rcases c.listable_or_unlistable m with ⟨es, hes⟩ | ⟨e, he⟩
  · have horder : (c.module m).bindings.inOrder c.hierarchy = .ok es := hes
    refine .inr ⟨⟨es, hes⟩, _, c.globalNames_of_entries settings given s hes,
      (Bindings.names_strict hkeyed horder).sublist List.filter_sublist, fun n => ?_⟩
    rw [List.mem_filter, Bindings.mem_names_inOrder horder]
    exact Iff.rfl
  · exact .inl ⟨e, he, c.globalNames_of_unlistable settings given s he⟩

/-! ## Several modules -/

variable {c settings given s}

/-- one more module in front -/
theorem ListsGlobals.cons {m : Nat} {ms : List Nat} {found : List String}
    {rest : List (Value × List String)} (h : c.ListsGlobals settings given s ms rest)
    (hstrict : found.Pairwise (· < ·)) (hfound : ∀ n, n ∈ found ↔ c.Global settings given s m n) :
    c.ListsGlobals settings given s (m :: ms)
      (if found.isEmpty then rest else (.module m, found) :: rest) := by
  obtain ⟨kept, hsub, hmodules, hkept⟩ := h.modules
  cases found with
  | nil =>
    have hnone : ¬ ∃ n, c.Global settings given s m n := fun ⟨n, hn⟩ =>
      List.not_mem_nil ((hfound n).mpr hn)
    refine ⟨⟨kept, hsub.cons m, hmodules, fun k hk => ?_⟩, h.names⟩
    rcases List.mem_cons.mp hk with rfl | hk
    · refine iff_of_false (fun hmem => hnone ?_) hnone
      exact (hkept k (hsub.subset hmem)).mp hmem
    · exact hkept k hk
  | cons n ns =>
    have hsome : ∃ n, c.Global settings given s m n := ⟨n, (hfound n).mp List.mem_cons_self⟩
    refine ⟨⟨m :: kept, hsub.cons_cons m, congrArg (Value.module m :: ·) hmodules, fun k hk => ?_⟩,
      fun k names hmem => ?_⟩
    · rw [List.mem_cons]
      rcases List.mem_cons.mp hk with rfl | hk
      · exact iff_of_true (.inl rfl) hsome
      · rw [← hkept k hk]
        refine or_iff_right_of_imp fun heq => ?_
        rw [heq] at hk ⊢
        exact (hkept m hk).mpr hsome
    · rcases List.mem_cons.mp hmem with heq | hmem
      · obtain ⟨hk, rfl⟩ := Prod.mk.inj heq
        obtain rfl := Value.module.inj hk
        exact ⟨List.cons_ne_nil n ns, hstrict, hfound⟩
      · exact h.names k names hmem

theorem ListsGlobals.exists_module {ms : List Nat} {groups : List (Value × List String)}
    (h : c.ListsGlobals settings given s ms groups) {g : Value × List String} (hg : g ∈ groups) :
    ∃ m ∈ ms, g.1 = .module m := by
  obtain ⟨kept, hsub, hmodules, -⟩ := h.modules
  have hlisted : g.1 ∈ kept.map Value.module := hmodules ▸ List.mem_map_of_mem hg
  obtain ⟨m, hm, heq⟩ := List.mem_map.mp hlisted
  exact ⟨m, hsub.subset hm, heq.symm⟩

theorem ListsGlobals.nodup_names {ms : List Nat} {groups : List (Value × List String)}
    (h : c.ListsGlobals settings given s ms groups) {g : Value × List String} (hg : g ∈ groups) :
    g.2.Nodup := by
  obtain ⟨k, names⟩ := g
  obtain ⟨m, -, rfl⟩ := h.exists_module hg
  obtain ⟨-, hstrict, -⟩ := h.names m names hg
  show names.Pairwise (· ≠ ·)
  refine hstrict.imp fun {a b} hlt heq => ?_
  rw [heq] at hlt
  exact String.lt_irrefl b hlt

/-- the names of several modules, when those of each can be put in order -/
theorem namesByModule_cases (hkeyed : ∀ m, Bindings.Keyed (c.module m).bindings) (ms : List Nat) :
    (∃ m ∈ ms, ∃ e, c.Unlistable m e
        ∧ c.namesByModule settings given s (ms.map Value.module) = .error e)
      ∨ (∀ m ∈ ms, c.Listable m)
        ∧ ∃ groups, c.namesByModule settings given s (ms.map Value.module) = .ok groups
          ∧ c.ListsGlobals settings given s ms groups := by
  induction ms with
  | nil =>
    refine .inr ⟨fun m hm => absurd hm List.not_mem_nil, [], rfl,
      ⟨[], List.Sublist.refl [], rfl, fun m hm => absurd hm List.not_mem_nil⟩,
      fun m names hm => absurd hm List.not_mem_nil⟩
  | cons m ms ih =>
    rw [List.map_cons]
    unfold namesByModule
    rcases c.globalNames_cases settings given s (hkeyed m) with
      ⟨e, hnot, herror⟩ | ⟨hlist, found, hok, hstrict, hfound⟩
    · rw [herror]
      exact .inl ⟨m, List.mem_cons_self, e, hnot, rfl⟩
    · rw [hok]
      rcases ih with ⟨k, hk, e, hnot, herror⟩ | ⟨hall, rest, hrest, hlists⟩
      · rw [herror]
        exact .inl ⟨k, List.mem_cons_of_mem _ hk, e, hnot, rfl⟩
      · rw [hrest]
        exact .inr ⟨List.forall_mem_cons.mpr ⟨hlist, hall⟩, _, rfl, hlists.cons hstrict hfound⟩

/-- the values of names of modules, each pair of a module and a name once -/
theorem valuesByModule_eq {kept : List Nat} {groups : List (Value × List String)}
    (hmodules : groups.map Prod.fst = kept.map Value.module) (hkept : kept.Nodup)
    (hnames : ∀ g ∈ groups, g.2.Nodup) :
    ∃ values, c.valuesByModule groups = .ok values ∧ (values.map Prod.fst).Nodup
      ∧ ∀ k n v, ((k, n), v) ∈ values ↔ ∃ m names, k = .module m ∧ (.module m, names) ∈ groups
        ∧ n ∈ names ∧ Value.lookup (.str n) (c.module m).bindings = some v := by
  induction groups generalizing kept with
  | nil =>
    refine ⟨[], rfl, List.nodup_nil, fun k n v => iff_of_false List.not_mem_nil ?_⟩
    rintro ⟨_, _, -, hmem, -⟩
    exact List.not_mem_nil hmem
  | cons g groups ih =>
    cases kept with
    | nil => exact nomatch hmodules
    | cons m kept =>
      obtain ⟨hg, hrest⟩ := List.cons.inj hmodules
      obtain ⟨k, names⟩ := g
      obtain rfl : k = .module m := hg
      obtain ⟨hm, hkept⟩ := List.nodup_cons.mp hkept
      obtain ⟨hdistinct, hnames⟩ := List.forall_mem_cons.mp hnames
      obtain ⟨rest, hok, hnodup, hmem⟩ := ih hrest hkept hnames
      have hspace : c.namespaceOf (.module m) = .ok (c.module m).bindings := rfl
      unfold valuesByModule
      rw [hspace, hok]
      refine ⟨_, rfl, ?_, fun k n v => ?_⟩
      · rw [List.map_append]
        refine List.nodup_append.mpr ⟨Bindings.nodup_valuesAt _ _ hdistinct, hnodup, ?_⟩
        rintro ⟨k, n⟩ hkn key hrestkey rfl
        obtain ⟨⟨⟨k₁, n₁⟩, v₁⟩, h₁, heq₁⟩ := List.mem_map.mp hkn
        obtain ⟨⟨⟨k₂, n₂⟩, v₂⟩, h₂, heq₂⟩ := List.mem_map.mp hrestkey
        obtain ⟨rfl, -⟩ := Prod.mk.inj heq₁
        obtain ⟨hk₂, -⟩ := Prod.mk.inj heq₂
        obtain ⟨rfl, -, -⟩ := (Bindings.mem_valuesAt_iff _ _ _ _ _ _).mp h₁
        obtain ⟨m', names', hm', hg, -, -⟩ := (hmem k₂ n₂ v₂).mp h₂
        obtain rfl := Value.module.inj (hk₂.symm.trans hm')
        have hlisted : Value.module m ∈ kept.map Value.module :=
          hrest ▸ List.mem_map_of_mem hg
        obtain ⟨m', hmem', heq⟩ := List.mem_map.mp hlisted
        exact hm (Value.module.inj heq ▸ hmem')
      · rw [List.mem_append, Bindings.mem_valuesAt_iff, hmem]
        constructor
        · rintro (⟨rfl, hn, hv⟩ | ⟨m', names', rfl, hg, hn, hv⟩)
          · exact ⟨m, names, rfl, List.mem_cons_self, hn, hv⟩
          · exact ⟨m', names', rfl, List.mem_cons_of_mem _ hg, hn, hv⟩
        · rintro ⟨m', names', rfl, hg, hn, hv⟩
          rcases List.mem_cons.mp hg with heq | hg
          · obtain ⟨hm', rfl⟩ := Prod.mk.inj heq
            obtain rfl := Value.module.inj hm'
            exact .inl ⟨rfl, hn, hv⟩
          · exact .inr ⟨m', names', rfl, hg, hn, hv⟩

/-- the global variables of modules have their values -/
theorem ListsGlobals.exists_mapsGlobals {ms : List Nat} {groups : List (Value × List String)}
    (h : c.ListsGlobals settings given s ms groups) (hms : ms.Nodup) :
    ∃ values, c.valuesByModule groups = .ok values
      ∧ c.MapsGlobals settings given s ms values := by
  obtain ⟨kept, hsub, hkept, hmem⟩ := h.modules
  obtain ⟨values, hvalues, hkeys, hiff⟩ :=
    valuesByModule_eq hkept (hsub.nodup hms) fun _ hg => h.nodup_names hg
  refine ⟨values, hvalues, hkeys, fun k n v => ?_⟩
  rw [hiff]
  constructor
  · rintro ⟨m, names, rfl, hg, hn, hv⟩
    obtain ⟨m', hm', heq⟩ := h.exists_module hg
    obtain rfl := Value.module.inj heq
    exact ⟨m, hm', rfl, ((h.names m names hg).2.2 n).mp hn, hv⟩
  · rintro ⟨m, hm, rfl, hglobal, hv⟩
    have hlisted : .module m ∈ groups.map Prod.fst :=
      hkept ▸ List.mem_map_of_mem ((hmem m hm).mpr ⟨n, hglobal⟩)
    obtain ⟨⟨k, names⟩, hg, rfl⟩ := List.mem_map.mp hlisted
    exact ⟨m, names, rfl, hg, ((h.names m names hg).2.2 n).mpr hglobal, hv⟩

/-! ## Whole trees -/

/-- the modules below a root are told once each, and the root is none of them -/
theorem nodup_descendants {scope : WalkScope} {root : Nat} {below : List Nat}
    (h : c.descendants settings scope (.module root) = .ok below) : (root :: below).Nodup := by
  unfold descendants at h
  obtain ⟨is, -, h⟩ := bind_eq_ok_iff.mp h
  obtain ⟨all, hall, hbelow⟩ := bind_eq_ok_iff.mp h
  obtain ⟨⟨rest, hrest⟩, hnodup⟩ :=
    discover_nodup (nodup_append_fresh (List.nodup_singleton root) is) hall
  obtain rfl : all.drop 1 = below := Except.ok.inj hbelow
  rw [← hrest] at hnodup ⊢
  exact hnodup

section
variable (given s) {imported : Bool} {root : Nat}

theorem inventory_of_error {e : Fault}
    (h : c.descendants settings ⟨false, imported⟩ (.module root) = .error e) :
    c.inventory settings given s imported (.module root) = .error e := by
  unfold inventory inventoryModules
  rw [h]
  rfl

theorem inventory_of_descendants {below : List Nat}
    (h : c.descendants settings ⟨false, imported⟩ (.module root) = .ok below) :
    c.inventory settings given s imported (.module root)
      = c.namesByModule settings given s ((root :: below).map Value.module) := by
  unfold inventory inventoryModules
  rw [h]
  rfl

theorem inventoryValues_of_error {e : Fault}
    (h : c.inventory settings given s imported (.module root) = .error e) :
    c.inventoryValues settings given s imported (.module root) = .error e := by
  unfold inventoryValues
  rw [h]
  rfl

theorem inventoryValues_of_inventory {groups : List (Value × List String)}
    (h : c.inventory settings given s imported (.module root) = .ok groups) :
    c.inventoryValues settings given s imported (.module root) = c.valuesByModule groups := by
  unfold inventoryValues
  rw [h]
  rfl

end

variable (c settings given s)

/-- an inventory of a root and the modules below it: the modules below are told, and the global
variables are those that are found by asking about single names of these modules -/
def Inventoried (imported : Bool) (root : Nat) : Prop :=
  ∃ below groups values, c.descendants settings ⟨false, imported⟩ (.module root) = .ok below
    ∧ c.inventory settings given s imported (.module root) = .ok groups
    ∧ c.inventoryValues settings given s imported (.module root) = .ok values
    ∧ c.ListsGlobals settings given s (root :: below) groups
    ∧ c.MapsGlobals settings given s (root :: below) values

/-- an inventory fails where the walk fails, and where the names of one of its modules cannot be put
in order; otherwise it agrees with questions about single names -/
theorem inventory_cases (hkeyed : ∀ m, Bindings.Keyed (c.module m).bindings) (imported : Bool)
    (root : Nat) :
    (∃ e, c.descendants settings ⟨false, imported⟩ (.module root) = .error e
        ∧ c.inventory settings given s imported (.module root) = .error e
        ∧ c.inventoryValues settings given s imported (.module root) = .error e)
      ∨ (∃ below, c.descendants settings ⟨false, imported⟩ (.module root) = .ok below
        ∧ ∃ m ∈ root :: below, ∃ e, c.Unlistable m e
          ∧ c.inventory settings given s imported (.module root) = .error e
          ∧ c.inventoryValues settings given s imported (.module root) = .error e)
      ∨ c.Inventoried settings given s imported root := by
  cases hbelow : c.descendants settings ⟨false, imported⟩ (.module root) with
  | error e =>
    have hinventory := inventory_of_error given s hbelow
    exact .inl ⟨e, rfl, hinventory, inventoryValues_of_error given s hinventory⟩
  | ok below =>
    have hinventory := inventory_of_descendants given s hbelow
    refine .inr ?_
    rcases namesByModule_cases hkeyed (root :: below) with
      ⟨m, hm, e, hnot, herror⟩ | ⟨-, groups, hgroups, hlists⟩
    · have hfailed := hinventory.trans herror
      exact .inl ⟨below, rfl, m, hm, e, hnot, hfailed, inventoryValues_of_error given s hfailed⟩
    · have hfound := hinventory.trans hgroups
      obtain ⟨values, hvalues, hmaps⟩ := hlists.exists_mapsGlobals (nodup_descendants hbelow)
      exact .inr ⟨below, groups, values, hbelow, hfound,
        (inventoryValues_of_inventory given s hfound).trans hvalues, hlists, hmaps⟩

/-! ## A package -/

/-- a module and a child of it, each with a name that is final and one that is not -/
def package : Catalog where
  view := (packageWith (.int 1, .int 2)).view
  modules := #[
    { bindings := [(.str "__name__", .str "pkg"),
        (.str "__annotations__", .dict [(.str "y", .typing .final [])]),
        (.str "y", .int 1), (.str "x", .int 2), (.str "child", .module 1)] },
    { bindings := [(.str "__name__", .str "pkg.child"),
        (.str "__annotations__", .dict [(.str "z", .typing .final [.int 3])]),
        (.str "w", .int 4), (.str "z", .int 3)] }]

theorem keyed_package (m : Nat) : Bindings.Keyed (package.module m).bindings := by
  unfold Bindings.Keyed
  match m with
  | 0 | 1 => decide +kernel
  | m + 2 => exact List.Pairwise.nil

theorem descendants_package :
    package.descendants {} ⟨false, false⟩ (.module 0) = .ok [1] := rfl

/-- the final names of a module and of its child are in the inventory of constants -/
theorem inventoried_package : (∀ m, Bindings.Keyed (package.module m).bindings)
    ∧ package.Inventoried {} none ⟨.const, .all⟩ false 0
    ∧ package.inventory {} none ⟨.const, .all⟩ false (.module 0)
      = .ok [(.module 0, ["y"]), (.module 1, ["z"])] := by
  refine ⟨keyed_package, ?_, rfl⟩
  rcases inventory_cases _ {} none ⟨.const, .all⟩ keyed_package false 0 with
    ⟨e, herror, -⟩ | ⟨below, hbelow, m, hm, e, hnot, -⟩ | h
  · exact nomatch descendants_package.symm.trans herror
  · obtain rfl := Except.ok.inj (descendants_package.symm.trans hbelow)
    rcases List.mem_pair.mp hm with rfl | rfl
    · exact absurd ⟨_, rfl⟩ hnot.not_listable
    · exact absurd ⟨_, rfl⟩ hnot.not_listable
  · exact h

/-! ## A single module -/

/-- a module with some bindings -/
def moduleWith (bindings : Bindings) : Catalog where
  view := (packageWith (.int 1, .int 2)).view
  modules := #[{ bindings }]

theorem refusing_moduleWith :
    (moduleWith [(.str "x", .int 1), (.str "odd", refusing)]).Refusing 0 :=
  ⟨⟨_, rfl⟩, refusing,
    ⟨.str "odd", fun h => absurd (Value.str.inj h) (by decide +kernel),
      List.mem_cons_of_mem _ List.mem_cons_self⟩, by decide +kernel⟩

/-- a global variable is in no inventory when a key beside it is no text, nor when a value beside it
refuses to be examined -/
theorem inventory_unlisted :
    ((moduleWith [(.str "x", .int 1), (.int 1, .int 2)]).Global {} none {} 0 "x"
        ∧ ¬ (moduleWith [(.str "x", .int 1), (.int 1, .int 2)]).Inventoried {} none {} false 0)
      ∧ (moduleWith [(.str "x", .int 1), (.str "odd", refusing)]).Global {} none {} 0 "x"
        ∧ ¬ (moduleWith [(.str "x", .int 1), (.str "odd", refusing)]).Inventoried
          {} none {} false 0 := by
  refine ⟨⟨⟨⟨_, rfl⟩, by decide +kernel⟩, ?_⟩, ⟨⟨_, rfl⟩, by decide +kernel⟩, ?_⟩
  · rintro ⟨below, groups, values, hbelow, hgroups, -⟩
    obtain rfl : [] = below := Except.ok.inj hbelow
    exact nomatch hgroups
  · rintro ⟨below, groups, values, hbelow, -⟩
    rcases childrenBelow_cases _ {} ⟨false, false⟩ 0 0 with ⟨e, -, herror⟩ | ⟨hnot, -⟩
    · unfold descendants children at hbelow
      rw [herror] at hbelow
      exact nomatch hbelow
    · exact hnot _ (.refusing refusing_moduleWith)

end Catalog

end Introspect
