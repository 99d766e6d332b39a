import Introspect.Command.Run
import Introspect.Proofs.Console.Brackets
import Introspect.Proofs.Console.Tables
import Introspect.Proofs.Command.Unresolved
import Introspect.Proofs.Hierarchy.Growth
import Introspect.Session.Basic

/-!
# The tables that commands show

Commands that list variants, dependents or global variables put the displays of values into the
cells of a table.  A cell that is wide enough shows what markup makes of a display: the display
itself, when it is literal, and less otherwise.  A display with faulty markup ends the command.

* `Scene.Tabulates`               the table that a command comes to, after the notes it writes;
* `Scene.run_of_tabulates`        such a command writes its table and ends with code 0;
* `Scene.run_ends`                it shows the table, unless one of the texts has faulty markup;
* `Session.tables_show_displays`  which displays are shown as they are.
-/

namespace Introspect

open Console (Output Level)
open Markup (IsPlain)

namespace Scene

variable {s : Scene} {o : Output}

/-! ## What tables hold -/

/-- the rows of a table of variants with their methods, in the order of the variants -/
def variantRows (s : Scene) (found : List (Nat × Nat)) : List (List String) :=
  let rows := found.map fun (v, m) =>
    ((Value.variant v).display s.view, (Value.method m).display s.view)
  (rows.mergeSort (byText Prod.fst)).map fun (v, m) => [v, m]

/-- whether a value can be shown -/
def Displays (s : Scene) (v : Value) : Prop := requireDisplay s.store v = .ok ()

/-- the displays of dependents, one a line -/
def dependentLines (s : Scene) (ds : List Value) : String :=
  if ds.isEmpty then "-" else "\n".intercalate (ds.map (Value.display s.view))

/-- a row of a table of dependents -/
def DependentsRow (s : Scene) (g : EdgeKey × List Value) (row : List String) : Prop :=
  ∃ label, s.edgeLabel g.1 = .ok label ∧ (∀ d ∈ g.2, s.Displays d)
    ∧ row = [label, s.dependentLines g.2]

/-- a row of a table of global variables: the name of the module, the name and maybe its value -/
def GlobalRow (s : Scene) (withValues : Bool) (m : Value) (bindings : Bindings) (n : String)
    (row : List String) : Prop :=
  ∃ name text value, s.moduleName m = .ok name ∧ s.cellText name = .ok text
    ∧ Value.lookup (.str n) bindings = some value ∧ (withValues = true → s.Displays value)
    ∧ row = [text, n] ++ if withValues then [value.display s.view] else []

/-- the rows of the global variables of one module -/
def GlobalRows (s : Scene) (withValues : Bool) (g : Value × List String)
    (rows : List (List String)) : Prop :=
  ∃ bindings, s.catalog.namespaceOf g.1 = .ok bindings
    ∧ List.Forall₂ (s.GlobalRow withValues g.1 bindings) g.2 rows

/-- the global variables that a command finds, with the notes that it writes and the modules whose
annotations it reads -/
def FindsGlobals (s : Scene) (name constness mutability : String) (recursive : Bool)
    (imported : Option Bool) (found : List (Value × List String)) (notes : List String)
    (read : List Nat) : Prop :=
  ∃ m settings modules k u noted, s.resolver.moduleTarget name = .ok m
    ∧ s.settings none imported = .ok settings
    ∧ s.scannedModules settings recursive (.module m) = .ok modules
    ∧ Constness.vocabulary.read s.view (.str constness) = .ok k
    ∧ Mutability.vocabulary.read s.view (.str mutability) = .ok u
    ∧ s.catalog.namesByModule settings none ⟨k, u⟩ modules = .ok found
    ∧ (modules.mapM fun m => do
        return s.catalog.globalsNotes settings ⟨k, u⟩ m ((← s.catalog.entriesOf m).map Prod.fst)
          (.fresh m)) = .ok noted
    ∧ notes = noted.flatten ∧ read = s.catalog.modulesRead settings ⟨k, u⟩ modules

/-- the table that a command comes to, after the notes it writes -/
inductive Tabulates (s : Scene) (o : Output) :
    CommandLine → Output → List Nat → Console.Table → Prop where
  | specializations {target : String} {signature : Option String} {f : Value}
      {filter : Option Signature} {found : List (Nat × Nat)} {notes : List String} {o' : Output}
      (target_eq : s.resolver.target target = .ok f)
      (filter_eq : signature.mapM s.resolver.parseSignature = .ok filter)
      (found_eq : (Introspect.specializations s.store s.view slotsSource f filter).run []
        = (.ok found, notes))
      (found_ne : found ≠ []) (notes_eq : writeNotes o notes = .ok o') :
      Tabulates s o (.specializations target signature) o' []
        { title := "Specializations of " ++ target
          columns := [⟨"Variant", .ellipsis⟩, ⟨"Method", .ellipsis⟩]
          rows := s.variantRows found }
  | backedges {target : String} {f : Value} {found : List (EdgeKey × List Value)}
      {notes : List String} {o' : Output} {rows : List (List String)}
      (target_eq : s.resolver.target target = .ok f)
      (found_eq : (Introspect.backedges s.store s.view slotsSource f).run [] = (.ok found, notes))
      (found_ne : found ≠ []) (notes_eq : writeNotes o notes = .ok o')
      (rows_eq : List.Forall₂ s.DependentsRow found rows) :
      Tabulates s o (.backedges target) o' []
        { title := "Backedges of " ++ target
          columns := [⟨"Source", .ellipsis⟩, ⟨"Dependents", .ellipsis⟩], rows }
  | globals {name constness mutability : String} {recursive : Bool} {imported : Option Bool}
      {withValues : Bool} {found : List (Value × List String)} {notes : List String}
      {read : List Nat} {o' : Output} {rows : List (List (List String))}
      (found_eq : s.FindsGlobals name constness mutability recursive imported found notes read)
      (found_ne : found ≠ []) (notes_eq : writeNotes o notes = .ok o')
      (rows_eq : List.Forall₂ (s.GlobalRows withValues) found rows) :
      Tabulates s o (.globals name constness mutability recursive imported withValues) o' read
        { title := "Globals of " ++ name
          columns := [⟨"Module", .ellipsis⟩, ⟨"Name", .ellipsis⟩]
            ++ (if withValues then [⟨"Value", .fold⟩] else [])
          rows := rows.flatten }

variable {c : CommandLine} {o' : Output} {read : List Nat} {t : Console.Table}

/-- the cells of a row have columns -/
theorem Tabulates.length_row (h : s.Tabulates o c o' read t) :
    ∀ row ∈ t.rows, row.length ≤ t.columns.length := by
  intro row hrow
  cases h with
  | specializations =>
    obtain ⟨⟨v, m⟩, -, rfl⟩ := List.mem_map.mp hrow
    exact Nat.le_refl 2
  | backedges _ _ _ _ rows_eq =>
    obtain ⟨g, -, label, -, -, rfl⟩ := exists_of_mem_forall₂ rows_eq hrow
    exact Nat.le_refl 2
  | @globals name constness mutability recursive imported withValues found notes read o' rows
      _ _ _ rows_eq =>
    obtain ⟨group, hgroup, hrow⟩ := List.mem_flatten.mp hrow
    obtain ⟨g, -, bindings, -, hrows⟩ := exists_of_mem_forall₂ rows_eq hgroup
    obtain ⟨n, -, module, text, value, -, -, -, -, rfl⟩ := exists_of_mem_forall₂ hrows hrow
    cases withValues with
    | false => exact Nat.le_refl 2
    | true => exact Nat.le_refl 3

theorem display_of_displays {v : Value} (h : s.Displays v) :
    s.resolver.display v = .ok (v.display s.view) :=
  congrArg (Except.map fun _ => v.display s.view) h

theorem dependentsText_of_displays {ds : List Value} (h : ∀ d ∈ ds, s.Displays d) :
    s.dependentsText ds = .ok (s.dependentLines ds) := by
  unfold dependentsText dependentLines
  split
  · rfl
  · have htexts : ds.mapM s.resolver.display = .ok (ds.map (Value.display s.view)) := by
      refine mapM_eq_ok_iff.mpr (List.forall₂_map_right_iff.mpr (List.forall₂_same.mpr ?_))
      exact fun d hd => display_of_displays (h d hd)
    exact bind_of_ok htexts _

theorem globalRow_eq {withValues : Bool} {m : Value} {bindings : Bindings} {n : String}
    {row : List String} (h : s.GlobalRow withValues m bindings n row) :
    s.globalRow withValues m bindings n = .ok row := by
  obtain ⟨name, text, value, hname, htext, hvalue, hdisplays, rfl⟩ := h
  refine (bind_of_ok hname _).trans ?_
  cases withValues with
  | false => exact bind_of_ok htext _
  | true =>
    have hbound : s.boundText bindings n = .ok (value.display s.view) := by
      unfold boundText
      rw [hvalue]
      exact display_of_displays (hdisplays rfl)
    rw [hbound]
    exact bind_of_ok htext _

theorem globalRows_eq {withValues : Bool} {g : Value × List String} {rows : List (List String)}
    (h : s.GlobalRows withValues g rows) : s.globalRows withValues g.1 g.2 = .ok rows := by
  obtain ⟨bindings, hbindings, hrows⟩ := h
  unfold globalRows
  rw [hbindings]
  exact mapM_eq_ok_iff.mpr (hrows.imp fun n row h => globalRow_eq h)

theorem resolving_of_ok {α : Type} {a : α} {x : Except Fault α} (h : x = .ok a)
    (phrase name : String) (kinds : FaultKind → Bool) (use : α → Except Fault Ending) :
    resolving o phrase name kinds x use = use a := by
  rw [h]
  rfl

/-- a command writes its table after its notes, and ends with code 0 -/
theorem run_of_tabulates (h : s.Tabulates o c o' read t) :
    s.run o c = (do return ⟨0, ← o'.table t, read⟩) := by
  cases h with
  | @specializations target signature f filter found notes o' target_eq filter_eq found_eq found_ne
      notes_eq =>
    have hinspected : inspected o (Introspect.specializations s.store s.view slotsSource f filter)
        = .ok (o', found) := by
      unfold inspected
      rw [found_eq]
      exact bind_of_ok notes_eq _
    refine (resolving_of_ok (a := (f, filter)) ?_ _ target isUnresolvedClass _).trans ?_
    · rw [target_eq]
      cases signature with
      | none => exact congrArg (fun filter => Except.ok (f, filter)) (Except.ok.inj filter_eq)
      | some text =>
        obtain ⟨sig, hsig, hfilter⟩ := bind_eq_ok_iff.mp filter_eq
        exact (bind_of_ok hsig _).trans
          (congrArg (fun filter => Except.ok (f, filter)) (Except.ok.inj hfilter))
    · refine (bind_of_ok hinspected _).trans ?_
      dsimp only
      rw [List.isEmpty_eq_false_iff.mpr found_ne]
      rfl
  | @backedges target f found notes o' rows target_eq found_eq found_ne notes_eq rows_eq =>
    have hrows : (found.mapM fun g => do
        return [← s.edgeLabel g.1, ← s.dependentsText g.2]) = .ok rows := by
      refine mapM_eq_ok_iff.mpr (rows_eq.imp ?_)
      rintro g row ⟨label, hlabel, hdisplays, rfl⟩
      exact (bind_of_ok hlabel _).trans (bind_of_ok (dependentsText_of_displays hdisplays) _)
    refine (resolving_of_ok target_eq _ target isUnresolved _).trans ?_
    dsimp only
    rw [found_eq]
    refine (bind_of_ok notes_eq _).trans ?_
    cases found with
    | nil => exact absurd rfl found_ne
    | cons g found => exact bind_of_ok hrows _
  | @globals name constness mutability recursive imported withValues found notes read o' rows
      found_eq found_ne notes_eq rows_eq =>
    obtain ⟨m, settings, modules, k, u, noted, hm, hsettings, hmodules, hk, hu, hfound, hnoted, rfl,
      rfl⟩ := found_eq
    have hrows : (found.mapM fun g => s.globalRows withValues g.1 g.2) = .ok rows :=
      mapM_eq_ok_iff.mpr (rows_eq.imp fun _ _ h => globalRows_eq h)
    refine (resolving_of_ok hm _ name FaultKind.isImport _).trans ?_
    refine (bind_of_ok hsettings _).trans ((bind_of_ok hmodules _).trans ?_)
    refine (bind_of_ok hk _).trans ((bind_of_ok hu _).trans ?_)
    refine (bind_of_ok hfound _).trans ((bind_of_ok hnoted _).trans ?_)
    refine (bind_of_ok notes_eq _).trans ?_
    dsimp only
    rw [List.isEmpty_eq_false_iff.mpr found_ne]
    exact bind_of_ok hrows _

/-- a command that comes to a table shows it, unless one of its texts has faulty markup -/
theorem run_ends (h : s.Tabulates o c o' read t) :
    Ends (fun e => ∃ lines, t.Shows o'.dialect lines ∧ e = ⟨0, o'.write lines, read⟩)
      (fun e => t.Faulty o'.dialect e ∧ ∃ problem tag, e = .badMarkup problem tag) (s.run o c) := by
  have hfaulty : ∀ e, t.Faulty o'.dialect e →
      t.Faulty o'.dialect e ∧ ∃ problem tag, e = .badMarkup problem tag := by
    rintro e ⟨text, htext, hplain⟩
    exact ⟨⟨text, htext, hplain⟩, ((Markup.plainOf_ends o'.dialect text).of_error hplain).2⟩
  have hlines := (Console.Table.lines_ends o'.dialect Console.consoleWidth h.length_row).mono hfaulty
  rw [run_of_tabulates h]
  have htable : Ends (fun o'' => ∃ lines, t.Shows o'.dialect lines ∧ o'' = o'.write lines)
      (fun e => t.Faulty o'.dialect e ∧ ∃ problem tag, e = .badMarkup problem tag) (o'.table t) :=
    hlines.bind fun lines hshows => .ok ⟨lines, hshows, rfl⟩
  refine htable.bind fun o'' ⟨lines, hshows, ho⟩ => .ok ⟨lines, hshows, ?_⟩
  rw [ho]

end Scene

namespace Session

/-- the names in the display of a variant have no role in markup -/
def UnmarkedVariant (σ : Session) (v : Nat) : Prop :=
  IsPlain (σ.store.function (σ.store.method (σ.store.variant v).method).function).name.toList
    ∧ ∀ t ∈ (σ.store.variant v).types, IsPlain (t.typeLabel (σ.viewOver σ.plainView)).toList

theorem tables_show_displays (σ : Session) (file : List UInt8) {o o' : Output} {c : CommandLine}
    {read : List Nat} {t : Console.Table} (h : (σ.scene file).Tabulates o c o' read t) :
    Ends (fun e => ∃ lines, t.Shows o'.dialect lines ∧ e = ⟨0, o'.write lines, read⟩)
        (fun e => t.Faulty o'.dialect e ∧ ∃ problem tag, e = .badMarkup problem tag)
        ((σ.scene file).run o c)
      ∧ (∀ v, σ.UnmarkedVariant v → Markup.Literal ((Value.variant v).display σ.view).toList)
      ∧ ∀ m, (σ.store.method m).Unmarked (σ.viewOver σ.plainView)
            (σ.store.function (σ.store.method m).function).name →
          (Markup.Literal ((Value.method m).display σ.view).toList
            ↔ ∀ p ∈ (σ.store.method m).optional,
                ¬ Markup.BeginsTag (p.typeLabel (σ.viewOver σ.plainView)).toList) := by
  refine ⟨Scene.run_ends h, fun v hv => ?_, fun m hm => ?_⟩
  · exact Store.literal_variant hv.1 hv.2
  · exact Method.literal_text_iff hm

/-- a session with a module that binds a function of an optional parameter, and one variant -/
def withOptional : Session where
  hierarchy := .baseOf 3
  store :=
    { Store.empty with
      functions := #[⟨"f", none, none, .slots, some ⟨[0], .held []⟩⟩]
      methods := #[⟨0, [.cls .object], [.cls .object], none, default, .slots,
        .slots ⟨#[some ([.cls .int], 0)], 1⟩⟩]
      variants := #[⟨0, [.cls .int], .held []⟩] }
  modules := #[builtinModule (.baseOf 3), { bindings := [(.str "f", .generic 0)] }]
  importable := ⟨[("builtins", 0), ("m", 1)], []⟩

/-- the class of an optional parameter is not shown, nor are the brackets around it -/
theorem tables_show_displays_withOptional : ∃ o' t,
    (withOptional.scene []).Tabulates {} (.specializations "m:f" none) o' [] t
      ∧ Ends (fun e => ∃ lines, t.Shows o'.dialect lines ∧ e = ⟨0, o'.write lines, []⟩)
          (fun e => t.Faulty o'.dialect e ∧ ∃ problem tag, e = .badMarkup problem tag)
          ((withOptional.scene []).run {} (.specializations "m:f" none))
      ∧ Markup.Literal ((Value.variant 0).display withOptional.view).toList
      ∧ ¬ Markup.Literal ((Value.method 0).display withOptional.view).toList
      ∧ (Value.method 0).display withOptional.view = "f(object, [object])"
      ∧ (Markup.Dialect.console.plainOf "f(object, [object])").toOption
        = some "f(object, )".toList := by
  have hfound : (Introspect.specializations withOptional.store withOptional.view slotsSource
      (.generic 0) none).run [] = (.ok [(0, 0)], []) := rfl
  have htabulates : (withOptional.scene []).Tabulates {} (.specializations "m:f" none) {} [] _ :=
    .specializations rfl rfl hfound (by decide) rfl
  obtain ⟨hrun, hvariant, hmethod⟩ := tables_show_displays withOptional [] htabulates
  have hunmarked : (withOptional.store.method 0).Unmarked
      (withOptional.viewOver withOptional.plainView) "f" :=
    ⟨by decide +kernel, by decide +kernel, by decide +kernel, by decide +kernel⟩
  refine ⟨{}, _, htabulates, hrun, hvariant 0 ⟨by decide +kernel, by decide +kernel⟩, ?_, ?_, ?_⟩
  · rw [hmethod 0 hunmarked]
    exact fun hnone => hnone (.cls .object) List.mem_cons_self ⟨'o', by decide +kernel, rfl⟩
  · decide +kernel
  · decide +kernel

end Session

end Introspect
