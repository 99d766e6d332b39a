import Introspect.Proofs.Targets.Faults

/-!
# Targets that cannot be resolved, on the command line

Every command resolves a text first and reports its fault.  The faults of names that no module can
have are of other kinds than the ones that are expected, and end the program.

* `Markup.plainOf_ends`        a message without brackets can be shown;
* `CommandLine.moduleNames`    the names of modules that a command looks for;
* `CommandLine.Escapes`        the faults of these names that are not reported;
* `Scene.resolution`           what a command resolves first;
* `Scene.Reports`              a message is written and the exit code is 1;
* `Scene.run_of_fault`         how a command ends when its text cannot be resolved;
* `Scene.run_unresolved`       in an ordinary world all other faults are reported.
-/

namespace Introspect

open Console (Output Level)
open Resolver (moduleText signatureParts TargetFault)

/-! ## Messages -/

namespace Markup

variable (d : Dialect)

theorem nameOf_ends (cs : List Char) :
    Ends (fun _ => True) (fun e => ∃ problem tag, e = .badMarkup problem tag) (d.nameOf cs) := by
  unfold Dialect.nameOf
  split
  · exact .ok trivial
  · exact .error ⟨_, _, rfl⟩

theorem close_ends (t : OpenTag) :
    Ends (fun _ => True) (fun e => ∃ problem tag, e = .badMarkup problem tag) (d.close t) := by
  unfold Dialect.close
  split
  · exact .error ⟨_, _, rfl⟩
  · exact .ok trivial

theorem afterTag_ends (opened : List OpenTag) (inside : List Char) :
    Ends (fun _ => True) (fun e => ∃ problem tag, e = .badMarkup problem tag)
      (d.afterTag opened inside) := by
  unfold Dialect.afterTag
  dsimp only
  split
  · split
    · split
      · exact .error ⟨_, _, rfl⟩
      · exact (close_ends d _).bind fun _ _ => .ok trivial
    · refine (nameOf_ends d _).bind fun wanted _ => ?_
      split
      · exact .error ⟨_, _, rfl⟩
      · exact (close_ends d _).bind fun _ _ => .ok trivial
  · exact (nameOf_ends d _).bind fun _ _ => .ok trivial

theorem shownPieces_ends (opened : List OpenTag) (ps : List Piece) :
    Ends (fun _ => True) (fun e => ∃ problem tag, e = .badMarkup problem tag)
      (d.shownPieces opened ps) := by
  induction ps generalizing opened with
  | nil => exact .ok trivial
  | cons p ps ih =>
    cases p with
    | text cs => exact (ih opened).bind fun _ _ => .ok trivial
    | tag inside => exact (afterTag_ends d opened inside).bind fun opened' _ => ih opened'

theorem mem_textPiece {cs : List Char} {p : Piece} (h : p ∈ textPiece cs) : p = .text cs := by
  unfold textPiece at h
  split at h
  · exact nomatch h
  · exact List.mem_singleton.mp h

/-- without brackets there are no tags -/
theorem piecesWithin_text (n : Nat) (plain : List Char) {cs : List Char} (hcs : '[' ∉ cs) :
    ∀ p ∈ piecesWithin n plain cs, ∃ shown, p = .text shown := by
  induction n generalizing plain cs with
  | zero => exact fun p hp => ⟨_, mem_textPiece hp⟩
  | succ n ih =>
    cases cs with
    | nil => exact fun p hp => ⟨_, mem_textPiece hp⟩
    | cons c r =>
      unfold piecesWithin
      rw [if_neg fun (hc : c = '[') => hcs (hc ▸ List.mem_cons_self)]
      exact ih (c :: plain) fun hr => hcs (List.mem_cons_of_mem c hr)

theorem shownPieces_text (opened : List OpenTag) {ps : List Piece}
    (hps : ∀ p ∈ ps, ∃ cs, p = .text cs) : ∃ shown, d.shownPieces opened ps = .ok shown := by
  induction ps with
  | nil => exact ⟨[], rfl⟩
  | cons p ps ih =>
    obtain ⟨cs, rfl⟩ := hps p List.mem_cons_self
    obtain ⟨shown, hshown⟩ := ih fun q hq => hps q (List.mem_cons_of_mem _ hq)
    exact ⟨shownChars cs ++ shown, by rw [Dialect.shownPieces, hshown]; rfl⟩

/-- a text with markup that is well formed; other texts hold a bracket -/
theorem plainOf_ends (text : String) :
    Ends (fun _ => True)
      (fun e => '[' ∈ text.toList ∧ ∃ problem tag, e = .badMarkup problem tag)
      (d.plainOf text) := by
  by_cases hbracket : '[' ∈ text.toList
  · exact (shownPieces_ends d [] _).mono fun e he => ⟨hbracket, he⟩
  · obtain ⟨shown, hshown⟩ := shownPieces_text d []
      (piecesWithin_text text.toList.length [] hbracket)
    have hplain : d.plainOf text = .ok shown := hshown
    rw [hplain]
    exact .ok trivial

end Markup

theorem report_error_ends (o : Output) (message : String) :
    Ends (fun _ => True)
      (fun e => '[' ∈ message.toList ∧ ∃ problem tag, e = .badMarkup problem tag)
      (o.report .error message) := by
  unfold Output.report Output.log Console.Logging.deliveries
  refine (Ends.mapM fun _ _ => ?_).bind fun _ _ => .ok trivial
  have hplain := Markup.plainOf_ends o.dialect (Level.error.mark ++ message)
  refine (hplain.mono fun e he => ⟨?_, he.2⟩).bind fun _ _ => .ok trivial
  have hmem := he.1
  rw [String.toList_append] at hmem
  exact (List.mem_append.mp hmem).resolve_left (by decide)

namespace CommandLine

/-! ## What a command looks for -/

/-- the names of modules that the texts of a command begin with -/
def moduleNames : CommandLine → List String
  | .specializations target signature =>
    moduleText target :: (signature.elim [] signatureParts).map moduleText
  | .backedges target | .typeTree target | .supertypes target => [moduleText target]
  | .submodules name .. | .functions name | .globals name .. => [name]

/-- whether a command resolves texts that have to be classes -/
def takesClasses : CommandLine → Bool
  | .specializations .. | .typeTree _ | .supertypes _ => true
  | .backedges _ | .submodules .. | .functions _ | .globals .. => false

/-- the message about a fault of resolving the text of a command -/
def complaint (e : Fault) : CommandLine → String
  | .specializations name _ | .backedges name | .typeTree name | .supertypes name =>
    "Cannot resolve" ++ " " ++ name ++ ": " ++ e.message
  | .submodules name .. | .functions name | .globals name .. =>
    "Cannot import" ++ " " ++ name ++ ": " ++ e.message

/-- the faults that a command reports -/
def reported : CommandLine → FaultKind → Bool
  | .specializations .. | .typeTree _ | .supertypes _ => Scene.isUnresolvedClass
  | .backedges _ => Scene.isUnresolved
  | .submodules .. | .functions _ | .globals .. => FaultKind.isImport

/-- the faults of names that are not reported: those of the empty name, and those of a relative name
unless a class is asked for -/
inductive Escapes (c : CommandLine) : Fault → Prop where
  | empty (h : "" ∈ c.moduleNames) : Escapes c .emptyModuleName
  | relative {name : String} (hname : name ∈ c.moduleNames) (hdot : name.toList.head? = some '.')
    (h : c.takesClasses = false) : Escapes c (.relativeModuleName (Text.quoted name))

variable {c : CommandLine} {e : Fault}

theorem Escapes.not_reported (h : c.Escapes e) : c.reported e.kind = false := by
  cases h with
  | empty h => cases c <;> rfl
  | relative hname hdot h =>
    cases c with
    | specializations | typeTree | supertypes => exact nomatch h
    | _ => rfl

theorem escapes_of_nameFault {name : String} (hname : name ∈ c.moduleNames) (he : NameFault name e)
    (h : c.reported e.kind = false) : c.Escapes e := by
  cases he with
  | empty hempty => exact .empty (hempty ▸ hname)
  | relative hdot =>
    refine .relative hname hdot ?_
    cases c with
    | specializations | typeTree | supertypes => exact nomatch h
    | _ => rfl

end CommandLine

namespace Scene

variable {s : Scene} {o : Output} {c : CommandLine} {e : Fault}

/-- what a command resolves before anything else -/
def resolution (s : Scene) : CommandLine → Except Fault Unit
  | .specializations target signature => do
    let _ ← s.resolver.target target
    match signature with
    | none => return ()
    | some text => do
      let _ ← s.resolver.parseSignature text
      return ()
  | .backedges target => do
    let _ ← s.resolver.target target
    return ()
  | .typeTree name | .supertypes name => do
    let _ ← s.resolver.classTarget name
    return ()
  | .submodules name .. | .functions name | .globals name .. => do
    let _ ← s.resolver.moduleTarget name
    return ()

/-- a message is written as an error and the exit code is 1, unless its markup is malformed -/
inductive Reports (o : Output) (message : String) : Except Fault Ending → Prop where
  | logged {o' : Output} (h : o.report .error message = .ok o') :
    Reports o message (.ok { code := 1, output := o' })
  | malformed {problem : TagProblem} {tag : String} (hbracket : '[' ∈ message.toList)
    (h : o.report .error message = .error (.badMarkup problem tag)) :
    Reports o message (.error (.badMarkup problem tag))

theorem reports_endWith (o : Output) (message : String) :
    Reports o message (endWith o 1 .error message) := by
  unfold endWith
  cases hreport : o.report .error message with
  | ok o' => exact .logged hreport
  | error e =>
    obtain ⟨hbracket, problem, tag, rfl⟩ := (report_error_ends o message).of_error hreport
    exact .malformed hbracket hreport

theorem resolving_of_error {α : Type} {x : Except Fault α} (h : x = .error e) (phrase name : String)
    (kinds : FaultKind → Bool) (use : α → Except Fault Ending) :
    resolving o phrase name kinds x use
      = if kinds e.kind then endWith o 1 .error (phrase ++ " " ++ name ++ ": " ++ e.message)
        else .error e := by
  rw [h]
  rfl

/-- a fault of the resolution is all that a command is about -/
theorem run_of_fault (h : s.resolution c = .error e) :
    s.run o c = if c.reported e.kind then endWith o 1 .error (c.complaint e) else .error e := by
  cases c with
  | specializations target signature =>
    refine resolving_of_error ?_ _ target isUnresolvedClass _
    dsimp only [resolution] at h
    cases htarget : s.resolver.target target with
    | error e' =>
      rw [htarget] at h
      exact congrArg _ (Except.error.inj h)
    | ok f =>
      rw [htarget] at h
      cases signature with
      | none => exact nomatch h
      | some text =>
        have hx : s.resolver.parseSignature text = .error e := error_of_discarded h
        dsimp only [bind, Except.bind]
        rw [hx]
  | backedges target => exact resolving_of_error (error_of_discarded h) _ _ _ _
  | typeTree name => exact resolving_of_error (error_of_discarded h) _ _ _ _
  | supertypes name => exact resolving_of_error (error_of_discarded h) _ _ _ _
  | submodules name direct foundational imported =>
    exact resolving_of_error (error_of_discarded h) _ _ _ _
  | functions name => exact resolving_of_error (error_of_discarded h) _ _ _ _
  | globals name constness mutability recursive imported values =>
    exact resolving_of_error (error_of_discarded h) _ _ _ _

theorem isUnresolved_of_missing (h : e.kind.isImport = true ∨ e.kind = .attribute) :
    isUnresolved e.kind = true := by
  unfold isUnresolved
  rcases h with h | h
  · rw [h, Bool.true_or]
  · rw [h]
    rfl

theorem isUnresolvedClass_of_missing (h : (e.kind.isImport = true ∨ e.kind = .attribute)
    ∨ e.kind = .type) : isUnresolvedClass e.kind = true := by
  unfold isUnresolvedClass
  rcases h with h | h
  · rw [isUnresolved_of_missing h, Bool.true_or]
  · rw [h]
    rfl

/-- the fault of a name that is looked for, or one that is reported -/
theorem resolution_fault (hr : s.resolver.Ordinary) (h : s.resolution c = .error e) :
    (∃ name ∈ c.moduleNames, NameFault name e) ∨ c.reported e.kind = true := by
  have htarget : ∀ name, s.resolver.target name = .error e → TargetFault (moduleText name) e :=
    fun name hname => (Resolver.target_ends hr name).of_error hname
  have hclass : ∀ name, TargetFault (moduleText name) e ∨ e.kind = .type →
      NameFault (moduleText name) e ∨ isUnresolvedClass e.kind = true := fun name he =>
    (or_assoc.mp he).imp_right isUnresolvedClass_of_missing
  have hclassTarget : ∀ name, s.resolver.classTarget name = .error e →
      NameFault (moduleText name) e ∨ isUnresolvedClass e.kind = true := fun name hname =>
    hclass name ((Resolver.classTarget_ends hr name).of_error hname)
  have hmodule : ∀ name, s.resolver.moduleTarget name = .error e →
      NameFault name e ∨ e.kind.isImport = true := by
    intro name hname
    refine ((hr.imports.ends name).of_error hname).imp_right fun hkind => ?_
    rw [hkind]
    rfl
  have hself : ∀ {name : String}, NameFault name e → ∃ n ∈ [name], NameFault n e :=
    fun he => ⟨_, List.mem_singleton_self _, he⟩
  cases c with
  | specializations target signature =>
    dsimp only [resolution] at h
    cases hfound : s.resolver.target target with
    | error e' =>
      rw [hfound] at h
      obtain rfl := Except.error.inj h
      exact (hclass target (.inl (htarget target hfound))).imp_left fun he =>
        ⟨_, List.mem_cons_self, he⟩
    | ok f =>
      rw [hfound] at h
      cases signature with
      | none => exact nomatch h
      | some text =>
        obtain ⟨part, hpart, he⟩ :=
          (Resolver.parseSignature_ends hr text).of_error (error_of_discarded h)
        exact (hclass part he).imp_left fun he =>
          ⟨_, List.mem_cons_of_mem _ (List.mem_map_of_mem hpart), he⟩
  | backedges target =>
    exact (htarget target (error_of_discarded h)).imp hself isUnresolved_of_missing
  | typeTree name => exact (hclassTarget name (error_of_discarded h)).imp_left hself
  | supertypes name => exact (hclassTarget name (error_of_discarded h)).imp_left hself
  | submodules name direct foundational imported =>
    exact (hmodule name (error_of_discarded h)).imp_left hself
  | functions name => exact (hmodule name (error_of_discarded h)).imp_left hself
  | globals name constness mutability recursive imported values =>
    exact (hmodule name (error_of_discarded h)).imp_left hself

/-- a text that is refused for the name of its module cannot be resolved -/
theorem resolution_of_refused {name : String} {names : List String}
    (hnames : c.moduleNames = name :: names) (he : NameFault name e)
    (h : s.resolver.importModule name = .error e)
    (hbound : name = "" → s.resolver.attributeOf (.module s.resolver.builtins) "" = .ok none) :
    s.resolution c = .error e := by
  have htarget : ∀ t, moduleText t = name → s.resolver.target t = .error e := by
    rintro t rfl
    refine Resolver.target_of_refused he h fun ht => hbound ?_
    rw [ht]
    rfl
  cases c with
  | specializations target signature =>
    exact bind_of_error (htarget target (List.cons.inj hnames).1) _
  | backedges target => exact bind_of_error (htarget target (List.cons.inj hnames).1) _
  | typeTree t | supertypes t =>
    exact bind_of_error (Resolver.classTarget_of_error (htarget t (List.cons.inj hnames).1)) _
  | submodules t | functions t | globals t =>
    obtain rfl : t = name := (List.cons.inj hnames).1
    exact bind_of_error h _

/-- in an ordinary world a text that cannot be resolved is reported, unless its fault is one of a
name that is refused; such a name is refused before anything else is looked at -/
theorem run_unresolved (hr : s.resolver.Ordinary) (o : Output) (c : CommandLine) :
    (∀ e, s.resolution c = .error e →
      (c.Escapes e ∧ s.run o c = .error e)
        ∨ (¬ c.Escapes e ∧ Reports o (c.complaint e) (s.run o c)))
    ∧ (∀ name names, c.moduleNames = name :: names → name.toList.head? = some '.' →
        s.resolution c = .error (.relativeModuleName (Text.quoted name)))
    ∧ (∀ names, c.moduleNames = "" :: names →
        s.resolver.attributeOf (.module s.resolver.builtins) "" = .ok none →
        s.resolution c = .error .emptyModuleName) := by
  refine ⟨fun e h => ?_, fun name names hnames hdot => ?_, fun names hnames hbound => ?_⟩
  · rw [run_of_fault h]
    by_cases hreported : c.reported e.kind = true
    · refine .inr ⟨fun hescapes => ?_, ?_⟩
      · exact Bool.false_ne_true (hescapes.not_reported.symm.trans hreported)
      · rw [if_pos hreported]
        exact reports_endWith o _
    · obtain ⟨name, hname, he⟩ := (resolution_fault hr h).resolve_right hreported
      refine .inl ⟨CommandLine.escapes_of_nameFault hname he ?_, if_neg hreported⟩
      exact Bool.eq_false_iff.mpr hreported
  · refine resolution_of_refused hnames (.relative hdot) (hr.imports.relative name hdot) ?_
    rintro rfl
    exact nomatch hdot
  · exact resolution_of_refused hnames (.empty rfl) hr.imports.empty fun _ => hbound

/-- where no module can be imported: a missing one is reported, and so is a relative name where a
class is asked for; other relative names and the empty name are not -/
theorem run_withoutModules :
    let session : Session := { importable := ⟨[], []⟩ }
    let s : Scene :=
      { resolver :=
          { session.resolver with
            attributeOf := fun v name => .ok (session.resolver.scope.plainAttribute v name) }
        settingsFile := none }
    let relative : Fault := .relativeModuleName (Text.quoted ".x")
    Reports {} "Cannot import nope: No module named 'nope'" (s.run {} (.functions "nope"))
      ∧ Reports {} (CommandLine.complaint relative (.typeTree ".x")) (s.run {} (.typeTree ".x"))
      ∧ s.run {} (.backedges ".x") = .error relative
      ∧ s.run {} (.functions "") = .error .emptyModuleName := by
  intro session s relative
  have hr : s.resolver.Ordinary :=
    ⟨Importable.ordinaryImports rfl, fun v name e _ h => nomatch h⟩
  have htypeTree : s.resolution (.typeTree ".x") = .error relative :=
    (run_unresolved hr {} _).2.1 ".x" [] rfl rfl
  have hbackedges : s.resolution (.backedges ".x") = .error relative :=
    (run_unresolved hr {} _).2.1 ".x" [] rfl rfl
  have hnope : s.resolution (.functions "nope") =
      .error (.missingModule (some "nope") "No module named 'nope'") := rfl
  refine ⟨?_, ?_, ?_, ?_⟩
  · rcases (run_unresolved hr {} _).1 _ hnope with ⟨hescapes, -⟩ | ⟨-, hreports⟩
    · exact nomatch hescapes
    · exact hreports
  · rcases (run_unresolved hr {} _).1 _ htypeTree with ⟨hescapes, -⟩ | ⟨-, hreports⟩
    · exact absurd hescapes.not_reported Bool.noConfusion
    · exact hreports
  · rcases (run_unresolved hr {} _).1 _ hbackedges with ⟨-, hrun⟩ | ⟨hescapes, -⟩
    · exact hrun
    · exact absurd (.relative (List.mem_singleton_self ".x") rfl rfl) hescapes
  · rcases (run_unresolved hr {} (.functions "")).1 _ rfl with ⟨-, hrun⟩ | ⟨hescapes, -⟩
    · exact hrun
    · exact absurd (.empty (List.mem_singleton_self "")) hescapes

end Scene

end Introspect
