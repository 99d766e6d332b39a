import Introspect.Console.Output
import Mathlib.Data.List.DropRight

/-!
# Where records go

From the start on, one handler at the top writes to a console, and that console is the one in use.
Its threshold is that of the logger at the top, so that a record passes both or none.  A record that
reaches the console is read as markup, and it is shown once unless the markup is malformed.

* `Logging.Routes`             one handler writes to the console in use, others stay as they are;
* `Logging.Routes.change`      each call keeps that, and sets the threshold;
* `Logging.lowest`             the threshold after some calls;
* `Logging.routes_after`       so it is after any calls;
* `Logging.deliveries_after`   what becomes of a record then.
-/

namespace Introspect.Console

open Level (debug info)

/-! ## Handlers that write to no console -/

section
variable {others : List Handler} (h : ∀ x ∈ others, x.isConsole = false) (rank : Int)
include h

theorem filterMap_receiver?_of_others : others.filterMap (Handler.receiver? rank) = [] := by
  refine List.filterMap_eq_nil_iff.mpr fun x hx => ?_
  cases x with
  | console id threshold => exact nomatch h _ hx
  | other id => rfl

theorem map_lowered_of_others : others.map (Handler.lowered rank) = others := by
  refine (List.map_congr_left fun x hx => ?_).trans (List.map_id others)
  cases x with
  | console id threshold => exact nomatch h _ hx
  | other id => rfl

end

namespace Logging

variable {l : Logging} {others : List Handler} {low rank : Int} {changes : List Change}
  {loggers : List Logger}

/-! ## The calls -/

/-- one handler writes to the console in use, from the rank on from which the logger at the top
takes records; the others are given ones -/
structure Routes (l : Logging) (others : List Handler) (low : Int) : Prop where
  handlers : l.handlers = others ++ [.console l.active low]
  threshold : l.threshold = low
  active_lt : l.active < l.made

/-- whatever wrote to a console before is replaced -/
theorem routes_setConsole (l : Logging) (console : Nat) :
    (l.setConsole console).Routes (l.handlers.filter fun x => !x.isConsole) info.rank where
  handlers := rfl
  threshold := rfl
  active_lt := Nat.le_max_right l.made (console + 1)

theorem Routes.filter_handlers (h : l.Routes others low)
    (hothers : ∀ x ∈ others, x.isConsole = false) :
    (l.handlers.filter fun x => !x.isConsole) = others := by
  have hall : (others.filter fun x => !x.isConsole) = others :=
    List.filter_eq_self.mpr fun x hx => by rw [hothers x hx]; rfl
  rw [h.handlers, List.filter_append, hall]
  exact List.append_nil others

/-- each call keeps the one handler, and sets the threshold -/
theorem Routes.change (h : l.Routes others low) (hothers : ∀ x ∈ others, x.isConsole = false)
    (c : Change) :
    (l.change c).Routes others (if c.isSwap then info.rank else debug.rank) := by
  have hswap : ∀ console, (l.setConsole console).Routes others info.rank := by
    intro console
    have hroutes := routes_setConsole l console
    rwa [h.filter_handlers hothers] at hroutes
  cases c with
  | setConsole console => exact hswap console
  | resetConsole => exact hswap l.made
  | enableDebug =>
    refine ⟨?_, rfl, h.active_lt⟩
    show l.handlers.map _ = _
    rw [h.handlers, List.map_append, map_lowered_of_others hothers]
    rfl

theorem isConsole_of_mem_filter {x : Handler}
    (hx : x ∈ l.handlers.filter fun x => !x.isConsole) : x.isConsole = false :=
  (Bool.not_eq_true' _).mp (List.mem_filter.mp hx).2

theorem after_concat (l : Logging) (changes : List Change) (c : Change) :
    l.after (changes ++ [c]) = (l.after changes).change c :=
  List.foldl_concat ..

theorem after_append (l : Logging) (earlier later : List Change) :
    l.after (earlier ++ later) = (l.after earlier).after later :=
  List.foldl_append

/-- from which rank on records are shown after some calls: all of them once the thresholds were
lowered, unless another console has come into use since then -/
def lowest (changes : List Change) : Int :=
  if .enableDebug ∈ changes.rtakeWhile fun c => !c.isSwap then debug.rank else info.rank

theorem lowest_concat (changes : List Change) (c : Change) :
    lowest (changes ++ [c]) = if c.isSwap then info.rank else debug.rank := by
  unfold lowest
  rw [List.rtakeWhile_concat]
  cases c with
  | enableDebug => exact if_pos (List.mem_append_right _ (List.mem_singleton_self _))
  | _ => rfl

/-- so it is from the start on, whatever is called -/
theorem routes_after (l : Logging) (changes : List Change) :
    (l.resetConsole.after changes).Routes (l.handlers.filter fun x => !x.isConsole)
      (lowest changes) := by
  induction changes using List.reverseRecOn with
  | nil => exact routes_setConsole l l.made
  | append_singleton changes c ih =>
    rw [after_concat, lowest_concat]
    exact ih.change (fun x hx => isConsole_of_mem_filter hx) c

/-! ## The console in use -/

theorem made_le_change (l : Logging) (c : Change) : l.made ≤ (l.change c).made := by
  cases c with
  | enableDebug => exact Nat.le_refl _
  | _ => exact Nat.le_max_left ..

theorem made_le_after (l : Logging) (changes : List Change) : l.made ≤ (l.after changes).made := by
  induction changes generalizing l with
  | nil => exact Nat.le_refl _
  | cons c changes ih => exact Nat.le_trans (made_le_change l c) (ih (l.change c))

theorem active_after (l : Logging) (h : ∀ c ∈ changes, c.isSwap = false) :
    (l.after changes).active = l.active := by
  induction changes generalizing l with
  | nil => rfl
  | cons c changes ih =>
    obtain ⟨hc, hchanges⟩ := List.forall_mem_cons.mp h
    refine (ih (l.change c) hchanges).trans ?_
    cases c with
    | enableDebug => rfl
    | _ => exact nomatch hc

/-- the console in use is the one of the last swap, and one that was made for that is a new one -/
theorem active_of_swap (l : Logging) {earlier later : List Change} {swap : Change}
    (hlater : ∀ c ∈ later, c.isSwap = false) :
    (∀ console, swap = .setConsole console →
        (l.resetConsole.after (earlier ++ swap :: later)).active = console)
      ∧ (swap = .resetConsole → ∀ past, past <+: earlier →
          (l.resetConsole.after (earlier ++ swap :: later)).active
            ≠ (l.resetConsole.after past).active) := by
  have hactive : (l.resetConsole.after (earlier ++ swap :: later)).active
      = ((l.resetConsole.after earlier).change swap).active := by
    rw [after_append]
    exact active_after _ hlater
  rw [hactive]
  refine ⟨?_, ?_⟩
  · rintro console rfl
    rfl
  · rintro rfl past ⟨rest, rfl⟩
    have hlt := (routes_after l past).active_lt
    have hle := made_le_after (l.resetConsole.after past) rest
    rw [← after_append] at hle
    show (l.resetConsole.after (past ++ rest)).made ≠ _
    omega

/-! ## Records -/

theorem thresholdOf_eq (h : ∀ g ∈ loggers, g.threshold = none) :
    l.thresholdOf loggers = l.threshold := by
  unfold thresholdOf
  rw [List.findSome?_eq_none_iff.mpr h]
  rfl

theorem handlersOf_eq (h : ∀ g ∈ loggers, g.propagates = true) :
    l.handlersOf loggers = loggers.flatMap Logger.handlers ++ l.handlers := by
  induction loggers with
  | nil => rfl
  | cons g gs ih =>
    obtain ⟨hg, hgs⟩ := List.forall_mem_cons.mp h
    rw [handlersOf, if_pos hg, ih hgs, List.flatMap_cons, List.append_assoc]

/-- besides those of the loggers on the way, the console in use gets the record once -/
theorem Routes.receivers_eq (h : l.Routes others low)
    (hothers : ∀ x ∈ others, x.isConsole = false)
    (hloggers : ∀ g ∈ loggers, g.threshold = none ∧ g.propagates = true) :
    l.receivers loggers rank = if low ≤ rank then
        (loggers.flatMap Logger.handlers).filterMap (Handler.receiver? rank) ++ [l.active]
      else [] := by
  unfold receivers
  rw [thresholdOf_eq fun g hg => (hloggers g hg).1, handlersOf_eq fun g hg => (hloggers g hg).2,
    h.threshold, h.handlers, List.filterMap_append, List.filterMap_append,
    filterMap_receiver?_of_others hothers, List.nil_append]
  split
  · next hle =>
    have hlast : [Handler.console l.active low].filterMap (Handler.receiver? rank)
        = [l.active] := List.filterMap_cons_some (if_pos hle)
    rw [hlast]
  · rfl

/-- where no other handler writes to a console, a record is shown once or it is malformed -/
theorem Routes.deliveries_eq (h : l.Routes others low)
    (hothers : ∀ x ∈ others, x.isConsole = false)
    (hloggers : ∀ g ∈ loggers, g.threshold = none ∧ g.propagates = true)
    (hown : ∀ g ∈ loggers, ∀ x ∈ g.handlers, x.isConsole = false) (d : Markup.Dialect)
    (message : String) :
    l.deliveries d loggers rank message = if low ≤ rank then
        (d.plainOf message).map fun shown => [(l.active, shown)]
      else .ok [] := by
  have hnone : (loggers.flatMap Logger.handlers).filterMap (Handler.receiver? rank) = [] := by
    refine filterMap_receiver?_of_others (fun x hx => ?_) rank
    obtain ⟨g, hg, hx⟩ := List.mem_flatMap.mp hx
    exact hown g hg x hx
  unfold deliveries
  rw [h.receivers_eq hothers hloggers, hnone]
  split
  · rw [List.nil_append, List.mapM_cons, List.mapM_nil]
    cases d.plainOf message <;> rfl
  · rfl

/-- and then it is written once to the console in use -/
theorem Routes.log_eq {o : Output} (h : o.logging.Routes others low)
    (hothers : ∀ x ∈ others, x.isConsole = false)
    (hloggers : ∀ g ∈ loggers, g.threshold = none ∧ g.propagates = true)
    (hown : ∀ g ∈ loggers, ∀ x ∈ g.handlers, x.isConsole = false) (level : Level)
    (message : String) :
    o.log loggers level message = if low ≤ level.rank then
        (o.dialect.plainOf message).map (o.writeRecord level)
      else .ok o := by
  unfold Output.log
  rw [h.deliveries_eq hothers hloggers hown]
  split
  · cases o.dialect.plainOf message with
    | error e => rfl
    | ok shown =>
      have hkept : [(o.logging.active, shown)].filter (·.1 == o.logging.active)
          = [(o.logging.active, shown)] := List.filter_cons_of_pos (beq_self_eq_true _)
      show Except.ok (List.foldl _ o (List.filter _ _)) = _
      rw [hkept]
      rfl
  · rfl

/-- after any calls the console in use has one handler, behind the other ones, and the console is
that of the last swap; a record that passes the threshold is shown on it once, unless its markup is
malformed, and none is shown anywhere else, except by handlers of the loggers on its way -/
theorem deliveries_after (l : Logging) (changes : List Change) :
    let t := l.resetConsole.after changes
    t.handlers = (l.handlers.filter fun x => !x.isConsole)
        ++ [.console t.active (lowest changes)]
      ∧ t.threshold = lowest changes
      ∧ (∀ earlier swap later, changes = earlier ++ swap :: later →
          (∀ c ∈ later, c.isSwap = false) →
            (∀ console, swap = .setConsole console → t.active = console)
              ∧ (swap = .resetConsole → ∀ past, past <+: earlier →
                  t.active ≠ (l.resetConsole.after past).active))
      ∧ ∀ loggers : List Logger, (∀ g ∈ loggers, g.threshold = none ∧ g.propagates = true) →
          (∀ rank, t.receivers loggers rank = if lowest changes ≤ rank then
              (loggers.flatMap Logger.handlers).filterMap (Handler.receiver? rank) ++ [t.active]
            else [])
          ∧ ((∀ g ∈ loggers, ∀ x ∈ g.handlers, x.isConsole = false) → ∀ message,
              (∀ d rank, t.deliveries d loggers rank message = if lowest changes ≤ rank then
                  (d.plainOf message).map fun shown => [(t.active, shown)]
                else .ok [])
              ∧ ∀ (o : Output) (level : Level), o.logging = t →
                  o.log loggers level message = if lowest changes ≤ level.rank then
                      (o.dialect.plainOf message).map (o.writeRecord level)
                    else .ok o) := by
  intro t
  have hroutes : t.Routes _ _ := routes_after l changes
  have hothers : ∀ x ∈ l.handlers.filter fun x => !x.isConsole, x.isConsole = false :=
    fun x hx => isConsole_of_mem_filter hx
  refine ⟨hroutes.handlers, hroutes.threshold, ?_, fun loggers hloggers =>
    ⟨fun rank => hroutes.receivers_eq hothers hloggers, fun hown message => ⟨fun d rank =>
      hroutes.deliveries_eq hothers hloggers hown d message, ?_⟩⟩⟩
  · rintro earlier swap later rfl hlater
    exact active_of_swap l hlater
  · rintro o level ho
    rw [← ho] at hroutes
    exact hroutes.log_eq hothers hloggers hown level message

/-- a library writes notes to a console that came into use after another one, and was then opened
for notes -/
theorem deliveries_note :
    ((ofHandlers [.console 3 0, .other 1]).resetConsole.after
        [.enableDebug, .setConsole 5, .enableDebug]).deliveries .console [{}, {}] debug.rank
        "no storage"
      = .ok [(5, "no storage".toList)] := by
  have hloggers : ∀ g ∈ [({} : Logger), {}], g.threshold = none ∧ g.propagates = true := by decide
  have hown : ∀ g ∈ [({} : Logger), {}], ∀ x ∈ g.handlers, x.isConsole = false := by decide
  have hlater : ∀ c ∈ [Change.enableDebug], c.isSwap = false := by decide
  obtain ⟨-, -, hswap, hrecords⟩ := deliveries_after (ofHandlers [.console 3 0, .other 1])
    [.enableDebug, .setConsole 5, .enableDebug]
  obtain ⟨hactive, -⟩ := hswap [.enableDebug] (.setConsole 5) [.enableDebug] rfl hlater
  obtain ⟨hdeliveries, -⟩ := (hrecords [{}, {}] hloggers).2 hown "no storage"
  have hplain : Markup.Dialect.console.plainOf "no storage" = .ok "no storage".toList := by cbv
  rw [hdeliveries, hactive 5 rfl, if_pos (by decide), hplain]
  rfl

/-- a closing tag closes nothing when there is no open one -/
theorem afterTag_closing (d : Markup.Dialect) (cs : List Char) :
    ∃ e, d.afterTag [] ('/' :: cs) = .error e := by
  have hname : ('/' :: cs).takeWhile (· != '=') = '/' :: cs.takeWhile (· != '=') := rfl
  unfold Markup.Dialect.afterTag
  rw [hname]
  dsimp only
  split
  · next closing _ =>
    split
    · exact ⟨_, rfl⟩
    · cases d.nameOf (Text.trimChars closing) with
      | error e => exact ⟨e, rfl⟩
      | ok wanted => exact ⟨_, rfl⟩
  · next hother => exact absurd rfl (hother _)

/-- an error about a name with a tag that closes nothing is shown nowhere -/
theorem not_delivered_strayTag :
    lowest [] ≤ Level.error.rank
      ∧ ∀ (d : Markup.Dialect) shown,
        ((ofHandlers []).resetConsole.after []).deliveries d [] Level.error.rank
            "❌ Cannot resolve a[/b]c: Cannot import any prefix of 'a[/b]c'"
          ≠ .ok [(((ofHandlers []).resetConsole.after []).active, shown)] := by
  refine ⟨by decide, fun d shown h => ?_⟩
  obtain ⟨e, he⟩ := afterTag_closing d ['b']
  have hpieces : Markup.pieces
        "❌ Cannot resolve a[/b]c: Cannot import any prefix of 'a[/b]c'".toList
      = [.text "❌ Cannot resolve a".toList, .tag ['/', 'b'],
        .text "c: Cannot import any prefix of 'a".toList, .tag ['/', 'b'], .text "c'".toList] := by
    decide +kernel
  have hplain : d.plainOf "❌ Cannot resolve a[/b]c: Cannot import any prefix of 'a[/b]c'"
      = .error e := by
    unfold Markup.Dialect.plainOf
    rw [hpieces, Markup.Dialect.shownPieces, Markup.Dialect.shownPieces, he]
    rfl
  have hreceivers : ((ofHandlers []).resetConsole.after []).receivers [] Level.error.rank = [0] :=
    rfl
  unfold deliveries at h
  rw [hreceivers, List.mapM_cons, hplain] at h
  exact nomatch h

end Logging

end Introspect.Console
