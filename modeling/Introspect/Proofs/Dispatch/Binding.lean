import Introspect.Dispatch.Parameters
import Introspect.Proofs.Lists

/-!
# Binding the arguments of a call

A parameter list has its kinds in order, its names are different, and no parameter by position has
a default before one without.  Then the parameters by position come first, and the `j`-th of them
takes the `j`-th argument.

* `Parameter.WellFormed`        the parameter lists that a function can have;
* `received`                    the value of the parameter at a place;
* `lookup_of_bindArguments`     a call that is bound has these values under the names;
* `PositionsFit`, `NamedFit`    what binding asks of the number of arguments, and of the named ones;
* `exists_bindArguments_iff`    when as many arguments fit, binding asks for the rest only;
* `exists_bindPositional_iff`   binding the parameters by position asks for the number only;
* `Receives`                    the parameter at a place receives an argument, in every call;
* `receives_iff`                the place of the parameter that does.
-/

namespace Introspect

open DeclaredTypes (isPositional)

/-! ## Parameter lists -/

/-- the order in which kinds of parameters stand -/
def ParameterKind.rank : ParameterKind → Nat
  | .positionalOnly => 0
  | .positional => 1
  | .variadic => 2
  | .keywordOnly => 3
  | .keywordRest => 4

namespace Parameter

variable {p q : Parameter Value} {params : List (Parameter Value)} {j : Nat}

/-- whether one parameter may stand before another one -/
def Precedes (p q : Parameter Value) : Prop :=
  p.name ≠ q.name ∧ p.kind.rank ≤ q.kind.rank
    ∧ (p.kind = q.kind → p.kind ≠ .variadic ∧ p.kind ≠ .keywordRest)
    ∧ (isPositional q = true → p.default.isSome = true → q.default.isSome = true)

instance : DecidableRel Precedes := fun p q => by unfold Precedes; infer_instance

def WellFormed (params : List (Parameter Value)) : Prop := params.Pairwise Precedes

instance : Decidable (WellFormed params) := by unfold WellFormed; infer_instance

/-- whether a parameter takes arguments by position, one or all that are left -/
def takesByPosition (p : Parameter Value) : Bool := isPositional p || p.kind == .variadic

theorem isPositional_iff : isPositional p = true ↔ p.kind.rank < 2 := by
  unfold isPositional
  cases p.kind <;> decide

theorem takesByPosition_iff : takesByPosition p = true ↔ p.kind.rank < 3 := by
  unfold takesByPosition isPositional
  cases p.kind <;> decide

theorem Precedes.isPositional (h : p.Precedes q) (hq : isPositional q = true) :
    DeclaredTypes.isPositional p = true :=
  isPositional_iff.mpr (Nat.lt_of_le_of_lt h.2.1 (isPositional_iff.mp hq))

theorem Precedes.takesByPosition (h : p.Precedes q) (hq : takesByPosition q = true) :
    Parameter.takesByPosition p = true :=
  takesByPosition_iff.mpr (Nat.lt_of_le_of_lt h.2.1 (takesByPosition_iff.mp hq))

namespace WellFormed

variable (h : WellFormed params)
include h

theorem filter (test : Parameter Value → Bool) : WellFormed (params.filter test) :=
  List.Pairwise.filter test h

theorem nodup_names : (params.map Parameter.name).Nodup :=
  List.pairwise_map.mpr (h.imp fun hpq => hpq.1)

theorem eq_of_name (hp : p ∈ params) (hq : q ∈ params) (hname : p.name = q.name) : p = q :=
  List.inj_on_of_nodup_map h.nodup_names hp hq hname

theorem precedes {i : Nat} (hi : params[i]? = some p) (hj : params[j]? = some q) (hij : i < j) :
    p.Precedes q := by
  obtain ⟨hi', rfl⟩ := List.getElem?_eq_some_iff.mp hi
  obtain ⟨hj', rfl⟩ := List.getElem?_eq_some_iff.mp hj
  exact List.pairwise_iff_getElem.mp h i j hi' hj' hij

/-- the parameters that take one argument by position come first -/
theorem isPositional_iff_lt (hj : params[j]? = some p) :
    isPositional p = true ↔ j < params.countP isPositional := by
  have hfilter : ∀ {q}, (params.filter isPositional)[j]? = some q
      ↔ params[j]? = some q ∧ isPositional q = true :=
    getElem?_filter_iff (h.imp fun hpq => hpq.isPositional)
  rw [List.countP_eq_length_filter]
  constructor
  · exact fun hp => (List.getElem?_eq_some_iff.mp (hfilter.mpr ⟨hj, hp⟩)).1
  · intro hlt
    obtain ⟨hj', hp⟩ := hfilter.mp (List.getElem?_eq_getElem hlt)
    obtain rfl := Option.some.inj (hj.symm.trans hj')
    exact hp

/-- the parameter for further arguments comes next -/
theorem place_of_variadic (hj : params[j]? = some p) (hp : p.kind = .variadic) :
    j = params.countP isPositional := by
  have hlt := (List.getElem?_eq_some_iff.mp hj).1
  have hge : ¬j < params.countP isPositional := by
    rw [← h.isPositional_iff_lt hj, isPositional_iff, hp]
    decide
  by_contra hne
  -- otherwise a parameter by no position would stand before it
  have hk : params.countP isPositional < j := by omega
  obtain ⟨q, hq⟩ : ∃ q, params[params.countP isPositional]? = some q :=
    ⟨_, List.getElem?_eq_getElem (by omega)⟩
  obtain ⟨-, hle, honce, -⟩ := h.precedes hq hj hk
  have hrank := h.isPositional_iff_lt hq
  rw [isPositional_iff, iff_false_right (Nat.lt_irrefl _)] at hrank
  rw [hp] at hle honce
  cases hkind : q.kind <;> simp [hkind, ParameterKind.rank] at hrank hle honce

end WellFormed

end Parameter

open Parameter (WellFormed takesByPosition)

/-! ## The values of parameters -/

section
variable {named : List (String × Value)} {args args' rest : List Value} {env : Environment}
  {p q : Parameter Value} {params : List (Parameter Value)} {i j n : Nat} {v w : Value}

/-- the value of the parameter at place `j`, as long as those before it take one argument each -/
def received (named : List (String × Value)) (args : List Value) (j : Nat) (p : Parameter Value) :
    Except Fault Value :=
  match p.kind with
  | .positionalOnly | .positional => bindOne p args[j]? named
  | .variadic => .ok (.tuple (args.drop j))
  | .keywordOnly => bindOne p none named
  | .keywordRest => .ok .none

theorem received_of_isPositional (hp : isPositional p = true) :
    received named args j p = bindOne p args[j]? named := by
  unfold isPositional at hp
  unfold received
  cases hk : p.kind <;> simp [hk] at hp ⊢

/-- the arguments by position that a parameter leaves over -/
def leftBy (args : List Value) (p : Parameter Value) : List Value :=
  match p.kind with
  | .positionalOnly | .positional => args.tail
  | .variadic => []
  | .keywordOnly | .keywordRest => args

theorem bindFrom_cons (named : List (String × Value)) (p : Parameter Value)
    (ps : List (Parameter Value)) (args : List Value) :
    bindFrom named (p :: ps) args = (do
      let v ← received named args 0 p
      let (env, rest) ← bindFrom named ps (leftBy args p)
      return ((p.name, v) :: env, rest)) := by
  rw [bindFrom, received, leftBy, ← List.head?_eq_getElem?]
  cases p.kind <;> rfl

/-- a parameter that comes later receives the same value from what is left over -/
theorem received_leftBy (h : p.Precedes q) (args : List Value) (j : Nat) :
    received named (leftBy args p) j q = received named args (j + 1) q := by
  obtain ⟨-, hle, honce, -⟩ := h
  unfold received leftBy
  generalize hk : p.kind = k at hle honce
  generalize hk' : q.kind = k' at hle honce
  cases k <;> cases k' <;> simp [ParameterKind.rank] at hle honce ⊢

/-- what all parameters leave over: nothing where one takes what is left, and otherwise what comes
after as many arguments as there are parameters by position -/
theorem foldl_leftBy_eq_nil_iff (params : List (Parameter Value)) (args : List Value) :
    params.foldl leftBy args = []
      ↔ (∃ p ∈ params, p.kind = .variadic) ∨ args.length ≤ params.countP isPositional := by
  induction params generalizing args with
  | nil => simp
  | cons p ps ih =>
    rw [List.foldl_cons, ih, List.countP_cons]
    simp only [List.mem_cons, exists_eq_or_imp]
    unfold leftBy isPositional
    cases p.kind <;> simp

/-- parameters that are bound have their values, in order, and leave over what none of them takes -/
theorem of_bindFrom (hps : WellFormed params) (h : bindFrom named params args = .ok (env, rest)) :
    env.map Prod.fst = params.map Parameter.name
      ∧ (∀ j p, params[j]? = some p →
          ∃ v, env[j]? = some (p.name, v) ∧ received named args j p = .ok v)
      ∧ rest = params.foldl leftBy args := by
  induction params generalizing args env with
  | nil =>
    obtain ⟨rfl, rfl⟩ := Prod.mk.inj (Except.ok.inj h)
    exact ⟨rfl, nofun, rfl⟩
  | cons p ps ih =>
    obtain ⟨hp, hps⟩ := List.pairwise_cons.mp hps
    rw [bindFrom_cons] at h
    cases hv : received named args 0 p with
    | error e => rw [hv] at h; exact nomatch h
    | ok v =>
      rw [hv] at h
      cases htail : bindFrom named ps (leftBy args p) with
      | error e => simp only [bind, Except.bind, htail] at h; exact nomatch h
      | ok r =>
        simp only [bind, Except.bind, htail] at h
        obtain ⟨rfl, rfl⟩ := Prod.mk.inj (Except.ok.inj h)
        obtain ⟨hnames, hvalues, hrest⟩ := ih hps htail
        refine ⟨congrArg (p.name :: ·) hnames, fun j q hj => ?_, hrest⟩
        cases j with
        | zero =>
          obtain rfl := Option.some.inj hj
          exact ⟨v, rfl, hv⟩
        | succ j =>
          rw [List.getElem?_cons_succ] at hj
          obtain ⟨w, hw, hreceived⟩ := hvalues j q hj
          rw [received_leftBy (hp q (List.mem_of_getElem? hj))] at hreceived
          exact ⟨w, hw, hreceived⟩

/-- parameters are bound when each of them has a value -/
theorem exists_bindFrom (hps : WellFormed params)
    (h : ∀ j p, params[j]? = some p → ∃ v, received named args j p = .ok v) :
    ∃ r, bindFrom named params args = .ok r := by
  induction params generalizing args with
  | nil => exact ⟨_, rfl⟩
  | cons p ps ih =>
    obtain ⟨hp, hps⟩ := List.pairwise_cons.mp hps
    obtain ⟨v, hv⟩ := h 0 p rfl
    have htail : ∀ j q, ps[j]? = some q → ∃ v, received named (leftBy args p) j q = .ok v := by
      intro j q hj
      rw [received_leftBy (hp q (List.mem_of_getElem? hj))]
      exact h (j + 1) q hj
    obtain ⟨r, hr⟩ := ih hps htail
    refine ⟨((p.name, v) :: r.1, r.2), ?_⟩
    rw [bindFrom_cons, hv]
    simp only [bind, Except.bind, hr]
    rfl

/-- with distinct names, the value at a place is the one under the name -/
theorem lookup_of_getElem? {name : String} (h : (env.map Prod.fst).Nodup)
    (hj : env[j]? = some (name, v)) : env.lookup name = some v := by
  induction env generalizing j with
  | nil => exact nomatch hj
  | cons e es ih =>
    obtain ⟨hne, hes⟩ := List.nodup_cons.mp h
    cases j with
    | zero =>
      obtain rfl := Option.some.inj hj
      exact List.lookup_cons_self
    | succ j =>
      rw [List.getElem?_cons_succ] at hj
      have hmem : name ∈ es.map Prod.fst := List.mem_map_of_mem (List.mem_of_getElem? hj)
      have hneq : (name == e.1) = false := beq_eq_false_iff_ne.mpr fun hname => hne (hname ▸ hmem)
      rw [List.lookup_cons, hneq]
      exact ih hes hj

/-- what a call binds: what is left over has to be empty, and named arguments that no parameter
takes need one that takes all of those -/
theorem bindArguments_eq_ok_iff :
    bindArguments params args named = .ok env ↔
      ∃ env', bindFrom named params args = .ok (env', []) ∧
        match params.find? fun p => p.kind == .keywordRest with
        | none => unclaimed params named = [] ∧ env = env'
        | some p => env = env'.map fun e => if e.1 == p.name then
            (e.1, .dict ((unclaimed params named).map fun e => (.str e.1, e.2))) else e := by
  unfold bindArguments
  cases hfrom : bindFrom named params args with
  | error e =>
    constructor
    · intro h
      cases h
    · rintro ⟨env', h, -⟩
      cases h
  | ok r =>
    obtain ⟨env', rest⟩ := r
    simp only [bind, Except.bind, Except.ok.injEq, Prod.mk.injEq]
    cases rest with
    | cons v vs =>
      constructor
      · intro h
        cases h
      · rintro ⟨env', ⟨-, h⟩, -⟩
        cases h
    | nil =>
      simp only [and_true, exists_eq_left']
      cases params.find? fun p => p.kind == .keywordRest with
      | none =>
        cases unclaimed params named with
        | nil =>
          exact ⟨fun h => ⟨rfl, (Except.ok.inj h).symm⟩, fun h => congrArg Except.ok h.2.symm⟩
        | cons e es =>
          constructor
          · intro h
            cases h
          · rintro ⟨h, -⟩
            cases h
      | some p => exact ⟨fun h => (Except.ok.inj h).symm, fun h => congrArg Except.ok h.symm⟩

/-- in a call that is bound, a parameter has the value that its place receives -/
theorem lookup_of_bindArguments (hps : WellFormed params)
    (h : bindArguments params args named = .ok env) (hj : params[j]? = some p)
    (hp : p.kind ≠ .keywordRest) :
    ∃ v, env.lookup p.name = some v ∧ received named args j p = .ok v := by
  obtain ⟨env', hfrom, henv⟩ := bindArguments_eq_ok_iff.mp h
  obtain ⟨hnames, hvalues, -⟩ := of_bindFrom hps hfrom
  obtain ⟨v, hv, hreceived⟩ := hvalues j p hj
  have hnodup := hnames ▸ hps.nodup_names
  cases hrest : params.find? fun p => p.kind == .keywordRest with
  | none =>
    rw [hrest] at henv
    obtain ⟨-, rfl⟩ := henv
    exact ⟨v, lookup_of_getElem? hnodup hv, hreceived⟩
  | some q =>
    rw [hrest] at henv
    -- the value of the other parameter is replaced, under another name
    have hq : q.kind = .keywordRest := by simpa using List.find?_some hrest
    have hne : p.name ≠ q.name := fun hname =>
      hp (hps.eq_of_name (List.mem_of_getElem? hj) (List.mem_of_find?_eq_some hrest) hname ▸ hq)
    refine ⟨v, lookup_of_getElem? (j := j) ?_ ?_, hreceived⟩
    · have hfst : env.map Prod.fst = env'.map Prod.fst := by
        rw [henv, List.map_map]
        refine List.map_congr_left fun e _ => ?_
        show (if e.1 == q.name then _ else e).1 = e.1
        split <;> rfl
      rw [hfst]
      exact hnodup
    · rw [henv, List.getElem?_map, hv]
      simp [hne]

/-- a call is bound when each parameter has a value and nothing is left over -/
theorem exists_bindArguments_iff_received (hps : WellFormed params) :
    (∃ env, bindArguments params args named = .ok env) ↔
      (∀ j p, params[j]? = some p → ∃ v, received named args j p = .ok v)
        ∧ ((∃ p ∈ params, p.kind = .variadic) ∨ args.length ≤ params.countP isPositional)
        ∧ ((∃ p ∈ params, p.kind = .keywordRest) ∨ unclaimed params named = []) := by
  have hrest : (params.find? fun p => p.kind == .keywordRest) = none ↔
      ¬∃ p ∈ params, p.kind = .keywordRest := by simp
  constructor
  · rintro ⟨env, h⟩
    obtain ⟨env', hfrom, henv⟩ := bindArguments_eq_ok_iff.mp h
    obtain ⟨-, hvalues, hleft⟩ := of_bindFrom hps hfrom
    refine ⟨fun j p hj => (hvalues j p hj).imp fun _ => And.right,
      (foldl_leftBy_eq_nil_iff params args).mp hleft.symm, or_iff_not_imp_left.mpr fun hnone => ?_⟩
    rw [hrest.mpr hnone] at henv
    exact henv.1
  · rintro ⟨hvalues, hleft, hnamed⟩
    obtain ⟨⟨env', rest⟩, hfrom⟩ := exists_bindFrom hps hvalues
    obtain rfl : rest = [] :=
      (of_bindFrom hps hfrom).2.2.trans ((foldl_leftBy_eq_nil_iff params args).mpr hleft)
    cases hfind : params.find? fun p => p.kind == .keywordRest with
    | none =>
      have hclaimed := hnamed.resolve_left (hrest.mp hfind)
      exact ⟨env', bindArguments_eq_ok_iff.mpr ⟨env', hfrom, by rw [hfind]; exact ⟨hclaimed, rfl⟩⟩⟩
    | some q => exact ⟨_, bindArguments_eq_ok_iff.mpr ⟨env', hfrom, by rw [hfind]⟩⟩

/-! ## How many arguments fit -/

/-- whether `n` arguments by position leave out no parameter that needs one, and none is too many -/
def PositionsFit (params : List (Parameter Value)) (n : Nat) : Prop :=
  (∀ j p, params[j]? = some p → isPositional p = true → p.default = none → j < n)
    ∧ ((∃ p ∈ params, p.kind = .variadic) ∨ n ≤ params.countP isPositional)

/-- what the named arguments of a call have to be, besides `n` arguments by position -/
structure NamedFit (params : List (Parameter Value)) (n : Nat) (named : List (String × Value)) :
    Prop where
  /-- no parameter that takes an argument by position is named too -/
  once : ∀ j p, params[j]? = some p → p.kind = .positional → j < n → named.lookup p.name = none
  /-- a parameter by name alone is named, or it has a default -/
  given : ∀ p ∈ params, p.kind = .keywordOnly → p.default = none → named.lookup p.name ≠ none
  /-- each named argument has a parameter that takes it -/
  taken : (∃ p ∈ params, p.kind = .keywordRest) ∨ unclaimed params named = []

theorem exists_bindOne_iff {given : Option Value} : (∃ v, bindOne p given named = .ok v) ↔
    let byName := if p.kind == .positionalOnly then none else named.lookup p.name
    (given = none ∨ byName = none) ∧ (given ≠ none ∨ byName ≠ none ∨ p.default ≠ none) := by
  unfold bindOne
  simp only
  generalize (if p.kind == .positionalOnly then none else named.lookup p.name) = byName
  cases given <;> cases byName <;> cases p.default <;> simp

/-- a call with as many arguments by position as fit is bound when its named arguments fit -/
theorem exists_bindArguments_iff (hps : WellFormed params)
    (hfit : PositionsFit params args.length) :
    (∃ env, bindArguments params args named = .ok env) ↔ NamedFit params args.length named := by
  obtain ⟨hneeded, hleft⟩ := hfit
  rw [exists_bindArguments_iff_received hps]
  constructor
  · rintro ⟨hvalues, -, htaken⟩
    refine ⟨fun j p hj hp hlt => ?_, fun p hmem hp hdefault => ?_, htaken⟩
    · have hv := hvalues j p hj
      simp only [received, hp] at hv
      have hone := (exists_bindOne_iff.mp hv).1
      simpa [hp, hlt] using hone
    · obtain ⟨j, hj⟩ := List.mem_iff_getElem?.mp hmem
      have hv := hvalues j p hj
      simp only [received, hp] at hv
      have hsome := (exists_bindOne_iff.mp hv).2
      simpa [hp, hdefault] using hsome
  · rintro ⟨honce, hgiven, htaken⟩
    refine ⟨fun j p hj => ?_, hleft, htaken⟩
    have hmem := List.mem_of_getElem? hj
    -- an argument by position or a default, for a parameter that takes one by position
    have hsome : isPositional p = true → args[j]? ≠ none ∨ p.default ≠ none := by
      intro hpos
      by_cases hdefault : p.default = none
      · exact .inl (by rw [List.getElem?_eq_getElem (hneeded j p hj hpos hdefault)]; nofun)
      · exact .inr hdefault
    unfold received
    cases hp : p.kind with
    | positionalOnly =>
      have hpos := hsome (by simp [isPositional, hp])
      refine exists_bindOne_iff.mpr ⟨.inr (by simp [hp]), hpos.imp_right .inr⟩
    | positional =>
      have hpos := hsome (by simp [isPositional, hp])
      refine exists_bindOne_iff.mpr ⟨?_, hpos.imp_right .inr⟩
      rcases Nat.lt_or_ge j args.length with hlt | hge
      · exact .inr (by simpa [hp] using honce j p hj hp hlt)
      · exact .inl (List.getElem?_eq_none hge)
    | variadic => exact ⟨_, rfl⟩
    | keywordOnly =>
      refine exists_bindOne_iff.mpr ⟨.inl rfl, .inr ?_⟩
      by_cases hdefault : p.default = none
      · exact .inl (by simpa [hp] using hgiven p hmem hp hdefault)
      · exact .inr hdefault
    | keywordRest => exact ⟨_, rfl⟩

/-- whether the value of a parameter is the `i`-th argument, or all arguments from some place on,
that one among them -/
def Holds (p : Parameter Value) (args : List Value) (i : Nat) (v : Value) : Prop :=
  match p.kind with
  | .positionalOnly | .positional => args[i]? = some v
  | .variadic => ∃ k ≤ i, v = .tuple (args.drop k)
  | .keywordOnly | .keywordRest => False

/-- the parameter at place `j` receives the `i`-th one of `n` arguments by position, in every call
with so many of them -/
def Receives (params : List (Parameter Value)) (n i j : Nat) : Prop :=
  ∀ args named env, args.length = n → bindArguments params args named = .ok env →
    ∃ p v, params[j]? = some p ∧ env.lookup p.name = some v ∧ Holds p args i v

theorem holds_of_isPositional (hp : isPositional p = true) :
    Holds p args i v ↔ args[i]? = some v := by
  unfold isPositional at hp
  unfold Holds
  cases hk : p.kind <;> simp [hk] at hp ⊢

/-- every parameter by name alone given -/
def allNamed (params : List (Parameter Value)) : List (String × Value) :=
  (params.filter fun p => p.kind == .keywordOnly).map fun p => (p.name, .none)

theorem lookup_allNamed_eq_none_iff {name : String} : (allNamed params).lookup name = none ↔
    ∀ p ∈ params, p.kind = .keywordOnly → p.name ≠ name := by
  rw [List.lookup_eq_none_iff]
  simp only [allNamed, List.mem_map, List.mem_filter, beq_iff_eq, bne_iff_ne]
  constructor
  · exact fun h p hmem hp hname => h (p.name, .none) ⟨p, ⟨hmem, hp⟩, rfl⟩ hname.symm
  · rintro h _ ⟨p, ⟨hmem, hp⟩, rfl⟩
    exact (h p hmem hp).symm

theorem unclaimed_allNamed (params : List (Parameter Value)) :
    unclaimed params (allNamed params) = [] := by
  refine List.filter_eq_nil_iff.mpr fun e he => ?_
  obtain ⟨p, hp, rfl⟩ := List.mem_map.mp he
  obtain ⟨hmem, hkind⟩ := List.mem_filter.mp hp
  have hclaims : (params.any fun q => q.name == p.name
      && (q.kind == .positional || q.kind == .keywordOnly)) = true :=
    List.any_eq_true.mpr ⟨p, hmem, by rw [hkind, beq_self_eq_true, Bool.or_true]; rfl⟩
  rw [hclaims]
  nofun

theorem namedFit_allNamed (hps : WellFormed params) (n : Nat) :
    NamedFit params n (allNamed params) where
  once j p hj hp _ := lookup_allNamed_eq_none_iff.mpr fun q hmem hq hname => by
    rw [hps.eq_of_name hmem (List.mem_of_getElem? hj) hname, hp] at hq
    exact nomatch hq
  given p hmem hp _ hnone := lookup_allNamed_eq_none_iff.mp hnone p hmem hp rfl
  taken := .inr (unclaimed_allNamed params)

theorem eq_of_bindOne_some (h : bindOne p (some v) named = .ok w) : w = v := by
  unfold bindOne at h
  simp only at h
  generalize (if p.kind == .positionalOnly then none else named.lookup p.name) = byName at h
  cases byName with
  | none => exact (Except.ok.inj h).symm
  | some _ => exact nomatch h

/-- the `i`-th argument goes to the parameter at place `i`, or else to the one for further
arguments -/
theorem receives_place (hps : WellFormed params) (hfit : PositionsFit params n) (hi : i < n) :
    Receives params n i (min i (params.countP isPositional)) := by
  rintro args named env rfl h
  obtain ⟨-, hleft⟩ := hfit
  rcases Nat.lt_or_ge i (params.countP isPositional) with hlt | hge
  · rw [Nat.min_eq_left (Nat.le_of_lt hlt)]
    have hj := List.getElem?_eq_getElem (Nat.lt_of_lt_of_le hlt List.countP_le_length)
    have hpos := (hps.isPositional_iff_lt hj).mpr hlt
    have hkind := Nat.lt_trans (Parameter.isPositional_iff.mp hpos) (by decide : 2 < 4)
    obtain ⟨v, hv, hreceived⟩ := lookup_of_bindArguments hps h hj fun hrest => by
      rw [hrest] at hkind
      exact Nat.lt_irrefl _ hkind
    rw [received_of_isPositional hpos, List.getElem?_eq_getElem hi] at hreceived
    obtain rfl := eq_of_bindOne_some hreceived
    exact ⟨_, _, hj, hv, (holds_of_isPositional hpos).mpr (List.getElem?_eq_getElem hi)⟩
  · rw [Nat.min_eq_right hge]
    obtain ⟨p, hmem, hp⟩ := hleft.resolve_right (by omega)
    obtain ⟨j, hj⟩ := List.mem_iff_getElem?.mp hmem
    obtain rfl := hps.place_of_variadic hj hp
    obtain ⟨v, hv, hreceived⟩ := lookup_of_bindArguments hps h hj (by rw [hp]; nofun)
    rw [received, hp] at hreceived
    obtain rfl := Except.ok.inj hreceived
    refine ⟨p, _, hj, hv, ?_⟩
    rw [Holds, hp]
    exact ⟨_, hge, rfl⟩

/-- what a parameter receives in the call that gives all parameters by name -/
theorem Receives.received (h : Receives params n i j) (hps : WellFormed params)
    (hfit : PositionsFit params args.length) (hn : args.length = n) :
    ∃ p v, params[j]? = some p ∧ received (allNamed params) args j p = .ok v
      ∧ Holds p args i v := by
  obtain ⟨env, henv⟩ := (exists_bindArguments_iff hps hfit).mpr (namedFit_allNamed hps _)
  obtain ⟨p, v, hj, hv, hholds⟩ := h args _ env hn henv
  have hkind : p.kind ≠ .keywordRest := fun hrest => by
    rw [Holds, hrest] at hholds
    exact hholds
  obtain ⟨w, hw, hreceived⟩ := lookup_of_bindArguments hps henv hj hkind
  obtain rfl := Option.some.inj (hv.symm.trans hw)
  exact ⟨p, v, hj, hreceived, hholds⟩

/-- of `n` arguments that fit, the `i`-th one is received by the parameter at this place alone -/
theorem receives_iff (hps : WellFormed params) (hfit : PositionsFit params n) (hi : i < n) :
    Receives params n i j ↔ j = min i (params.countP isPositional) := by
  refine ⟨fun h => ?_, fun h => h ▸ receives_place hps hfit hi⟩
  -- the same arguments, but for the `i`-th one
  let args := List.replicate n Value.none
  have hlen : args.length = n := List.length_replicate
  have hlen' : (args.set i .ellipsis).length = n := List.length_set.trans hlen
  obtain ⟨p, v, hj, hv, hholds⟩ := h.received hps (hlen ▸ hfit) hlen
  obtain ⟨p', v', hj', hv', hholds'⟩ := h.received hps (hlen' ▸ hfit) hlen'
  obtain rfl := Option.some.inj (hj.symm.trans hj')
  cases hpos : isPositional p with
  | true =>
    rw [holds_of_isPositional hpos] at hholds hholds'
    rw [received_of_isPositional hpos] at hv hv'
    have hji : j = i := by
      by_contra hne
      rw [List.getElem?_set_ne (Ne.symm hne), hv] at hv'
      obtain rfl := Except.ok.inj hv'
      rw [List.getElem?_set_self (hlen ▸ hi)] at hholds'
      rw [← hholds', List.getElem?_replicate_of_lt hi] at hholds
      exact nomatch hholds
    subst hji
    exact (Nat.min_eq_left (Nat.le_of_lt ((hps.isPositional_iff_lt hj).mp hpos))).symm
  | false =>
    have hkind : p.kind = .variadic := by
      unfold isPositional at hpos
      unfold Holds at hholds
      cases hk : p.kind <;> simp [hk] at hpos hholds ⊢
    rw [Holds, hkind] at hholds
    rw [received, hkind] at hv
    obtain ⟨k, hk, htuple⟩ := hholds
    rw [← Except.ok.inj hv, Value.tuple.injEq] at htuple
    have hdrop := congrArg List.length htuple
    rw [List.length_drop, List.length_drop, hlen] at hdrop
    have hplace := hps.place_of_variadic hj hkind
    omega

end

end Introspect
