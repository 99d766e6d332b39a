import Introspect.Dispatch.Parameters
import Introspect.Proofs.Dispatch.Records
import Introspect.Proofs.Dispatch.Unbeaten
import Introspect.Proofs.Storage.Insertions

/-!
# Tables filled in any order

A registration takes away the method with the same declared parameters, so a table holds one method
for each, the one that was registered last.  A call depends on the declared parameters of the
methods only, not on their places: tables that were filled in different orders answer alike.

* `Method.key`             what a method declares;
* `Store.lastUnder`        the implementation that was registered last under a key;
* `Store.Holds`            a table holds just these, under distinct keys;
* `Store.entries_register`, `Store.Holds.register`   a registration keeps it so;
* `Store.EndsAlike`        two calls choose methods with the same key and implementation, or fail
                           for the same reason;
* `Store.endsAlike_of_perm`   calls of tables that hold the same implementations do so.
-/

namespace Introspect

open Signature (ofClasses)

/-! ## Keys -/

namespace DeclaredTypes

variable {S : ClassId → Prop} {a b : DeclaredTypes}

instance : BEq DeclaredTypes :=
  ⟨fun a b => a.required == b.required && a.optional == b.optional && a.variadic == b.variadic⟩

/-- every declared type is one of some classes -/
def Within (d : DeclaredTypes) (S : ClassId → Prop) : Prop :=
  ∀ v ∈ d.required ++ d.optional ++ d.variadic.toList, ∃ c, S c ∧ v = .cls c

/-- declared types that are classes, in full -/
theorem Within.exists_classes (h : a.Within S) : ∃ rs os v,
    a = ⟨ofClasses rs, ofClasses os, Option.map Value.cls v⟩ := by
  obtain ⟨required, optional, variadic⟩ := a
  obtain ⟨rs, rfl, -⟩ := Method.exists_ofClasses fun v hv =>
    h v (List.mem_append_left _ (List.mem_append_left _ hv))
  obtain ⟨os, rfl, -⟩ := Method.exists_ofClasses fun v hv =>
    h v (List.mem_append_left _ (List.mem_append_right _ hv))
  cases variadic with
  | none => exact ⟨rs, os, none, rfl⟩
  | some w =>
    obtain ⟨c, -, rfl⟩ := h w (List.mem_append_right _ (List.mem_singleton.mpr rfl))
    exact ⟨rs, os, some c, rfl⟩

/-- with declared classes on the right, equality is equality -/
theorem beq_iff_of_within (hb : b.Within S) : (a == b) = true ↔ a = b := by
  obtain ⟨rs, os, v, rfl⟩ := hb.exists_classes
  obtain ⟨required, optional, variadic⟩ := a
  show (required == _ && optional == _ && variadic == _) = true ↔ _
  rw [Bool.and_eq_true, Bool.and_eq_true, Signature.beq_ofClasses_iff, Signature.beq_ofClasses_iff,
    mk.injEq, and_assoc]
  refine and_congr_right fun _ => and_congr_right fun _ => ?_
  cases variadic <;> cases v <;> simp [Value.beq_cls_iff]

theorem beq_iff_of_within_left (ha : a.Within S) : (a == b) = true ↔ b = a := by
  obtain ⟨rs, os, v, rfl⟩ := ha.exists_classes
  obtain ⟨required, optional, variadic⟩ := b
  show (_ == required && _ == optional && _ == variadic) = true ↔ _
  rw [Bool.and_eq_true, Bool.and_eq_true, Signature.ofClasses_beq_iff, Signature.ofClasses_beq_iff,
    mk.injEq, and_assoc]
  refine and_congr_right fun _ => and_congr_right fun _ => ?_
  cases variadic <;> cases v <;> simp [Value.cls_beq_iff]

end DeclaredTypes

namespace Method

variable {m n : Method}

/-- what a method declares; a table holds one method for each -/
def key (m : Method) : DeclaredTypes := ⟨m.required, m.optional, m.variadic⟩

theorem parameterTypes_of_key (h : m.key = n.key) (arity : Nat) :
    m.parameterTypes arity = n.parameterTypes arity := by
  obtain ⟨hrequired, hoptional, hvariadic⟩ := DeclaredTypes.mk.inj h
  unfold parameterTypes
  rw [hrequired, hoptional, hvariadic]

end Method

namespace Store

variable {s t : Store} {S : ClassId → Prop} {tb tb' : Table}
  {es es' : List (DeclaredTypes × Implementation)}

/-! ## What a table holds -/

/-- the key and the implementation of a method -/
def entry (s : Store) (m : Nat) : DeclaredTypes × Implementation :=
  ((s.method m).key, (s.method m).implementation)

/-- the implementation that was registered last under a key -/
def lastUnder (es : List (DeclaredTypes × Implementation)) (key : DeclaredTypes) :
    Option Implementation :=
  (ProbeTable.lastInserted es key).map Prod.snd

theorem lastUnder_eq_some_iff (hes : ∀ e ∈ es, e.1.Within S) {key : DeclaredTypes}
    {impl : Implementation} :
    lastUnder es key = some impl ↔ ProbeTable.lastInserted es key = some (key, impl) := by
  unfold lastUnder
  rw [Option.map_eq_some_iff]
  constructor
  · rintro ⟨e, he, rfl⟩
    rw [he, (DeclaredTypes.beq_iff_of_within_left (hes e (ProbeTable.mem_of_lastInserted he))).mp
      (ProbeTable.beq_of_lastInserted he)]
  · exact fun he => ⟨_, he, rfl⟩

theorem lastUnder_concat (es : List (DeclaredTypes × Implementation))
    (e : DeclaredTypes × Implementation) (key : DeclaredTypes) :
    lastUnder (es ++ [e]) key = if e.1 == key then some e.2 else lastUnder es key := by
  unfold lastUnder
  rw [ProbeTable.lastInserted_concat]
  split <;> rfl

/-- a table holds just the implementations that were registered last, under distinct keys -/
structure Holds (s : Store) (tb : Table) (es : List (DeclaredTypes × Implementation)) : Prop where
  lt : ∀ m ∈ tb.methods, m < s.methods.size
  nodup : (tb.methods.map fun m => (s.method m).key).Nodup
  mem_iff : ∀ e, e ∈ tb.methods.map s.entry ↔ lastUnder es e.1 = some e.2

theorem holds_nil (s : Store) (edges : Edges) : Holds s ⟨[], edges⟩ [] :=
  ⟨fun _ hm => absurd hm List.not_mem_nil, List.nodup_nil,
    fun _ => iff_of_false List.not_mem_nil nofun⟩

/-- a registration takes away the method with the same key, and the new one is the last -/
theorem entries_register {f i : Nat} {m : Method} (hlt : ∀ k ∈ tb.methods, k < s.methods.size)
    (htb : (s.function f).table = some tb) (hf : m.function = f)
    (hreg : s.register m = .ok (t, i)) :
    ∃ tb', (t.function f).table = some tb' ∧ (∀ k ∈ tb'.methods, k < t.methods.size)
      ∧ tb'.methods.map t.entry = ((tb.methods.map s.entry).filter fun e => !(e.1 == m.key))
          ++ [(m.key, m.implementation)] := by
  obtain ⟨hi, -, -, -, -, hsize, hmethod⟩ := register_frame hreg
  have htable := register_table hreg htb
  rw [if_pos hf] at htable
  have hkept : ∀ k ∈ tb.methods.filter (fun n => !(s.method n).sameKey m), k < s.methods.size :=
    fun k hk => hlt k (List.mem_filter.mp hk).1
  refine ⟨_, htable, fun k hk => ?_, ?_⟩
  · rw [hsize]
    rcases List.mem_append.mp hk with hk | hk
    · exact Nat.lt_succ_of_lt (hkept k hk)
    · rw [List.mem_singleton.mp hk, hi]
      exact Nat.lt_succ_self _
  · have hnew : t.entry i = (m.key, m.implementation) := by
      unfold entry
      rw [hmethod, if_pos hi]
    have hold : ∀ k ∈ tb.methods.filter (fun n => !(s.method n).sameKey m),
        t.entry k = s.entry k := fun k hk => by
      unfold entry
      rw [hmethod, if_neg (Nat.ne_of_lt (hkept k hk))]
    rw [List.map_append, List.map_congr_left hold, List.map_singleton, hnew, List.filter_map]
    rfl

/-- a registration under a key of classes keeps what a table holds up to date -/
theorem Holds.register (h : Holds s tb es) {f i : Nat} {m : Method}
    (htb : (s.function f).table = some tb) (hf : m.function = f) (hkey : m.key.Within S)
    (hreg : s.register m = .ok (t, i)) :
    ∃ tb', (t.function f).table = some tb'
      ∧ Holds t tb' (es ++ [(m.key, m.implementation)]) := by
  obtain ⟨tb', htb', hlt, hentries⟩ := entries_register h.lt htb hf hreg
  have hother : ∀ key, (!(key == m.key)) = true ↔ key ≠ m.key := fun key => by
    rw [Bool.not_eq_true', ← Bool.not_eq_true, DeclaredTypes.beq_iff_of_within hkey]
  refine ⟨tb', htb', hlt, ?_, fun e => ?_⟩
  · have hkeys : (tb'.methods.map fun k => (t.method k).key)
        = (tb'.methods.map t.entry).map Prod.fst := by
      rw [List.map_map]
      rfl
    rw [hkeys, hentries, List.map_append, List.nodup_append]
    refine ⟨?_, List.nodup_singleton _, fun key hin key' hin' => ?_⟩
    · refine (List.filter_sublist.map Prod.fst).nodup ?_
      rw [List.map_map]
      exact h.nodup
    · obtain ⟨e, he, rfl⟩ := List.mem_map.mp hin
      obtain rfl := List.mem_singleton.mp hin'
      exact (hother e.1).mp (List.mem_filter.mp he).2
  · rw [hentries, List.mem_append, List.mem_filter, List.mem_singleton, hother, h.mem_iff,
      lastUnder_concat]
    by_cases hk : e.1 = m.key
    · rw [if_pos ((DeclaredTypes.beq_iff_of_within_left hkey).mpr hk), Option.some.injEq,
        or_iff_right fun hc => hc.2 hk]
      exact ⟨fun he => (congrArg Prod.snd he).symm, fun he => Prod.ext hk he.symm⟩
    · rw [if_neg fun hc => hk ((DeclaredTypes.beq_iff_of_within_left hkey).mp hc),
        or_iff_left fun hc => hk (congrArg Prod.fst hc), and_iff_left hk]

theorem Holds.nodup_entries (h : Holds s tb es) : (tb.methods.map s.entry).Nodup := by
  refine List.Nodup.of_map Prod.fst ?_
  rw [List.map_map]
  exact h.nodup

/-- tables that hold the same implementations hold them in some order each -/
theorem Holds.perm (h : Holds s tb es) (h' : Holds t tb' es')
    (hlast : ∀ key, lastUnder es key = lastUnder es' key) :
    (tb.methods.map s.entry).Perm (tb'.methods.map t.entry) := by
  refine (List.perm_ext_iff_of_nodup h.nodup_entries h'.nodup_entries).mpr fun e => ?_
  rw [h.mem_iff, hlast, h'.mem_iff]

/-- the types that the methods of a table declare are among those that were registered -/
theorem Holds.declaresWithin (h : Holds s tb es) (hes : ∀ e ∈ es, e.1.Within S) :
    ∀ m ∈ tb.methods, (s.method m).DeclaresWithin S := by
  intro m hm
  have hlast := (h.mem_iff _).mp (List.mem_map_of_mem hm)
  exact hes _ (ProbeTable.mem_of_lastInserted ((lastUnder_eq_some_iff hes).mp hlast))

/-! ## Calls that depend on keys only -/

/-- a method has the key and the implementation of another one -/
def Counterpart (s t : Store) (m n : Nat) : Prop := s.entry m = t.entry n

section
variable {h : Hierarchy} {ts : List ClassId} {m n m' n' : Nat}

theorem Counterpart.symm (hmn : Counterpart s t m n) : Counterpart t s n m := Eq.symm hmn

theorem Counterpart.parameterTypes (hmn : Counterpart s t m n) (arity : Nat) :
    (s.method m).parameterTypes arity = (t.method n).parameterTypes arity :=
  Method.parameterTypes_of_key (congrArg Prod.fst hmn) arity

theorem Counterpart.declaresWithin (hmn : Counterpart s t m n)
    (hm : (s.method m).DeclaresWithin S) : (t.method n).DeclaresWithin S := by
  have hkey : (s.method m).key = (t.method n).key := congrArg Prod.fst hmn
  show (t.method n).key.Within S
  rw [← hkey]
  exact hm

theorem Counterpart.applies (hmn : Counterpart s t m n) (happ : s.Applies h ts m) :
    t.Applies h ts n := by
  unfold Applies Method.isApplicable at happ ⊢
  rwa [← hmn.parameterTypes]

theorem Counterpart.beats (hmn : Counterpart s t m n) (hmn' : Counterpart s t m' n') {arity : Nat}
    (hbeats : s.Beats h arity m m') : t.Beats h arity n n' := by
  unfold Beats Method.isMoreSpecific at hbeats ⊢
  dsimp only at hbeats ⊢
  rwa [← hmn.parameterTypes, ← hmn'.parameterTypes]

/-- a method of a table has its counterpart in one that holds the same implementations -/
theorem exists_counterpart (hperm : (tb.methods.map s.entry).Perm (tb'.methods.map t.entry))
    (hm : m ∈ tb.methods) : ∃ n ∈ tb'.methods, Counterpart s t m n := by
  obtain ⟨n, hn, heq⟩ := List.mem_map.mp (hperm.mem_iff.mp (List.mem_map_of_mem hm))
  exact ⟨n, hn, heq.symm⟩

theorem Unbeaten.counterpart (hperm : (tb.methods.map s.entry).Perm (tb'.methods.map t.entry))
    (hm : s.Unbeaten h tb ts m) (hn : n ∈ tb'.methods) (hmn : Counterpart s t m n) :
    t.Unbeaten h tb' ts n := by
  obtain ⟨-, happ, hmin⟩ := hm
  refine ⟨hn, hmn.applies happ, fun o ho hoapp hbeats => ?_⟩
  obtain ⟨k, hk, hok⟩ := exists_counterpart hperm.symm ho
  exact hmin k hk (hok.applies hoapp) (hok.beats hmn.symm hbeats)

/-- the unbeaten methods of tables that hold the same implementations are the same, in some order -/
theorem unbeaten_perm (hperm : (tb.methods.map s.entry).Perm (tb'.methods.map t.entry))
    (hnodup : (tb.methods.map s.entry).Nodup) {us us' : List Nat} (hsub : us.Sublist tb.methods)
    (hsub' : us'.Sublist tb'.methods) (hus : ∀ k, k ∈ us ↔ s.Unbeaten h tb ts k)
    (hus' : ∀ k, k ∈ us' ↔ t.Unbeaten h tb' ts k) :
    (us.map s.entry).Perm (us'.map t.entry) := by
  have hmap : ∀ {s t : Store} {tb tb' : Table} {us us' : List Nat},
      (tb.methods.map s.entry).Perm (tb'.methods.map t.entry) →
      (∀ k, k ∈ us ↔ s.Unbeaten h tb ts k) → (∀ k, k ∈ us' ↔ t.Unbeaten h tb' ts k) →
      ∀ e ∈ us.map s.entry, e ∈ us'.map t.entry := by
    intro s t tb tb' us us' hperm hus hus' e he
    obtain ⟨k, hk, rfl⟩ := List.mem_map.mp he
    have hk := (hus k).mp hk
    obtain ⟨n, hn, hkn⟩ := exists_counterpart hperm hk.1
    exact List.mem_map.mpr ⟨n, (hus' n).mpr (hk.counterpart hperm hn hkn), Eq.symm hkn⟩
  refine (List.perm_ext_iff_of_nodup ((hsub.map _).nodup hnodup)
    ((hsub'.map _).nodup (hperm.nodup_iff.mp hnodup))).mpr fun e => ?_
  exact ⟨hmap hperm hus hus' e, hmap hperm.symm hus' hus e⟩

end

/-! ## Calls that end alike -/

/-- two calls choose methods of which each is the counterpart of the other, or fail alike -/
inductive EndsAlike (s t : Store) : Except Fault Nat → Except Fault Nat → Prop where
  | chosen {m n : Nat} (hmn : Counterpart s t m n) : EndsAlike s t (.ok m) (.ok n)
  | noMethod (call call' : String) :
      EndsAlike s t (.error (.noMethod call)) (.error (.noMethod call'))
  | ambiguous (call call' : String) (names names' : List String)
      (hlen : names.length = names'.length) :
      EndsAlike s t (.error (.ambiguous call names)) (.error (.ambiguous call' names'))
  | outOfRange : EndsAlike s t (.error .outOfRange) (.error .outOfRange)

/-- calls of tables that hold the same implementations end alike, in whatever order they stand -/
theorem endsAlike_of_perm {view view' : Surroundings} (hview : view'.hierarchy = view.hierarchy)
    {f g : Nat} (htb : (s.function f).table = some tb) (htb' : (t.function g).table = some tb')
    (hms : ∀ k ∈ tb.methods, (s.method k).DeclaresWithin S)
    (hperm : (tb.methods.map s.entry).Perm (tb'.methods.map t.entry))
    (hnodup : (tb.methods.map s.entry).Nodup) (ts : List ClassId) :
    EndsAlike s t (s.resolve view f (ofClasses ts)) (t.resolve view' g (ofClasses ts)) := by
  obtain ⟨cs, us, hcs, hus, hsub, hmem, hmemus⟩ := exists_kept (h := view.hierarchy) hms ts
  have hms' : ∀ n ∈ tb'.methods, (t.method n).DeclaresWithin S := fun n hn => by
    obtain ⟨k, hk, hnk⟩ := exists_counterpart hperm.symm hn
    exact hnk.symm.declaresWithin (hms k hk)
  obtain ⟨cs', us', hcs', hus', hsub', hmem', hmemus'⟩ := exists_kept (h := view.hierarchy) hms' ts
  have hkept := unbeaten_perm hperm hnodup hsub hsub' hmemus hmemus'
  rw [← hview] at hcs' hus'
  by_cases happ : ∃ k ∈ tb.methods, s.Applies view.hierarchy ts k
  · obtain ⟨k, hk, hkapp⟩ := happ
    obtain ⟨n, hn, hkn⟩ := exists_counterpart hperm hk
    have hne : cs ≠ [] := List.ne_nil_of_mem ((hmem k).mpr ⟨hk, hkapp⟩)
    have hne' : cs' ≠ [] := List.ne_nil_of_mem ((hmem' n).mpr ⟨hn, hkn.applies hkapp⟩)
    match us, us', hkept, hus, hus' with
    | [], [], _, hus, hus' =>
      rw [resolve_of_all_beaten htb hcs hne hus, resolve_of_all_beaten htb' hcs' hne' hus']
      exact .outOfRange
    | [m], [n], hkept, hus, hus' =>
      rw [resolve_of_candidates htb hcs hne hus (List.cons_ne_nil m []),
        resolve_of_candidates htb' hcs' hne' hus' (List.cons_ne_nil n [])]
      exact .chosen (List.singleton_perm_singleton.mp hkept)
    | m :: o :: us, m' :: o' :: us', hkept, hus, hus' =>
      rw [resolve_of_candidates htb hcs hne hus (List.cons_ne_nil m _),
        resolve_of_candidates htb' hcs' hne' hus' (List.cons_ne_nil m' _)]
      refine .ambiguous _ _ _ _ ?_
      rw [List.length_map, List.length_map, ← List.length_map (f := s.entry), hkept.length_eq,
        List.length_map]
    | [], _ :: _, hkept, _, _ => exact absurd hkept.length_eq nofun
    | _ :: _, [], hkept, _, _ => exact absurd hkept.length_eq nofun
    | [_], _ :: _ :: _, hkept, _, _ => exact absurd hkept.length_eq nofun
    | _ :: _ :: _, [_], hkept, _, _ => exact absurd hkept.length_eq nofun
  · have hnone : ¬ ∃ n ∈ tb'.methods, t.Applies view'.hierarchy ts n := by
      rintro ⟨n, hn, hnapp⟩
      obtain ⟨k, hk, hkn⟩ := exists_counterpart hperm.symm hn
      exact happ ⟨k, hk, hkn.applies (hview ▸ hnapp)⟩
    rw [resolve_of_not_applies htb hms happ, resolve_of_not_applies htb' hms' hnone]
    exact .noMethod _ _

/-- without virtual subclasses, a call does not ask for what is not there -/
theorem resolve_ne_outOfRange {view : Surroundings} {f : Nat}
    (htb : (s.function f).table = some tb)
    (hms : ∀ k ∈ tb.methods, (s.method k).DeclaresWithin S) (hmade : view.hierarchy.Made)
    (hS : view.hierarchy.Inheriting S) (ts : List ClassId) :
    s.resolve view f (ofClasses ts) ≠ .error .outOfRange := by
  by_cases happ : ∃ k ∈ tb.methods, s.Applies view.hierarchy ts k
  · obtain ⟨us, -, hne, hres, -⟩ := resolve_of_applies htb hms hmade hS happ
    rw [hres]
    match us, hne with
    | [k], _ => exact nofun
    | k :: o :: us, _ => exact nofun
  · rw [resolve_of_not_applies htb hms happ]
    exact nofun

end Store

end Introspect
