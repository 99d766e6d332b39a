import Introspect.Proofs.Dispatch.Enter
import Introspect.Proofs.Dispatch.Storage

/-!
# What the store records of the calls that were made

Invariants say that functions, methods and variants hold exactly what some list of calls left there;
each is kept by every operation, which changes one of them at most.

* `Store.Shaped s`       methods stand in the tables of their functions, once each and with their
                         layout;
* `Store.Stored s cs`    the storage of a method maps the types of its calls to their variants;
* `Store.Applied h s cs` the methods of the calls apply to the types of the calls;
* `Store.Wired s cs`     the edges of a variant are the callers of its calls;
* `Store.Tabled s cs`    the edges of a table are the types and callers of the calls of its function
                         whose method declares other types.
-/

namespace Introspect

open Signature (ofClasses isClasses_ofClasses)

theorem exists_mem_concat {α : Type} {p : α → Prop} {as : List α} {a : α} :
    (∃ x ∈ as ++ [a], p x) ↔ (∃ x ∈ as, p x) ∨ p a := by
  simp only [List.mem_append, List.mem_singleton, or_and_right, exists_or, exists_eq_left]

namespace Store

/-- methods stand in the tables of their functions, once each and with their layout -/
structure Shaped (s : Store) : Prop where
  listed : ∀ (f : Nat) (t : Table), (s.function f).table = some t →
    ∀ m ∈ t.methods, m < s.methods.size ∧ (s.method m).function = f
  nodup : ∀ (f : Nat) (t : Table), (s.function f).table = some t → t.methods.Nodup
  owner : ∀ m < s.methods.size, (s.method m).function < s.functions.size
    ∧ (s.method m).layout = (s.function (s.method m).function).layout

/-- the storage of a method maps the types of its calls to their variants -/
structure Stored (s : Store) (cs : List MadeCall) : Prop where
  sound : ∀ m < s.methods.size, (s.method m).storage.Sound (s.method m).layout
  entry_iff : ∀ m < s.methods.size, ∀ (ts : List ClassId) (v : Nat),
    (ofClasses ts, v) ∈ (s.method m).storage.entries ↔
      ∃ c ∈ cs, c.dispatch.method = m ∧ c.dispatch.types = ts ∧ c.dispatch.variant = v
  called : ∀ c ∈ cs, c.dispatch.method < s.methods.size
    ∧ (s.method c.dispatch.method).function = c.dispatch.function
    ∧ c.dispatch.variant < s.variants.size
    ∧ (s.variant c.dispatch.variant).method = c.dispatch.method
    ∧ (s.variant c.dispatch.variant).types = ofClasses c.dispatch.types

/-- the methods of the calls apply to the types of the calls -/
def Applied (h : Hierarchy) (s : Store) (cs : List MadeCall) : Prop :=
  ∀ c ∈ cs, (s.method c.dispatch.method).isApplicable h (ofClasses c.dispatch.types) = .ok true

/-- the edges of a variant are the callers of its calls -/
def Wired (s : Store) (cs : List MadeCall) : Prop :=
  ∀ v < s.variants.size, (s.variant v).dependents = .ofCallers (callersOf v cs)

/-- the edges of a table are the types and callers of the calls of its function whose method declares
other types -/
def Tabled (s : Store) (cs : List MadeCall) : Prop :=
  ∀ f < s.functions.size, ∃ ms,
    (s.function f).table = some ⟨ms, .held (interleave (tableCallers s f cs).eraseDups)⟩

variable {s t : Store} {cs : List MadeCall}

/-! ## A new function -/

theorem Shaped.addFunction (h : Shaped s) {fn : Function} (hfn : fn.table = some ⟨[], .held []⟩) :
    Shaped (s.addFunction fn).1 := by
  have hsize : (s.addFunction fn).1.functions.size = s.functions.size + 1 := Array.size_push _
  refine ⟨fun f u hu m hm => ?_, fun f u hu => ?_, fun m hm => ?_⟩
  · rw [function_addFunction] at hu
    by_cases hf : f = s.functions.size
    · rw [if_pos hf, hfn] at hu
      obtain rfl := Option.some.inj hu
      exact absurd hm List.not_mem_nil
    · rw [if_neg hf] at hu
      exact h.listed f u hu m hm
  · rw [function_addFunction] at hu
    by_cases hf : f = s.functions.size
    · rw [if_pos hf, hfn] at hu
      obtain rfl := Option.some.inj hu
      exact List.nodup_nil
    · rw [if_neg hf] at hu
      exact h.nodup f u hu
  · obtain ⟨hlt, hlayout⟩ := h.owner m hm
    refine ⟨by rw [hsize]; exact Nat.lt_succ_of_lt hlt, ?_⟩
    rw [function_addFunction, if_neg]
    · exact hlayout
    · exact Nat.ne_of_lt hlt

theorem Stored.addFunction (h : Stored s cs) (fn : Function) : Stored (s.addFunction fn).1 cs :=
  ⟨h.sound, h.entry_iff, h.called⟩

theorem Tabled.addFunction (h : Tabled s cs) (hsh : Shaped s) (hst : Stored s cs) {fn : Function}
    (hfn : fn.table = some ⟨[], .held []⟩) : Tabled (s.addFunction fn).1 cs := by
  intro f hf
  have hsize : (s.addFunction fn).1.functions.size = s.functions.size + 1 := Array.size_push _
  rw [function_addFunction]
  by_cases hnew : f = s.functions.size
  · -- no call so far was one of the new function
    have hnone : tableCallers (s.addFunction fn).1 f cs = [] := by
      refine List.filterMap_eq_nil_iff.mpr fun c hc => if_neg fun hcf => ?_
      obtain ⟨hm, hmf, -⟩ := hst.called c hc
      have := (hsh.owner _ hm).1
      omega
    refine ⟨[], ?_⟩
    rw [if_pos hnew, hfn, hnone]
    rfl
  · rw [if_neg hnew]
    exact h f (by omega)

/-! ## A new method -/

section
variable {m : Method} {i : Nat} (hreg : s.register m = .ok (t, i))
include hreg

/-- a registration changes no variant, adds one method, and changes the methods of one table -/
theorem register_frame :
    i = s.methods.size ∧ t.variants = s.variants ∧ t.active = s.active ∧ t.journal = s.journal
      ∧ t.functions.size = s.functions.size ∧ t.methods.size = s.methods.size + 1
      ∧ ∀ k, t.method k = if k = s.methods.size then m else s.method k := by
  obtain ⟨tb, -, hi, rfl⟩ := (register_eq_ok_iff s m t i).mp hreg
  refine ⟨hi, rfl, rfl, rfl, ?_, ?_, fun k => method_push s m k⟩
  · exact size_modifyFunction _ _ _
  · exact Array.size_push _

/-- a registration keeps the layouts of all functions and the edges of all tables; the methods of its
own table become those with other parameters, and the new one -/
theorem register_function (f : Nat) :
    (t.function f).layout = (s.function f).layout
      ∧ ∀ u, (t.function f).table = some u → ∃ u', (s.function f).table = some u'
        ∧ u.edges = u'.edges
        ∧ u.methods = if m.function = f then
            (u'.methods.filter fun n => !(s.method n).sameKey m) ++ [i] else u'.methods := by
  obtain ⟨tb, htb, hi, rfl⟩ := (register_eq_ok_iff s m t i).mp hreg
  have hlt : m.function < ({ s with methods := s.methods.push m } : Store).functions.size :=
    function_lt s htb
  rw [function_modifyTable _ _ hlt]
  refine ⟨rfl, fun u hu => ?_⟩
  dsimp only at hu
  by_cases hf : m.function = f
  · rw [if_pos hf, ← hf] at hu
    have hu' : some _ = some u := (congrArg (Option.map _) htb).symm.trans hu
    obtain rfl := Option.some.inj hu'
    refine ⟨tb, hf ▸ htb, rfl, ?_⟩
    rw [if_pos hf, hi]
  · rw [if_neg hf] at hu
    exact ⟨u, hu, rfl, (if_neg hf).symm⟩

/-- no table goes away, and none loses its edges -/
theorem register_table {f : Nat} {u : Table} (hu : (s.function f).table = some u) :
    (t.function f).table = some
      ⟨if m.function = f then (u.methods.filter fun n => !(s.method n).sameKey m) ++ [i]
        else u.methods, u.edges⟩ := by
  obtain ⟨tb, htb, hi, rfl⟩ := (register_eq_ok_iff s m t i).mp hreg
  have hlt : m.function < ({ s with methods := s.methods.push m } : Store).functions.size :=
    function_lt s htb
  rw [function_modifyTable _ _ hlt]
  show (if m.function = f then (s.function f).table.map _ else (s.function f).table) = _
  by_cases hf : m.function = f
  · rw [hf] at htb
    obtain rfl := Option.some.inj (htb.symm.trans hu)
    rw [if_pos hf, if_pos hf, hi, htb]
    rfl
  · rw [if_neg hf, if_neg hf, hu]

theorem register_isExact {d : Dispatch} (hd : d.method < s.methods.size) :
    t.isExact d = s.isExact d := by
  obtain ⟨-, -, -, -, -, -, hmethod⟩ := register_frame hreg
  unfold isExact
  rw [hmethod, if_neg (Nat.ne_of_lt hd)]

theorem Shaped.register (h : Shaped s) (hlayout : m.layout = (s.function m.function).layout) :
    Shaped t := by
  obtain ⟨hi, -, -, -, hfs, hms, hmethod⟩ := register_frame hreg
  refine ⟨fun f u hu n hn => ?_, fun f u hu => ?_, fun n hn => ?_⟩
  · obtain ⟨-, hkeep⟩ := register_function hreg f
    obtain ⟨u', hu', -, hmethods⟩ := hkeep u hu
    have hold : n ∈ u'.methods → n < t.methods.size ∧ (t.method n).function = f := by
      intro hn
      obtain ⟨hlt, hown⟩ := h.listed f u' hu' n hn
      rw [hmethod, hms, if_neg (Nat.ne_of_lt hlt)]
      exact ⟨Nat.lt_succ_of_lt hlt, hown⟩
    rw [hmethods] at hn
    by_cases hf : m.function = f
    · rw [if_pos hf] at hn
      rcases List.mem_append.mp hn with hn | hn
      · exact hold (List.mem_filter.mp hn).1
      · rw [List.mem_singleton.mp hn, hmethod, hms, hi, if_pos rfl]
        exact ⟨Nat.lt_succ_self _, hf⟩
    · rw [if_neg hf] at hn
      exact hold hn
  · obtain ⟨-, hkeep⟩ := register_function hreg f
    obtain ⟨u', hu', -, hmethods⟩ := hkeep u hu
    rw [hmethods]
    split
    · refine List.nodup_append.mpr ⟨(h.nodup f u' hu').filter _, by simp, fun a ha b hb hab => ?_⟩
      have hlt := (h.listed f u' hu' a (List.mem_filter.mp ha).1).1
      rw [hab, List.mem_singleton.mp hb, hi] at hlt
      exact Nat.lt_irrefl _ hlt
    · exact h.nodup f u' hu'
  · obtain ⟨tb, htb, -⟩ := (register_eq_ok_iff s m t i).mp hreg
    rw [hmethod, hfs]
    by_cases hnew : n = s.methods.size
    · rw [if_pos hnew]
      exact ⟨function_lt s htb, hlayout.trans (register_function hreg _).1.symm⟩
    · rw [if_neg hnew]
      obtain ⟨hlt, hl⟩ := h.owner n (by omega)
      exact ⟨hlt, hl.trans (register_function hreg _).1.symm⟩

theorem Stored.register (h : Stored s cs) (hempty : m.storage = .empty m.layout) :
    Stored t cs := by
  obtain ⟨-, hvs, -, -, -, hms, hmethod⟩ := register_frame hreg
  refine ⟨fun n hn => ?_, fun n hn ts v => ?_, fun c hc => ?_⟩
  · rw [hmethod]
    by_cases hnew : n = s.methods.size
    · rw [if_pos hnew, hempty]
      exact Storage.sound_empty m.layout
    · rw [if_neg hnew]
      exact h.sound n (by omega)
  · rw [hmethod]
    by_cases hnew : n = s.methods.size
    · rw [if_pos hnew, hempty, Storage.entries_empty]
      refine ⟨fun hv => absurd hv List.not_mem_nil, ?_⟩
      rintro ⟨c, hc, rfl, -⟩
      exact absurd hnew (Nat.ne_of_lt (h.called c hc).1)
    · rw [if_neg hnew]
      exact h.entry_iff n (by omega) ts v
  · obtain ⟨hlt, hrest⟩ := h.called c hc
    have hvariant : ∀ v, t.variant v = s.variant v := fun v => by
      unfold variant
      rw [hvs]
    rw [hmethod, if_neg (Nat.ne_of_lt hlt), hms, hvs, hvariant]
    exact ⟨Nat.lt_succ_of_lt hlt, hrest⟩

theorem Applied.register {hier : Hierarchy} (h : Applied hier s cs) (hst : Stored s cs) :
    Applied hier t cs := by
  obtain ⟨-, -, -, -, -, -, hmethod⟩ := register_frame hreg
  intro c hc
  rw [hmethod, if_neg (Nat.ne_of_lt (hst.called c hc).1)]
  exact h c hc

theorem Wired.register (h : Wired s cs) : Wired t cs := by
  obtain ⟨-, hvs, -⟩ := register_frame hreg
  unfold Wired variant at *
  rw [hvs]
  exact h

theorem Tabled.register (h : Tabled s cs) (hst : Stored s cs) : Tabled t cs := by
  obtain ⟨-, -, -, -, hfs, -⟩ := register_frame hreg
  intro f hf
  rw [hfs] at hf
  obtain ⟨ms, hms⟩ := h f hf
  have hcongr : tableCallers t f cs = tableCallers s f cs :=
    tableCallers_congr (fun c hc => register_isExact hreg (hst.called c hc).1) f
  rw [hcongr]
  exact ⟨_, register_table hreg hms⟩

end

/-! ## A variant made on first use -/

/-- only variants and the storage of methods differ -/
structure SameDeclarations (s t : Store) : Prop where
  functions : t.functions = s.functions
  active : t.active = s.active
  journal : t.journal = s.journal
  methods : t.methods.size = s.methods.size
  method : ∀ k, t.method k = { s.method k with storage := (t.method k).storage }

namespace SameDeclarations

theorem refl (s : Store) : SameDeclarations s s := ⟨rfl, rfl, rfl, rfl, fun _ => rfl⟩

variable (h : SameDeclarations s t)
include h

theorem function (f : Nat) : t.function f = s.function f := by
  unfold Store.function
  rw [h.functions]

theorem isExact (d : Dispatch) : t.isExact d = s.isExact d := by
  unfold Store.isExact
  rw [h.method]
  rfl

theorem applied {hier : Hierarchy} (hs : Applied hier s cs) : Applied hier t cs := by
  intro c hc
  rw [h.method]
  exact hs c hc

theorem shaped (hs : Shaped s) : Shaped t := by
  refine ⟨fun f u hu m hm => ?_, fun f u hu => ?_, fun m hm => ?_⟩
  · rw [h.function] at hu
    rw [h.methods, h.method]
    exact hs.listed f u hu m hm
  · rw [h.function] at hu
    exact hs.nodup f u hu
  · rw [h.method, h.functions, h.function]
    exact hs.owner m (h.methods ▸ hm)

theorem tabled (hs : Tabled s cs) : Tabled t cs := by
  intro f hf
  rw [h.functions] at hf
  rw [h.function, tableCallers_congr (fun c _ => h.isExact c.dispatch) f]
  exact hs f hf

end SameDeclarations

/-- the variant of a method for the types of a call is there afterwards, and nothing else changed -/
theorem Stored.variantFor (h : Stored s cs) (hw : Wired s cs) {f m : Nat} (hm : m < s.methods.size)
    (hf : (s.method m).function = f) (view : Hierarchy) (ts : List ClassId) (w : Option Nat) :
    ∃ v t, Store.variantFor view m (ofClasses ts) s = (.ok v, t) ∧ SameDeclarations s t
      ∧ Stored t (cs ++ [⟨⟨f, ts, m, v⟩, w⟩]) ∧ Wired t cs ∧ v < t.variants.size := by
  have hsig := isClasses_ofClasses ts
  rw [variantFor_eq (h.sound m hm)]
  cases hfind : (s.method m).storage.find (ofClasses ts) with
  | some v =>
    -- an earlier call left the variant there
    have hmem := ((h.sound m hm).find_eq_some_iff hsig v).mp hfind
    obtain ⟨c, hc, hcm, hct, hcv⟩ := (h.entry_iff m hm ts v).mp hmem
    obtain ⟨-, -, hlt, hvm, hvt⟩ := h.called c hc
    rw [hcv] at hlt hvm hvt
    rw [hcm] at hvm
    rw [hct] at hvt
    refine ⟨v, s, rfl, .refl s, ⟨h.sound, fun k hk ts' v' => ?_, fun c' hc' => ?_⟩, hw, hlt⟩
    · rw [h.entry_iff k hk ts' v', exists_mem_concat]
      refine (or_iff_left_of_imp ?_).symm
      rintro ⟨rfl, rfl, rfl⟩
      exact ⟨c, hc, hcm, hct, hcv⟩
    · rcases List.mem_append.mp hc' with hc' | hc'
      · exact h.called c' hc'
      · obtain rfl := List.mem_singleton.mp hc'
        exact ⟨hm, hf, hlt, hvm, hvt⟩
  | none =>
    let v := s.variants.size
    let added := (s.addVariant m (ofClasses ts)).1
    let t := added.modifyMethod m fun i =>
      { i with storage := (s.method m).storage.add (ofClasses ts) v }
    have hmethod : ∀ k, t.method k = if m = k then
        { s.method k with storage := (s.method m).storage.add (ofClasses ts) v }
        else s.method k := method_modifyMethod added _ hm
    have hvariant : ∀ k, t.variant k
        = if k = v then ⟨m, ofClasses ts, .missing⟩ else s.variant k :=
      variant_addVariant s m (ofClasses ts)
    have hms : t.methods.size = s.methods.size := size_modifyMethod added m _
    have hvs : t.variants.size = v + 1 := Array.size_push _
    refine ⟨v, t, rfl, ⟨rfl, rfl, rfl, hms, fun k => ?_⟩, ⟨fun k hk => ?_, fun k hk ts' v' => ?_,
      fun c hc => ?_⟩, fun k hk => ?_, by rw [hvs]; exact Nat.lt_succ_self v⟩
    · rw [hmethod]
      by_cases hk : m = k
      · rw [if_pos hk]
      · rw [if_neg hk]
    · rw [hmethod]
      by_cases hmk : m = k
      · rw [if_pos hmk, ← hmk]
        exact (h.sound m hm).add hsig hfind v
      · rw [if_neg hmk]
        exact h.sound k (hms ▸ hk)
    · rw [hmethod, exists_mem_concat]
      by_cases hmk : m = k
      · subst hmk
        rw [if_pos rfl]
        refine ((h.sound m hm).mem_entries_add hsig hfind v _).trans ?_
        rw [h.entry_iff m hm ts' v', or_comm, Prod.mk.injEq]
        refine or_congr_right ⟨fun ⟨ht, hv⟩ => ⟨rfl, ?_, hv.symm⟩, fun ⟨_, ht, hv⟩ => ⟨?_, hv.symm⟩⟩
        · exact (Signature.ofClasses_injective ht).symm
        · exact congrArg ofClasses ht.symm
      · rw [if_neg hmk, h.entry_iff k (hms ▸ hk) ts' v']
        exact (or_iff_left fun hc => hmk hc.1).symm
    · rw [hmethod, hvariant, hms, hvs]
      rcases List.mem_append.mp hc with hc | hc
      · obtain ⟨h1, h2, h3, h4, h5⟩ := h.called c hc
        rw [if_neg (Nat.ne_of_lt h3)]
        refine ⟨h1, ?_, Nat.lt_succ_of_lt h3, h4, h5⟩
        split <;> exact h2
      · obtain rfl := List.mem_singleton.mp hc
        rw [if_pos rfl, if_pos rfl]
        exact ⟨hm, hf, Nat.lt_succ_self v, rfl, rfl⟩
    · rw [hvariant]
      by_cases hkv : k = v
      · -- no call so far was one of the new variant
        rw [if_pos hkv, callersOf_eq_nil fun c hc hck => ?_]
        · rfl
        · exact absurd (hck.trans hkv) (Nat.ne_of_lt (h.called c hc).2.2.1)
      · rw [if_neg hkv]
        exact hw k (by omega)

/-! ## The caller recorded -/

section
variable {d : Dispatch}

/-- a change of the edges of a variant -/
theorem Stored.modifyVariant (h : Stored s cs) {v : Nat} (hv : v < s.variants.size)
    (new : Edges) : Stored (s.modifyVariant v fun i => { i with dependents := new }) cs := by
  refine ⟨h.sound, h.entry_iff, fun c hc => ?_⟩
  obtain ⟨h1, h2, h3, h4, h5⟩ := h.called c hc
  rw [variant_modifyVariant s _ hv, size_modifyVariant]
  refine ⟨h1, h2, h3, ?_⟩
  split <;> exact ⟨h4, h5⟩

/-- a change of the edges of a table -/
theorem Shaped.modifyTable (h : Shaped s) {f : Nat} (hf : f < s.functions.size) (new : Edges) :
    Shaped (s.modifyTable f fun t => { t with edges := new }) := by
  -- every table has the same methods as before
  have hmethods : ∀ k u, ((s.modifyTable f fun t => { t with edges := new }).function k).table
      = some u → ∃ u', (s.function k).table = some u' ∧ u.methods = u'.methods := by
    intro k u hu
    rw [function_modifyTable s _ hf] at hu
    dsimp only at hu
    by_cases hk : f = k
    · rw [if_pos hk] at hu
      obtain ⟨u', hu', rfl⟩ := Option.map_eq_some_iff.mp hu
      exact ⟨u', hu', rfl⟩
    · rw [if_neg hk] at hu
      exact ⟨u, hu, rfl⟩
  refine ⟨fun k u hu m hm => ?_, fun k u hu => ?_, fun m hm => ?_⟩
  · obtain ⟨u', hu', hsame⟩ := hmethods k u hu
    exact h.listed k u' hu' m (hsame ▸ hm)
  · obtain ⟨u', hu', hsame⟩ := hmethods k u hu
    rw [hsame]
    exact h.nodup k u' hu'
  · rw [function_modifyTable s _ hf]
    obtain ⟨h1, h2⟩ := h.owner m hm
    exact ⟨Nat.lt_of_lt_of_eq h1 (size_modifyFunction s f _).symm, h2⟩

theorem Applied.concat {hier : Hierarchy} (h : Applied hier s cs)
    (hd : (s.method d.method).isApplicable hier (ofClasses d.types) = .ok true) (w : Option Nat) :
    Applied hier s (cs ++ [⟨d, w⟩]) := by
  intro c hc
  rcases List.mem_append.mp hc with hc | hc
  · exact h c hc
  · obtain rfl := List.mem_singleton.mp hc
    exact hd

/-- a call from the outside of all others has no caller to record -/
theorem Wired.idle (h : Wired s cs) : Wired s (cs ++ [⟨d, none⟩]) := by
  intro v hv
  rw [callersOf_concat, h v hv]
  split <;> simp

theorem Tabled.idle (h : Tabled s cs) : Tabled s (cs ++ [⟨d, none⟩]) := by
  intro f hf
  rw [tableCallers_concat]
  obtain ⟨ms, hms⟩ := h f hf
  refine ⟨ms, hms.trans ?_⟩
  split <;> simp

variable {w : Nat}

theorem Wired.modifyVariant (h : Wired s cs) (hd : d.variant < s.variants.size) :
    Wired (s.modifyVariant d.variant fun i =>
      { i with dependents := .ofCallers (callersOf d.variant cs ++ [w]) })
      (cs ++ [⟨d, some w⟩]) := by
  intro v hv
  rw [size_modifyVariant] at hv
  rw [variant_modifyVariant s _ hd, callersOf_concat]
  by_cases hdv : d.variant = v
  · rw [if_pos hdv, if_pos hdv, hdv]
    rfl
  · rw [if_neg hdv, if_neg hdv, List.append_nil]
    exact h v hv

theorem Tabled.exact (h : Tabled s cs) (hd : s.isExact d = true) :
    Tabled s (cs ++ [⟨d, some w⟩]) := by
  intro f hf
  obtain ⟨ms, hms⟩ := h f hf
  refine ⟨ms, hms.trans ?_⟩
  rw [tableCallers_concat, if_neg (by simp [hd]), List.append_nil]

theorem Tabled.modifyTable (h : Tabled s cs) (hd : s.isExact d = false)
    (hf : d.function < s.functions.size) :
    Tabled (s.modifyTable d.function fun t => { t with
      edges := .held (interleave (tableCallers s d.function cs ++ [(d.types, w)]).eraseDups) })
      (cs ++ [⟨d, some w⟩]) := by
  intro f hlt
  have hlt : f < s.functions.size := Nat.lt_of_lt_of_eq hlt (size_modifyFunction s _ _)
  obtain ⟨ms, hms⟩ := h f hlt
  have hcongr : ∀ g, tableCallers (s.modifyTable d.function g) f (cs ++ [⟨d, some w⟩])
      = tableCallers s f (cs ++ [⟨d, some w⟩]) := fun g => tableCallers_congr (fun c _ => rfl) f
  refine ⟨ms, ?_⟩
  rw [hcongr, function_modifyTable s _ hf, tableCallers_concat]
  dsimp only
  rw [hms]
  by_cases hdf : d.function = f
  · rw [if_pos hdf, if_pos ⟨hdf, hd⟩, hdf]
    rfl
  · rw [if_neg hdf, if_neg fun hc => hdf hc.1, List.append_nil]

end

end Store

end Introspect
