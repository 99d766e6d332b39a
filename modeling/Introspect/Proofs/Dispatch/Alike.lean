import Introspect.Proofs.Dispatch.Storage
import Introspect.Proofs.InStep
import Introspect.Proofs.Script.Programs

/-!
# Stores that differ in their layouts only

* `Method.Alike`    two methods declare the same, and their bodies are one body of a program that is
                    laid out in two ways;
* `Storage.Alike`   two storages, each sound for its layout, have the same entries;
* `Store.Alike`     two stores have the same variants and the same functions and methods, but for
                    layouts, storages and bodies;
* `Store.Alike.resolve_eq`   calls choose the same methods there;
* `Store.inStep_enter`       calls find the same variants, and record the same dependents.
-/

namespace Introspect

open Signature (ofClasses isClasses_ofClasses)

/-- functions that differ in their layouts only -/
def Function.Alike (f g : Function) : Prop := g = { f with layout := g.layout }

/-- methods that differ in their layouts and storages only, and in the layouts that their bodies ask
for -/
structure Method.Alike (l l' : Layout) (m n : Method) : Prop where
  declared : n = { m with
    layout := n.layout, storage := n.storage, implementation := n.implementation }
  implementation : n.implementation = { m.implementation with body := n.implementation.body }
  body : ∃ b : Script, b.Plain true ∧ m.implementation.body = b.laidOut l
    ∧ n.implementation.body = b.laidOut l'

/-- storages, each sound for its layout, that have the same entries -/
structure Storage.Alike (l l' : Layout) (a b : Storage) : Prop where
  left : Storage.Sound l a
  right : Storage.Sound l' b
  entries : ∀ e, e ∈ a.entries ↔ e ∈ b.entries

/-- a method keeps its variants in a layout -/
structure Method.KeptAlike (l l' : Layout) (m n : Method) : Prop where
  left : m.layout = l
  right : n.layout = l'
  storage : Storage.Alike l l' m.storage n.storage

/-- stores that differ in their layouts only -/
structure Store.Alike (l l' : Layout) (s t : Store) : Prop where
  functions : t.functions.size = s.functions.size
  function : ∀ f, (s.function f).Alike (t.function f)
  layout : ∀ f < s.functions.size, (s.function f).layout = l ∧ (t.function f).layout = l'
  methods : t.methods.size = s.methods.size
  method : ∀ m, (s.method m).Alike l l' (t.method m)
  kept : ∀ m < s.methods.size, (s.method m).KeptAlike l l' (t.method m)
  variants : t.variants = s.variants
  active : t.active = s.active
  journal : t.journal = s.journal

variable {l l' : Layout}

/-! ## Storages -/

namespace Storage

theorem alike_empty (l l' : Layout) : Alike l l' (empty l) (empty l') :=
  ⟨sound_empty l, sound_empty l', fun e => by rw [entries_empty, entries_empty]⟩

namespace Alike

variable {a b : Storage} (h : Alike l l' a b) {sig : Signature} (hsig : Signature.IsClasses sig)
include h hsig

/-- what one storage finds, the other one finds -/
theorem find_eq : b.find sig = a.find sig := by
  refine Option.ext fun v => ?_
  rw [h.right.find_eq_some_iff hsig, h.left.find_eq_some_iff hsig, h.entries]

theorem add (hnew : a.find sig = none) (v : Nat) :
    Alike l l' (a.add sig v) (b.add sig v) := by
  have hnew' : b.find sig = none := (h.find_eq hsig).trans hnew
  refine ⟨h.left.add hsig hnew v, h.right.add hsig hnew' v, fun e => ?_⟩
  rw [h.left.mem_entries_add hsig hnew, h.right.mem_entries_add hsig hnew', h.entries]

end Alike

end Storage

/-- readers of the two layouts come to the same variants -/
theorem Method.KeptAlike.source_perm {m n : Method} (h : m.KeptAlike l l' n) (hier : Hierarchy) :
    ∃ vs ws, l.source hier m = ⟨vs, none⟩ ∧ l'.source hier n = ⟨ws, none⟩ ∧ ws.Perm vs := by
  obtain ⟨hl, hr, hstorage⟩ := h
  have hleft : Storage.Sound m.layout m.storage := hl ▸ hstorage.left
  have hright : Storage.Sound n.layout n.storage := hr ▸ hstorage.right
  have hperm : n.storage.entries.Perm m.storage.entries :=
    (List.perm_ext_iff_of_nodup (Storage.Sound.nodup hright) (Storage.Sound.nodup hleft)).mpr
      fun e => (hstorage.entries e).symm
  rw [← hl, ← hr, hleft.source_eq hier, hright.source_eq hier]
  exact ⟨_, _, rfl, rfl, hperm.map Prod.snd⟩

/-! ## Functions and methods -/

theorem Function.Alike.refl (f : Function) : f.Alike f := rfl

theorem Function.Alike.name {f g : Function} (h : f.Alike g) : g.name = f.name := by
  rw [h]

theorem Function.Alike.table {f g : Function} (h : f.Alike g) : g.table = f.table := by
  rw [h]

namespace Method.Alike

variable {m n : Method} (h : m.Alike l l' n)
include h

theorem function : n.function = m.function := by rw [h.declared]

theorem sameKey (k : Method) : n.sameKey k = m.sameKey k := by rw [h.declared]; rfl

theorem parameterTypes (arity : Nat) : n.parameterTypes arity = m.parameterTypes arity := by
  rw [h.declared]; rfl

theorem text (view : Surroundings) (name : String) : n.text view name = m.text view name := by
  rw [h.declared]; rfl

theorem isApplicable (hier : Hierarchy) (types : Signature) :
    n.isApplicable hier types = m.isApplicable hier types := by
  rw [h.declared]; rfl

end Method.Alike

theorem Method.Alike.isMoreSpecific {m n o p : Method} (h : m.Alike l l' n) (h' : o.Alike l l' p)
    (hier : Hierarchy) (arity : Option Nat) :
    n.isMoreSpecific hier p arity = m.isMoreSpecific hier o arity := by
  rw [h.declared, h'.declared]; rfl

namespace Store

theorem alike_empty (l l' : Layout) : Alike l l' empty empty where
  functions := rfl
  function _ := .refl _
  layout f hf := absurd hf (Nat.not_lt_zero f)
  methods := rfl
  method _ := ⟨rfl, rfl, .list [], trivial, rfl, rfl⟩
  kept m hm := absurd hm (Nat.not_lt_zero m)
  variants := rfl
  active := rfl
  journal := rfl

namespace Alike

variable {s t : Store} (h : Alike l l' s t)
include h

/-! ## What is read from stores that differ in their layouts -/

theorem table?_eq (f : Nat) : t.table? f = s.table? f := by
  unfold table?
  rw [(h.function f).table]

theorem variant_eq (v : Nat) : t.variant v = s.variant v := by
  unfold variant
  rw [h.variants]

theorem referenceText_eq (view : Surroundings) (v : Value) :
    t.referenceText view v = s.referenceText view v := by
  unfold referenceText functionText
  cases v with
  | generic f => dsimp only; rw [(h.function f).table, (h.function f).name]
  | method m =>
    dsimp only
    rw [(h.method m).text, (h.method m).function, (h.function _).name]
  | table f => dsimp only; rw [(h.function f).name]
  | variant v =>
    dsimp only
    rw [h.variant_eq, (h.method _).function, (h.function _).name]
  | _ => rfl

theorem candidates_eq (hier : Hierarchy) (tb : Table) (types : Signature) :
    t.candidates hier tb types = s.candidates hier tb types := by
  have htest : (fun m => (t.method m).isApplicable hier types)
      = fun m => (s.method m).isApplicable hier types :=
    funext fun m => (h.method m).isApplicable hier types
  unfold candidates
  rw [htest]

theorem unbeaten_eq (hier : Hierarchy) (arity : Nat) (cs : List Nat) :
    t.unbeaten hier arity cs = s.unbeaten hier arity cs := by
  have htest : (fun o m => (t.method o).isMoreSpecific hier (t.method m) (some arity))
      = fun o m => (s.method o).isMoreSpecific hier (s.method m) (some arity) :=
    funext fun o => funext fun m => (h.method o).isMoreSpecific (h.method m) hier (some arity)
  have hm : ∀ m o, (t.method o).isMoreSpecific hier (t.method m) (some arity)
      = (s.method o).isMoreSpecific hier (s.method m) (some arity) :=
    fun m o => congrFun (congrFun htest o) m
  unfold unbeaten
  simp only [hm]

/-- calls choose the same methods -/
theorem resolve_eq (view : Surroundings) (f : Nat) (types : Signature) :
    t.resolve view f types = s.resolve view f types := by
  unfold resolve
  simp only [h.table?_eq, (h.function f).name, h.candidates_eq, h.unbeaten_eq]

theorem methodsOf_eq (hier : Hierarchy) (f : Nat) :
    t.methodsOf hier f none = s.methodsOf hier f none := by
  unfold methodsOf
  rw [h.table?_eq]

/-! ## Changes that are made in both stores -/

/-- a new function is laid out in one way or in the other -/
theorem addFunction (fn : Function) :
    Alike l l' (s.addFunction { fn with layout := l }).1 (t.addFunction { fn with layout := l' }).1
    := by
  have hsize : ∀ (s : Store) (fn : Function),
      (s.addFunction fn).1.functions.size = s.functions.size + 1 := fun _ _ => Array.size_push _
  refine ⟨?_, fun f => ?_, fun f hf => ?_, h.methods, h.method, h.kept, h.variants, h.active,
    h.journal⟩
  · rw [hsize, hsize, h.functions]
  · rw [function_addFunction, function_addFunction, h.functions]
    split
    · rfl
    · exact h.function f
  · rw [hsize] at hf
    rw [function_addFunction, function_addFunction, h.functions]
    split
    · exact ⟨rfl, rfl⟩
    · next hne => exact h.layout f (by omega)

theorem pushMethod {m n : Method} (hm : m.Alike l l' n) (hkept : m.KeptAlike l l' n) :
    Alike l l' { s with methods := s.methods.push m } { t with methods := t.methods.push n } := by
  refine ⟨h.functions, h.function, h.layout, ?_, fun k => ?_, fun k hk => ?_, h.variants, h.active,
    h.journal⟩
  · show (t.methods.push n).size = (s.methods.push m).size
    rw [Array.size_push, Array.size_push, h.methods]
  · rw [method_push, method_push, h.methods]
    split
    · exact hm
    · exact h.method k
  · have hk' : k < (s.methods.push m).size := hk
    rw [Array.size_push] at hk'
    rw [method_push, method_push, h.methods]
    split
    · exact hkept
    · next hne => exact h.kept k (by omega)

theorem modifyTable (g : Table → Table) {f : Nat} (hf : f < s.functions.size) :
    Alike l l' (s.modifyTable f g) (t.modifyTable f g) := by
  have hf' : f < t.functions.size := h.functions ▸ hf
  have hsize : (s.modifyTable f g).functions.size = s.functions.size := Array.size_modify
  refine ⟨?_, fun k => ?_, fun k hk => ?_, h.methods, h.method, h.kept, h.variants, h.active,
    h.journal⟩
  · rw [hsize]
    exact Array.size_modify.trans h.functions
  · rw [function_modifyTable s g hf, function_modifyTable t g hf', h.function k]
    rfl
  · rw [function_modifyTable s g hf, function_modifyTable t g hf']
    exact h.layout k (hsize ▸ hk)

/-- one more method, in place of one with the same declared parameters -/
theorem register {m n : Method} (hm : m.Alike l l' n)
    (hkept : m.function < s.functions.size → m.KeptAlike l l' n) :
    Agree (fun r r' => Alike l l' r.1 r'.1 ∧ r.2 = r'.2) (s.register m) (t.register n) := by
  have hkey : ∀ k, (t.method k).sameKey n = (s.method k).sameKey m := by
    intro k
    rw [(h.method k).sameKey n, hm.declared]
    rfl
  unfold Store.register
  rw [hm.function, h.table?_eq]
  cases htb : s.table? m.function with
  | error e => exact Eq.refl e
  | ok tb =>
    have hlt := function_lt s ((table?_eq_ok_iff s m.function tb).mp htb)
    have hpush := h.pushMethod hm (hkept hlt)
    simp only [hkey, h.methods]
    exact ⟨hpush.modifyTable _ hlt, rfl⟩

theorem addVariant (m : Nat) (types : Signature) :
    Alike l l' (s.addVariant m types).1 (t.addVariant m types).1 :=
  ⟨h.functions, h.function, h.layout, h.methods, h.method, h.kept,
    congrArg (fun vs => vs.push ⟨m, types, .missing⟩) h.variants, h.active, h.journal⟩

theorem modifyVariant (v : Nat) (g : Variant → Variant) :
    Alike l l' (s.modifyVariant v g) (t.modifyVariant v g) :=
  ⟨h.functions, h.function, h.layout, h.methods, h.method, h.kept,
    congrArg (Array.modify · v g) h.variants, h.active, h.journal⟩

theorem keepStorage {m : Nat} (hm : m < s.methods.size) {a b : Storage}
    (hab : Storage.Alike l l' a b) :
    Alike l l' (s.modifyMethod m fun i => { i with storage := a })
      (t.modifyMethod m fun i => { i with storage := b }) := by
  have hm' : m < t.methods.size := h.methods ▸ hm
  refine ⟨h.functions, h.function, h.layout, ?_, fun k => ?_, fun k hk => ?_, h.variants, h.active,
    h.journal⟩
  · rw [size_modifyMethod, size_modifyMethod, h.methods]
  · rw [method_modifyMethod s _ hm, method_modifyMethod t _ hm']
    obtain ⟨hdeclared, himplementation, hbody⟩ := h.method k
    split
    · refine ⟨?_, himplementation, hbody⟩
      rw [hdeclared]
    · exact h.method k
  · rw [size_modifyMethod] at hk
    rw [method_modifyMethod s _ hm, method_modifyMethod t _ hm']
    split
    · exact ⟨(h.kept k hk).left, (h.kept k hk).right, hab⟩
    · exact h.kept k hk

theorem beginCall (d : Dispatch) : Alike l l' (s.beginCall d) (t.beginCall d) :=
  ⟨h.functions, h.function, h.layout, h.methods, h.method, h.kept, h.variants, rfl,
    congrArg (Event.entered d :: ·) h.journal⟩

theorem endCall (former : Option Nat) : Alike l l' (s.endCall former) (t.endCall former) :=
  ⟨h.functions, h.function, h.layout, h.methods, h.method, h.kept, h.variants, rfl,
    congrArg (Event.left :: ·) h.journal⟩

end Alike

/-! ## Calls find the same variants -/

/-- methods outside of the store have no storage -/
theorem variantFor_of_size_le {s : Store} {m : Nat} (hm : s.methods.size ≤ m) (view : Hierarchy)
    (types : Signature) : variantFor view m types s
      = (.error (.noAttribute "MethodDefinition" "specializations"), s) := by
  have hmethod : s.method m = default := by
    unfold method
    rw [Array.getD_eq_getD_getElem?, Array.getElem?_eq_none hm]
    rfl
  unfold variantFor
  rw [hmethod]
  rfl

theorem inStep_variantFor (view : Hierarchy) (m : Nat) (ts : List ClassId) :
    InStep (Alike l l') Eq (variantFor view m (ofClasses ts))
      (variantFor view m (ofClasses ts)) := by
  intro s t h
  by_cases hm : m < s.methods.size
  · obtain ⟨hl, hr, hstorage⟩ := h.kept m hm
    have hleft : Storage.Sound (s.method m).layout (s.method m).storage := hl ▸ hstorage.left
    have hright : Storage.Sound (t.method m).layout (t.method m).storage := hr ▸ hstorage.right
    have hfind := hstorage.find_eq (isClasses_ofClasses ts)
    rw [variantFor_eq hleft, variantFor_eq hright, hfind]
    cases hv : (s.method m).storage.find (ofClasses ts) with
    | some v => exact ⟨Eq.refl v, h⟩
    | none =>
      have hsize : t.variants.size = s.variants.size := by rw [h.variants]
      dsimp only
      rw [hsize]
      exact ⟨Eq.refl _, (h.addVariant m (ofClasses ts)).keepStorage hm
        (hstorage.add (isClasses_ofClasses ts) hv s.variants.size)⟩
  · have hle : s.methods.size ≤ m := Nat.le_of_not_lt hm
    rw [variantFor_of_size_le hle, variantFor_of_size_le (h.methods ▸ hle)]
    exact ⟨Eq.refl _, h⟩

theorem inStep_addDependent (hier : Hierarchy) (v dependent : Nat) :
    InStep (Alike l l') Eq (addDependent hier v dependent) (addDependent hier v dependent) := by
  intro s t h
  unfold addDependent
  dsimp only
  rw [h.variant_eq]
  cases (s.variant v).dependents with
  | missing => exact ⟨Eq.refl _, h.modifyVariant v _⟩
  | held items =>
    dsimp only
    split
    · exact ⟨Eq.refl _, h⟩
    · exact ⟨Eq.refl _, h.modifyVariant v _⟩
  | replaced old => exact ⟨Eq.refl _, h⟩

theorem inStep_addTableEdge (hier : Hierarchy) (f : Nat) (types : Signature) (dependent : Nat) :
    InStep (Alike l l') Eq (addTableEdge hier f types dependent)
      (addTableEdge hier f types dependent) := by
  intro s t h
  unfold addTableEdge
  dsimp only
  rw [h.table?_eq]
  cases htb : s.table? f with
  | error e => exact ⟨Eq.refl _, h⟩
  | ok tb =>
    have hlt := function_lt s ((table?_eq_ok_iff s f tb).mp htb)
    dsimp only
    cases tb.edges with
    | missing => exact ⟨Eq.refl _, h⟩
    | held items =>
      dsimp only
      split
      · exact ⟨Eq.refl _, h⟩
      · exact ⟨Eq.refl _, h.modifyTable _ hlt⟩
    | replaced old => exact ⟨Eq.refl _, h⟩

/-- calls find the same methods and variants, and record the same dependents -/
theorem inStep_enter {viewOf viewOf' : Store → Surroundings}
    (hview : ∀ s t, Alike l l' s t → viewOf' t = viewOf s) (f : Nat) (ts : List ClassId) :
    InStep (Alike l l') Eq (enter viewOf f ts) (enter viewOf' f ts) := by
  unfold enter
  refine InStep.get_bind fun s t h => ?_
  dsimp only
  rw [hview s t h, h.resolve_eq, h.active]
  refine InStep.bind_eq (fun s t h => ⟨.of_eq rfl, h⟩) fun m => ?_
  rw [(h.method m).parameterTypes]
  refine (inStep_variantFor _ m ts).bind_eq fun v => ?_
  cases s.active with
  | none => exact InStep.pure rfl
  | some caller =>
    refine (inStep_addDependent _ v caller).bind_eq fun _ => ?_
    split
    · exact InStep.pure rfl
    · exact (inStep_addTableEdge _ f _ caller).bind_eq fun _ => InStep.pure rfl

end Store

end Introspect
