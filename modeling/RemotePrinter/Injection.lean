-- The hook of a thread of another process: `inject_dll` and `eject_dll` of the
-- sample. They keep the library and the hook in two variables of the caller,
-- which the next call finds as the last one left them.
import RemotePrinter.HookTable
import RemotePrinter.Ledger
import RemotePrinter.Runs

open Interactive

namespace RemotePrinter

namespace sample

/-! ## The programs -/

abbrev HHOOK := Nat

abbrev HOOKPROC := Nat

/-- `L"apifwrd.dll"`. -/
def apifwrd_dll : List UInt16 :=
  ['a', 'p', 'i', 'f', 'w', 'r', 'd', '.', 'd', 'l', 'l'].map fun c => UInt16.ofNat c.toNat

/-- `"HelperHookProcForSetWindowsHookEx"`. -/
def helperHookProc : Bytes :=
  ascii ['H', 'e', 'l', 'p', 'e', 'r', 'H', 'o', 'o', 'k', 'P', 'r', 'o', 'c', 'F', 'o', 'r',
    'S', 'e', 't', 'W', 'i', 'n', 'd', 'o', 'w', 's', 'H', 'o', 'o', 'k', 'E', 'x']

def WH_CBT : I32 := 5

inductive Op where
  | LoadLibraryW (lpLibFileName : List UInt16)
  | GetProcAddress (hModule : HMODULE) (lpProcName : Bytes)
  | SetWindowsHookEx (idHook : I32) (lpfn : HOOKPROC) (hmod : HMODULE) (dwThreadId : I32)
  | UnhookWindowsHookEx (hhk : HHOOK)
  | FreeLibrary (hLibModule : HMODULE)

@[reducible] def Op.Answer : Op → Type
  | LoadLibraryW _ => Option HMODULE
  | GetProcAddress .. => Option HOOKPROC
  | SetWindowsHookEx .. => Option HHOOK
  | UnhookWindowsHookEx _ => BOOL
  | FreeLibrary _ => BOOL

abbrev Injecting (α : Type) := Prog Op Op.Answer Empty α

/-- The two variables of the caller, NULL at the start. -/
structure Variables where
  hmodule : Option HMODULE := none
  hhook : Option HHOOK := none

/-- The library is loaded if `hmodule` is NULL. -/
def load_module : Option HMODULE → Injecting (Option HMODULE)
  | some hmodule => return some hmodule
  | none => Prog.perform (Op.LoadLibraryW apifwrd_dll)

def inject_dll (v : Variables) (target_threadid : I32) : Injecting (Variables × Bool) := do
  if v.hhook.isSome then return (v, true)
  match ← load_module v.hmodule with
  | none => return ({ v with hmodule := none }, false)
  | some hmodule =>
    match ← Prog.perform (Op.GetProcAddress hmodule helperHookProc) with
    | none =>
      let _ ← Prog.perform (Op.FreeLibrary hmodule)
      return ({ v with hmodule := some hmodule }, false)
    | some addr =>
      match ← Prog.perform (Op.SetWindowsHookEx WH_CBT addr hmodule target_threadid) with
      | none =>
        let _ ← Prog.perform (Op.FreeLibrary hmodule)
        return ({ hmodule := some hmodule, hhook := none }, false)
      | some hhook => return ({ hmodule := some hmodule, hhook := some hhook }, true)

/-- The first `if` of `eject_dll`, and the second. -/
def unhook : Option HHOOK → Injecting (Option HHOOK)
  | none => return none
  | some hhook => do
    let _ ← Prog.perform (Op.UnhookWindowsHookEx hhook)
    return none

def free_module : Option HMODULE → Injecting (Option HMODULE)
  | none => return none
  | some hmodule => do
    let _ ← Prog.perform (Op.FreeLibrary hmodule)
    return none

def eject_dll (v : Variables) : Injecting Variables := do
  let hhook ← unhook v.hhook
  let hmodule ← free_module v.hmodule
  return { hmodule, hhook }

/-! ## Sequences of calls -/

inductive Call where
  | inject_dll (target_threadid : I32)
  | eject_dll

def Call.program : Call → Variables → Injecting Variables
  | inject_dll target_threadid, v => do
    let (v', _) ← sample.inject_dll v target_threadid
    return v'
  | eject_dll, v => sample.eject_dll v

abbrev Trace := List (Obs Op Op.Answer Unit)

/-- A call that was made, what it did, and how it left the variables. -/
structure CallRecord where
  call : Call
  trace : Trace
  after : Variables

/-- Windows may answer anything. -/
def windows : Env Op Op.Answer Unit Unit := Prog.possible fun _ _ => True

def CallStep (v : Variables) (rec : CallRecord) (v' : Variables) : Prop :=
  (rec.call.program v).RunsIn windows () rec.trace (.ok rec.after) () ∧ v' = rec.after

/-- The operations of the calls, in order. -/
def history (recs : List CallRecord) : Trace := recs.flatMap CallRecord.trace

/-! ## What is held -/

def moduleEntry : Obs Op Op.Answer Unit → Option (Ledger.Entry HMODULE)
  | ⟨.LoadLibraryW _, a, _⟩ => a.map .acquire
  | ⟨.GetProcAddress hModule _, _, _⟩ => some (.use hModule)
  | ⟨.SetWindowsHookEx _ _ hmod _, _, _⟩ => some (.use hmod)
  | ⟨.UnhookWindowsHookEx _, _, _⟩ => none
  | ⟨.FreeLibrary hLibModule, _, _⟩ => some (.release hLibModule)

def hookEntry : Obs Op Op.Answer Unit → Option (Ledger.Entry HHOOK)
  | ⟨.LoadLibraryW _, _, _⟩ => none
  | ⟨.GetProcAddress .., _, _⟩ => none
  | ⟨.SetWindowsHookEx .., a, _⟩ => a.map .acquire
  | ⟨.UnhookWindowsHookEx hhk, _, _⟩ => some (.release hhk)
  | ⟨.FreeLibrary _, _, _⟩ => none

/-- The loads, uses and releases of the library. -/
def modules (tr : Trace) : List (Ledger.Entry HMODULE) := tr.filterMap moduleEntry

def hooks (tr : Trace) : List (Ledger.Entry HHOOK) := tr.filterMap hookEntry

/-- The loads that were not released, and the hooks that were not removed. -/
def heldModules (tr : Trace) : List HMODULE := Ledger.held [] (modules tr)

def heldHooks (tr : Trace) : List HHOOK := Ledger.held [] (hooks tr)

/-- The variables are true to what is held, and only loaded modules were used and released. -/
structure Balanced (v : Variables) (tr : Trace) : Prop where
  module : v.hmodule.isSome ↔ (heldModules tr).length = 1
  hook : v.hhook.isSome → v.hmodule.isSome
  sound : Ledger.Sound [] (modules tr)

/-- The last call has left all in balance, and nothing held if it is `eject_dll`. -/
def BalancedAfter (pre : List CallRecord) (rec : CallRecord) : Prop :=
  Balanced rec.after (history (pre ++ [rec])) ∧
    (rec.call = .eject_dll →
      heldModules (history (pre ++ [rec])) = [] ∧ heldHooks (history (pre ++ [rec])) = [])

/-- The entry point is not in the library, or the hook was not installed. -/
def Refused : Obs Op Op.Answer Unit → Prop
  | ⟨.GetProcAddress .., a, _⟩ => a = none
  | ⟨.SetWindowsHookEx .., a, _⟩ => a = none
  | _ => False

/-! ## One call -/

/-- A call in which nothing is refused: the variables say after it what is held. -/
structure Clean (v : Variables) (tr : Trace) (v' : Variables) : Prop where
  sound : Ledger.Sound v.hmodule.toList (modules tr)
  modules_eq : Ledger.held v.hmodule.toList (modules tr) = v'.hmodule.toList
  hooks_eq : Ledger.held v.hhook.toList (hooks tr) = v'.hhook.toList
  hook : v'.hhook.isSome → v'.hmodule.isSome
  granted : ∀ o ∈ tr, ¬ Refused o

/-- A call that was refused something: `hmodule` keeps the value of a library that was freed. -/
structure Dangling (v : Variables) (tr : Trace) (v' : Variables) : Prop where
  refused : ∃ o ∈ tr, Refused o
  hmodule : v'.hmodule.isSome
  freed : Ledger.held v.hmodule.toList (modules tr) = []

theorem modules_append (tr tr' : Trace) : modules (tr ++ tr') = modules tr ++ modules tr' :=
  List.filterMap_append

theorem hooks_append (tr tr' : Trace) : hooks (tr ++ tr') = hooks tr ++ hooks tr' :=
  List.filterMap_append

section
variable {v v₁ v' : Variables} {tr tr' : Trace}

/-- Nothing is done, and the variables are as they were. -/
theorem Clean.refl (hv : v.hhook.isSome → v.hmodule.isSome) : Clean v [] v :=
  ⟨trivial, rfl, rfl, hv, by simp⟩

theorem Clean.trans (h : Clean v tr v₁) (h' : Clean v₁ tr' v') : Clean v (tr ++ tr') v' := by
  constructor
  · rw [modules_append, Ledger.sound_append, h.modules_eq]
    exact ⟨h.sound, h'.sound⟩
  · rw [modules_append, Ledger.held_append, h.modules_eq, h'.modules_eq]
  · rw [hooks_append, Ledger.held_append, h.hooks_eq, h'.hooks_eq]
  · exact h'.hook
  · intro o ho
    rcases List.mem_append.mp ho with ho | ho
    · exact h.granted o ho
    · exact h'.granted o ho

theorem Clean.dangling (h : Clean v tr v₁) (h' : Dangling v₁ tr' v') :
    Dangling v (tr ++ tr') v' := by
  obtain ⟨o, ho, hrefused⟩ := h'.refused
  constructor
  · exact ⟨o, List.mem_append_right tr ho, hrefused⟩
  · exact h'.hmodule
  · rw [modules_append, Ledger.held_append, h.modules_eq]
    exact h'.freed

end

/-- It loads nothing, or the library that was not there. -/
theorem load_module_clean {m m' : Option HMODULE} {tr : Trace}
    (h : (load_module m).RunsIn windows () tr (.ok m') ()) :
    Clean { hmodule := m } tr { hmodule := m' } := by
  cases m with
  | some m =>
    obtain ⟨rfl, hr, -⟩ := h
    cases hr
    exact Clean.refl (by simp)
  | none =>
    obtain ⟨a, u, s, tr', -, rfl, rfl, hr, -⟩ := h
    cases hr
    constructor
    · cases m' <;>
        simp [modules, moduleEntry, List.filterMap_cons, Ledger.Sound, Ledger.Entry.needs]
    · cases m' <;> simp [modules, moduleEntry, List.filterMap_cons, Ledger.Entry.post]
    · rfl
    · simp
    · simp [Refused]

/-- All that `inject_dll` can do to the ledgers. -/
theorem inject_dll_runsIn {v v' : Variables} {t : I32} {tr : Trace} {b : Bool}
    (hv : v.hhook.isSome → v.hmodule.isSome)
    (h : (inject_dll v t).RunsIn windows () tr (.ok (v', b)) ()) :
    Clean v tr v' ∨ Dangling v tr v' := by
  obtain ⟨hmodule, hhook⟩ := v
  unfold inject_dll at h
  cases hhook with
  | some hhook =>
    obtain ⟨rfl, hr, -⟩ := h
    cases hr
    exact Or.inl (Clean.refl hv)
  | none =>
    rcases Prog.RunsIn.of_bind h with ⟨x, -, -⟩ | ⟨m, tr₁, tr₂, u, hload, rfl, hrest⟩
    · exact x.elim
    have hclean := load_module_clean hload
    cases m with
    | none =>
      obtain ⟨rfl, hr, -⟩ := hrest
      cases hr
      exact Or.inl (hclean.trans (Clean.refl (by simp)))
    | some m =>
      obtain ⟨addr, u₁, s₁, tr₃, -, rfl, hrest⟩ := hrest
      cases addr with
      | none =>
        obtain ⟨ok, u₂, s₂, tr₄, -, rfl, rfl, hr, -⟩ := hrest
        cases hr
        refine Or.inr (hclean.dangling ⟨?_, rfl, ?_⟩)
        · exact ⟨⟨.GetProcAddress m helperHookProc, none, u₁⟩, by simp, rfl⟩
        · simp [modules, moduleEntry, Ledger.Entry.post]
      | some addr =>
        obtain ⟨hhk, u₂, s₂, tr₄, -, rfl, hrest⟩ := hrest
        cases hhk with
        | none =>
          obtain ⟨ok, u₃, s₃, tr₅, -, rfl, rfl, hr, -⟩ := hrest
          cases hr
          refine Or.inr (hclean.dangling ⟨?_, rfl, ?_⟩)
          · exact ⟨⟨.SetWindowsHookEx WH_CBT addr m t, none, u₂⟩, by simp, rfl⟩
          · simp [modules, moduleEntry, Ledger.Entry.post]
        | some hhk =>
          obtain ⟨rfl, hr, -⟩ := hrest
          cases hr
          refine Or.inl (hclean.trans ⟨?_, ?_, ?_, by simp, by simp [Refused]⟩)
          · simp [modules, moduleEntry, Ledger.Sound, Ledger.Entry.needs, Ledger.Entry.post]
          · simp [modules, moduleEntry, Ledger.Entry.post]
          · simp [hooks, hookEntry, List.filterMap_cons, Ledger.Entry.post]

theorem unhook_clean {v : Variables} {r : Option HHOOK} {tr : Trace}
    (hv : v.hhook.isSome → v.hmodule.isSome)
    (h : (unhook v.hhook).RunsIn windows () tr (.ok r) ()) :
    r = none ∧ Clean v tr { hmodule := v.hmodule } := by
  obtain ⟨hmodule, hhook⟩ := v
  cases hhook with
  | none =>
    obtain ⟨rfl, hr, -⟩ := h
    cases hr
    exact ⟨rfl, Clean.refl hv⟩
  | some hhook =>
    obtain ⟨ok, u, s, tr', -, rfl, rfl, hr, -⟩ := h
    cases hr
    refine ⟨rfl, ?_, ?_, ?_, by simp, by simp [Refused]⟩
    · simp [modules, moduleEntry, List.filterMap_cons, Ledger.Sound]
    · simp [modules, moduleEntry, List.filterMap_cons]
    · simp [hooks, hookEntry, Ledger.Entry.post]

theorem free_module_clean {hmodule r : Option HMODULE} {tr : Trace}
    (h : (free_module hmodule).RunsIn windows () tr (.ok r) ()) :
    r = none ∧ Clean { hmodule } tr {} := by
  cases hmodule with
  | none =>
    obtain ⟨rfl, hr, -⟩ := h
    cases hr
    exact ⟨rfl, Clean.refl (by simp)⟩
  | some hmodule =>
    obtain ⟨ok, u, s, tr', -, rfl, rfl, hr, -⟩ := h
    cases hr
    refine ⟨rfl, ?_, ?_, ?_, by simp, by simp [Refused]⟩
    · simp [modules, moduleEntry, Ledger.Sound, Ledger.Entry.needs]
    · simp [modules, moduleEntry, Ledger.Entry.post]
    · simp [hooks, hookEntry, List.filterMap_cons]

theorem eject_dll_runsIn {v v' : Variables} {tr : Trace}
    (hv : v.hhook.isSome → v.hmodule.isSome)
    (h : (eject_dll v).RunsIn windows () tr (.ok v') ()) : Clean v tr v' ∧ v' = {} := by
  unfold eject_dll at h
  rcases Prog.RunsIn.of_bind h with ⟨x, -, -⟩ | ⟨hhook, tr₁, tr₂, u, hunhook, rfl, hrest⟩
  · exact x.elim
  rcases Prog.RunsIn.of_bind hrest with ⟨x, -, -⟩ | ⟨hmodule, tr₃, tr₄, u', hfree, rfl, hend⟩
  · exact x.elim
  obtain ⟨rfl, hunhooked⟩ := unhook_clean hv hunhook
  obtain ⟨rfl, hfreed⟩ := free_module_clean hfree
  obtain ⟨rfl, hr, -⟩ := hend
  cases hr
  rw [List.append_nil]
  exact ⟨hunhooked.trans hfreed, rfl⟩

/-! ## Sequences of calls -/

/-- The variables are what is held, and only what is held was used and released. -/
structure Exact (v : Variables) (tr : Trace) : Prop where
  modules_eq : heldModules tr = v.hmodule.toList
  hooks_eq : heldHooks tr = v.hhook.toList
  hook : v.hhook.isSome → v.hmodule.isSome
  sound : Ledger.Sound [] (modules tr)

theorem exact_start : Exact {} [] := ⟨rfl, rfl, by simp, trivial⟩

theorem Exact.balanced {v : Variables} {tr : Trace} (h : Exact v tr) : Balanced v tr := by
  refine ⟨?_, h.hook, h.sound⟩
  rw [h.modules_eq]
  cases v.hmodule <;> simp

theorem heldModules_append (tr tr' : Trace) :
    heldModules (tr ++ tr') = Ledger.held (heldModules tr) (modules tr') := by
  unfold heldModules
  rw [modules_append, Ledger.held_append]

/-- A clean call keeps the variables exact. -/
theorem Exact.clean {v v' : Variables} {tr tr' : Trace} (h : Exact v tr) (hc : Clean v tr' v') :
    Exact v' (tr ++ tr') := by
  constructor
  · rw [heldModules_append, h.modules_eq, hc.modules_eq]
  · unfold heldHooks
    rw [hooks_append, Ledger.held_append]
    exact (congrArg (Ledger.held · _) h.hooks_eq).trans hc.hooks_eq
  · exact hc.hook
  · rw [modules_append, Ledger.sound_append]
    refine ⟨h.sound, ?_⟩
    have hmodules : Ledger.held [] (modules tr) = v.hmodule.toList := h.modules_eq
    rw [hmodules]
    exact hc.sound

/-- A call that was refused something leaves them out of balance. -/
theorem Exact.dangling {v v' : Variables} {tr tr' : Trace} (h : Exact v tr)
    (hd : Dangling v tr' v') : ¬ Balanced v' (tr ++ tr') := by
  intro hb
  have hlength := hb.module.mp hd.hmodule
  rw [heldModules_append, h.modules_eq, hd.freed] at hlength
  simp at hlength

/-- Each call is clean or was refused something, and `eject_dll` is clean and sets both variables
to NULL. -/
theorem CallStep.cases {v v' : Variables} {rec : CallRecord} (h : CallStep v rec v')
    (hv : v.hhook.isSome → v.hmodule.isSome) :
    v' = rec.after ∧ (Clean v rec.trace v' ∨ Dangling v rec.trace v') ∧
      (rec.call = .eject_dll → v' = {}) := by
  obtain ⟨c, tr, after⟩ := rec
  obtain ⟨hrun, rfl⟩ := h
  cases c with
  | inject_dll t =>
    refine ⟨rfl, ?_, by simp⟩
    rcases Prog.RunsIn.of_bind hrun with ⟨x, -, -⟩ | ⟨⟨v'', b⟩, tr₁, tr₂, u, hinject, rfl, hend⟩
    · exact x.elim
    · obtain ⟨rfl, hr, -⟩ := hend
      cases hr
      rw [List.append_nil]
      exact inject_dll_runsIn hv hinject
  | eject_dll =>
    obtain ⟨hclean, rfl⟩ := eject_dll_runsIn hv hrun
    exact ⟨rfl, Or.inl hclean, fun _ => rfl⟩

theorem history_snoc (recs : List CallRecord) (rec : CallRecord) :
    history (recs ++ [rec]) = history recs ++ rec.trace := by
  simp [history]

/-- The induction: a run is in balance after each call just if nothing was refused, and then it
ends with exact variables. -/
theorem balanced_and_exact {recs : List CallRecord} {v : Variables}
    (run : Run CallStep {} recs v) :
    (Along BalancedAfter recs ↔ ∀ rec ∈ recs, ∀ o ∈ rec.trace, ¬ Refused o) ∧
      ((∀ rec ∈ recs, ∀ o ∈ rec.trace, ¬ Refused o) → Exact v (history recs)) := by
  induction recs using List.reverseRecOn generalizing v with
  | nil =>
    cases run
    exact ⟨iff_of_true (along_nil _) (by simp), fun _ => exact_start⟩
  | append_singleton recs rec ih =>
    obtain ⟨v₁, hrun, hlast⟩ := Run.snoc_inv run
    obtain ⟨hiff, hexact⟩ := ih hrun
    -- Only a run in balance gets to the last call with exact variables.
    by_cases hpre : ∀ rec ∈ recs, ∀ o ∈ rec.trace, ¬ Refused o
    · have hbefore := hexact hpre
      obtain ⟨rfl, hcourse, heject⟩ := hlast.cases hbefore.hook
      rw [along_snoc, hiff]
      rcases hcourse with hclean | hdangling
      · have hafter := hbefore.clean hclean
        have hnone : ∀ r ∈ recs ++ [rec], ∀ o ∈ r.trace, ¬ Refused o := by
          simpa [or_imp, forall_and] using ⟨hpre, hclean.granted⟩
        rw [← history_snoc] at hafter
        refine ⟨iff_of_true ⟨hpre, hafter.balanced, fun hc => ?_⟩ hnone, fun _ => hafter⟩
        rw [hafter.modules_eq, hafter.hooks_eq, heject hc]
        exact ⟨rfl, rfl⟩
      · obtain ⟨o, ho, hrefused⟩ := hdangling.refused
        have hsome : ¬ ∀ r ∈ recs ++ [rec], ∀ o ∈ r.trace, ¬ Refused o :=
          fun hall => hall rec (by simp) o ho hrefused
        refine ⟨iff_of_false ?_ hsome, fun hall => absurd hall hsome⟩
        rintro ⟨-, hb, -⟩
        rw [history_snoc] at hb
        exact hbefore.dangling hdangling hb
    · have hsome : ¬ ∀ r ∈ recs ++ [rec], ∀ o ∈ r.trace, ¬ Refused o :=
        fun hall => hpre fun r hr => hall r (by simp [hr])
      rw [along_snoc, hiff]
      exact ⟨iff_of_false (fun h => hpre h.1) hsome, fun hall => absurd hall hsome⟩

/-- The variables and the reference to the library are in balance after each call of a run just if
no `GetProcAddress` and no `SetWindowsHookEx` of the run answers NULL. -/
theorem injection_is_balanced_just_if_nothing_is_refused {recs : List CallRecord} {v : Variables}
    (run : Run CallStep {} recs v) :
    Along BalancedAfter recs ↔ ∀ rec ∈ recs, ∀ o ∈ rec.trace, ¬ Refused o :=
  (balanced_and_exact run).1

/-! ### A hook that is not installed -/

/-- The library is loaded, its entry point found, and the hook installed or not. -/
def injected (hhk : Option HHOOK) : Trace :=
  [⟨.LoadLibraryW apifwrd_dll, some 1, ()⟩, ⟨.GetProcAddress 1 helperHookProc, some 2, ()⟩,
    ⟨.SetWindowsHookEx WH_CBT 2 1 7, hhk, ()⟩]

def goodInject : CallRecord where
  call := .inject_dll 7
  trace := injected (some 3)
  after := { hmodule := some 1, hhook := some 3 }

def goodEject : CallRecord where
  call := .eject_dll
  trace := [⟨.UnhookWindowsHookEx 3, 1, ()⟩, ⟨.FreeLibrary 1, 1, ()⟩]
  after := {}

/-- The hook is refused, and the library freed. -/
def refusedInject : CallRecord where
  call := .inject_dll 7
  trace := injected none ++ [⟨.FreeLibrary 1, 1, ()⟩]
  after := { hmodule := some 1 }

/-- `eject_dll` frees the library again. -/
def secondFree : CallRecord where
  call := .eject_dll
  trace := [⟨.FreeLibrary 1, 0, ()⟩]
  after := {}

theorem windows_answers (op : Op) (a : op.Answer) : windows () op a () () := trivial

theorem good_run : Run CallStep {} [goodInject, goodEject] {} := by
  have hinject : CallStep {} goodInject { hmodule := some 1, hhook := some 3 } := by
    refine ⟨?_, rfl⟩
    exact .next (windows_answers _ _) (.next (windows_answers _ _)
      (.next (windows_answers _ _) (.ended _ _)))
  have heject : CallStep { hmodule := some 1, hhook := some 3 } goodEject {} := by
    refine ⟨?_, rfl⟩
    exact .next (windows_answers _ _) (.next (windows_answers _ _) (.ended _ _))
  exact .cons hinject (.cons heject (.nil _))

theorem an_installed_hook_is_balanced : Along BalancedAfter [goodInject, goodEject] := by
  refine (injection_is_balanced_just_if_nothing_is_refused good_run).mpr fun rec hrec o ho => ?_
  rcases List.mem_cons.mp hrec with rfl | hrec
  · simp only [goodInject, injected, List.mem_cons, List.not_mem_nil, or_false] at ho
    rcases ho with rfl | rfl | rfl <;> simp [Refused]
  · obtain rfl := List.mem_singleton.mp hrec
    simp only [goodEject, List.mem_cons, List.not_mem_nil, or_false] at ho
    rcases ho with rfl | rfl <;> simp [Refused]

theorem refused_run : Run CallStep {} [refusedInject, secondFree] {} := by
  have hinject : CallStep {} refusedInject { hmodule := some 1 } := by
    refine ⟨?_, rfl⟩
    exact .next (windows_answers _ _) (.next (windows_answers _ _)
      (.next (windows_answers _ _) (.next (windows_answers _ _) (.ended _ _))))
  have heject : CallStep { hmodule := some 1 } secondFree {} := by
    refine ⟨?_, rfl⟩
    exact .next (windows_answers _ _) (.ended _ _)
  exact .cons hinject (.cons heject (.nil _))

/-- After a hook that is refused, the library is freed twice. -/
theorem a_refused_hook_frees_twice :
    ¬ ∀ (recs : List CallRecord) (v : Variables), Run CallStep {} recs v →
      Along BalancedAfter recs := by
  intro h
  have hb := h _ _ refused_run [refusedInject] secondFree [] rfl
  have hfree := hb.1.sound
  simp [history, refusedInject, secondFree, injected, modules, moduleEntry,
    Ledger.Sound, Ledger.Entry.needs, Ledger.Entry.post] at hfree

end sample

end RemotePrinter
