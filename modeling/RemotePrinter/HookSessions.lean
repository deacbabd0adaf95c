-- The hooks of the host process over the calls of `start_hook` and `stop_hook`,
-- for any table, and the host that `start_hook` leaves with the table of the
-- library. MinHook keeps a hook from `MH_CreateHookApi` until `MH_Uninitialize`,
-- and `*pOriginal` holds its trampoline, by which the detour gets back to the
-- function.
import RemotePrinter.Courses
import RemotePrinter.HookTable
import RemotePrinter.PartialRuns

open Interactive

namespace RemotePrinter

namespace minhooklink

/-! ## The programs -/

abbrev LPVOID := Nat

/-- An entry of a table, which an entry without a `procName` ends. `pOriginal` points to the
variable that the detour calls the function by. -/
structure HOOK_ITEM where
  moduleName : List UInt16
  procName : Bytes
  pDetour : LPVOID
  pOriginal : LPVOID
  deriving DecidableEq

/-- The calls that the programs make, and their own steps on `_bxprinters` and on
`_preloaded_dll_list`. -/
inductive HookOp where
  | _bxprinters_get
  | _bxprinters_new
  | LoadLibraryA (dll_path : Bytes)
  | push_back (dll_path : Bytes) (hmod : HMODULE)
  | MH_Initialize
  | MH_CreateHookApi (item : HOOK_ITEM)
  | GetModuleHandleW (moduleName : List UInt16)
  | GetProcAddress (hModule : HMODULE) (procName : Bytes)
  | MH_EnableHook (pTarget : LPVOID)
  | MH_DisableHook (pTarget : LPVOID)
  | _preloaded_dll_list
  | FreeLibrary (hmod : HMODULE)
  | hmod_NULL (it : Nat)
  | MH_Uninitialize

open HookOp

/-- A handle, an address or NULL, or whether the call answered `MH_OK`. The list answers the
`hmod` of its entries. -/
@[reducible] def HookOp.Answer : HookOp → Type
  | _bxprinters_get => Bool
  | _bxprinters_new => Unit
  | LoadLibraryA _ => Option HMODULE
  | push_back .. => Unit
  | MH_Initialize => Bool
  | MH_CreateHookApi _ => Bool
  | GetModuleHandleW _ => Option HMODULE
  | GetProcAddress .. => Option LPVOID
  | MH_EnableHook _ => Bool
  | MH_DisableHook _ => Bool
  | _preloaded_dll_list => List (Option HMODULE)
  | FreeLibrary _ => Bool
  | hmod_NULL _ => Unit
  | MH_Uninitialize => Bool

abbrev Hooking (α : Type) := Prog HookOp HookOp.Answer Empty α

/-- The loop over `_preloaded_dlls`. -/
def load_dlls : List Bytes → Hooking Unit
  | [] => return ()
  | dll :: rest => do
    match ← Prog.perform (HookOp.LoadLibraryA dll) with
    | some hMod =>
      Prog.perform (HookOp.push_back dll hMod)
      load_dlls rest
    | none => load_dlls rest

/-- The two calls by which both loops over the table look up the target of an entry. -/
def get_target (item : HOOK_ITEM) : Hooking (Option LPVOID) := do
  match ← Prog.perform (HookOp.GetModuleHandleW item.moduleName) with
  | none => return none
  | some hModule => Prog.perform (HookOp.GetProcAddress hModule item.procName)

/-- One turn of the loop of `start_hook`: whether it gets to its end. -/
def hook_item (item : HOOK_ITEM) : Hooking Bool := do
  if !(← Prog.perform (HookOp.MH_CreateHookApi item)) then return false
  match ← get_target item with
  | none => return false
  | some pTarget => Prog.perform (HookOp.MH_EnableHook pTarget)

/-- The loop over the table, with the variable `result`. -/
def hook_loop (result : Bool) : List HOOK_ITEM → Hooking Bool
  | [] => return result
  | item :: rest => do
    if ← hook_item item then hook_loop result rest else hook_loop false rest

def start_hook (dlls : List Bytes) (items : List HOOK_ITEM) : Hooking Bool := do
  load_dlls dlls
  if !(← Prog.perform HookOp.MH_Initialize) then return false
  hook_loop true items

/-- One turn of the loop of `stop_hook`. -/
def unhook_item (item : HOOK_ITEM) : Hooking Unit := do
  match ← get_target item with
  | none => return ()
  | some pTarget =>
    -- A hook that is not disabled gets a line on the console, and the loop goes on.
    let _ ← Prog.perform (HookOp.MH_DisableHook pTarget)
    return ()

def unhook_loop : List HOOK_ITEM → Hooking Unit
  | [] => return ()
  | item :: rest => do
    unhook_item item
    unhook_loop rest

/-- The loop over `_preloaded_dll_list`, from the iterator `it` on. -/
def free_dlls (it : Nat) : List (Option HMODULE) → Hooking Unit
  | [] => return ()
  | none :: rest => free_dlls (it + 1) rest
  | some hmod :: rest => do
    let _ ← Prog.perform (HookOp.FreeLibrary hmod)
    Prog.perform (HookOp.hmod_NULL it)
    free_dlls (it + 1) rest

def stop_hook (items : List HOOK_ITEM) : Hooking Unit := do
  unhook_loop items
  let hmods ← Prog.perform HookOp._preloaded_dll_list
  free_dlls 0 hmods
  let _ ← Prog.perform MH_Uninitialize
  return ()

/-- What `DllMain` calls, after `initBixolon`. It does not look at the answer of `start_hook`. -/
inductive Call where
  | start_hook
  | stop_hook
  deriving DecidableEq

def Call.program (dlls : List Bytes) (items : List HOOK_ITEM) : Call → Hooking Unit
  | start_hook => do
    let _ ← minhooklink.start_hook dlls items
    return ()
  | stop_hook => minhooklink.stop_hook items

/-- The calls one after the other. -/
def calls (dlls : List Bytes) (items : List HOOK_ITEM) : List Call → Hooking Unit
  | [] => return ()
  | c :: rest => do
    c.program dlls items
    calls dlls items rest

/-! ## MinHook -/

/-- A hook that MinHook keeps. While `isEnabled`, a call of `pTarget` gets to the detour. -/
structure Hook where
  item : HOOK_ITEM
  pTarget : LPVOID
  pTrampoline : LPVOID
  isEnabled : Bool := false

/-- Where the detour looks for its way back, and the way back that MinHook made. -/
def Hook.way (h : Hook) : LPVOID × LPVOID := (h.item.pOriginal, h.pTrampoline)

/-- The same hook, which may have been disabled. -/
def Hook.DisabledOrNot (h h' : Hook) : Prop := h' = h ∨ h' = { h with isEnabled := false }

/-- The process: whether `_bxprinters` is allocated, the MinHook session with its hooks in the
order of their creation, what `*pOriginal` holds, and the list of the loaded libraries. -/
structure State where
  _bxprinters : Bool := false
  initialized : Bool := false
  hooks : List Hook := []
  original : LPVOID → Option LPVOID := fun _ => none
  _preloaded_dll_list : List (Bytes × Option HMODULE) := []

/-- A new hook, with its trampoline stored in `*pOriginal`. -/
def State.create (s : State) (h : Hook) : State :=
  { s with
    hooks := s.hooks ++ [h]
    original := fun p => if p = h.item.pOriginal then some h.pTrampoline else s.original p }

/-- A hook of the target is switched from disabled to enabled, or back. -/
def State.Switched (s : State) (pTarget : LPVOID) (enable : Bool) (s' : State) : Prop :=
  ∃ pre h post, s.hooks = pre ++ h :: post ∧ h.pTarget = pTarget ∧ h.isEnabled = !enable ∧
    s' = { s with hooks := pre ++ { h with isEnabled := enable } :: post }

/-- The entry at the iterator, its `hmod` set to NULL. -/
def State.hmod_NULL (s : State) (it : Nat) : State :=
  { s with
    _preloaded_dll_list := s._preloaded_dll_list.modify it fun info => (info.1, none) }

/-- What the calls can answer and leave. A call that fails leaves all as it was, but
`MH_Uninitialize` can fail after it has disabled some hooks. -/
def env : Env HookOp HookOp.Answer Unit State := fun s op a _ s' =>
  match op, a with
  | ._bxprinters_get, b => b = s._bxprinters ∧ s' = s
  | ._bxprinters_new, _ => s' = { s with _bxprinters := true }
  | .push_back dll hmod, _ =>
    s' = { s with _preloaded_dll_list := s._preloaded_dll_list ++ [(dll, some hmod)] }
  | .MH_Initialize, true => s.initialized = false ∧ s' = { s with initialized := true }
  | .MH_CreateHookApi item, true =>
    s.initialized = true ∧ ∃ h : Hook, h.item = item ∧ h.isEnabled = false ∧
      (∀ g ∈ s.hooks, g.pTarget ≠ h.pTarget) ∧ s' = s.create h
  | .MH_EnableHook pTarget, true => s.Switched pTarget true s'
  | .MH_DisableHook pTarget, true => s.Switched pTarget false s'
  | ._preloaded_dll_list, hmods => hmods = s._preloaded_dll_list.map Prod.snd ∧ s' = s
  | .hmod_NULL it, _ => s' = s.hmod_NULL it
  | MH_Uninitialize, true =>
    s.initialized = true ∧ s' = { s with initialized := false, hooks := [] }
  | MH_Uninitialize, false =>
    ∃ hooks', List.Forall₂ Hook.DisabledOrNot s.hooks hooks' ∧ s' = { s with hooks := hooks' }
  | _, _ => s' = s

/-! ## What the operations keep -/

/-- The ways of the hooks. To enable or to disable a hook leaves them. -/
def State.ways (s : State) : List (LPVOID × LPVOID) := s.hooks.map Hook.way

/-- `_bxprinters` is allocated, there are hooks in a session only, and `*pOriginal` of a hook is
the trampoline of a hook of the session. -/
structure State.Sound (s : State) : Prop where
  bxprinters : s._bxprinters = true
  no_session : s.initialized = false → s.ways = []
  way_back : ∀ w ∈ s.ways, ∃ w' ∈ s.ways, w'.1 = w.1 ∧ s.original w.1 = some w'.2

/-- The state differs in the list of libraries and in which hooks are enabled only. -/
structure State.SameWays (s s' : State) : Prop where
  bxprinters : s._bxprinters = true → s'._bxprinters = true
  initialized : s'.initialized = s.initialized
  ways : s'.ways = s.ways
  original : s'.original = s.original

theorem State.SameWays.refl (s : State) : s.SameWays s := ⟨id, rfl, rfl, rfl⟩

theorem State.create_ways (s : State) (h : Hook) : (s.create h).ways = s.ways ++ [h.way] := by
  simp [ways, create]

section
variable {s s' : State}

theorem State.Switched.sameWays {pTarget : LPVOID} {enable : Bool}
    (h : s.Switched pTarget enable s') : s.SameWays s' := by
  obtain ⟨pre, g, post, hhooks, -, -, rfl⟩ := h
  refine ⟨id, rfl, ?_, rfl⟩
  simp [State.ways, hhooks, Hook.way]

theorem State.Switched.list_eq {pTarget : LPVOID} {enable : Bool}
    (h : s.Switched pTarget enable s') : s'._preloaded_dll_list = s._preloaded_dll_list := by
  obtain ⟨pre, g, post, -, -, -, rfl⟩ := h
  rfl

theorem ways_of_disabled {hooks hooks' : List Hook}
    (h : List.Forall₂ Hook.DisabledOrNot hooks hooks') :
    hooks'.map Hook.way = hooks.map Hook.way := by
  induction h with
  | nil => rfl
  | cons hd _ ih =>
    rw [List.map_cons, List.map_cons, ih]
    rcases hd with rfl | rfl
    · rfl
    · rfl

/-- The operations that have nothing to do with the loaded libraries. -/
def HookOp.Quiet : HookOp → Prop
  | LoadLibraryA _ | push_back .. | FreeLibrary _ | hmod_NULL _ => False
  | _ => True

/-- All that an operation can do to the session: it keeps the ways, begins a session, ends one, or
creates a hook in it. The list of libraries is the matter of other operations. -/
theorem env_cases {op : HookOp} {a : op.Answer} {l : Unit} (h : env s op a l s') :
    (op.Quiet → s'._preloaded_dll_list = s._preloaded_dll_list) ∧
    (s.SameWays s' ∨
      (s.initialized = false ∧ s' = { s with initialized := true }) ∨
      s' = { s with initialized := false, hooks := [] } ∨
      s.initialized = true ∧ ∃ g, s' = s.create g) := by
  cases op with
  | _bxprinters_get =>
    obtain ⟨-, rfl⟩ := h
    exact ⟨fun _ => rfl, Or.inl (.refl s')⟩
  | _bxprinters_new =>
    obtain rfl : s' = _ := h
    exact ⟨fun _ => rfl, Or.inl ⟨fun _ => rfl, rfl, rfl, rfl⟩⟩
  | MH_Initialize =>
    cases a with
    | false =>
      obtain rfl : s' = s := h
      exact ⟨fun _ => rfl, Or.inl (.refl s')⟩
    | true =>
      obtain ⟨hs, rfl⟩ := h
      exact ⟨fun _ => rfl, Or.inr (Or.inl ⟨hs, rfl⟩)⟩
  | MH_CreateHookApi item =>
    cases a with
    | false =>
      obtain rfl : s' = s := h
      exact ⟨fun _ => rfl, Or.inl (.refl s')⟩
    | true =>
      obtain ⟨hs, g, -, -, -, rfl⟩ := h
      exact ⟨fun _ => rfl, Or.inr (Or.inr (Or.inr ⟨hs, g, rfl⟩))⟩
  | MH_EnableHook pTarget | MH_DisableHook pTarget =>
    cases a with
    | false =>
      obtain rfl : s' = s := h
      exact ⟨fun _ => rfl, Or.inl (.refl s')⟩
    | true => exact ⟨fun _ => State.Switched.list_eq h, Or.inl (State.Switched.sameWays h)⟩
  | _preloaded_dll_list =>
    obtain ⟨-, rfl⟩ := h
    exact ⟨fun _ => rfl, Or.inl (.refl s')⟩
  | MH_Uninitialize =>
    cases a with
    | false =>
      obtain ⟨hooks', hdis, rfl⟩ := h
      exact ⟨fun _ => rfl, Or.inl ⟨id, rfl, ways_of_disabled hdis, rfl⟩⟩
    | true =>
      obtain ⟨-, rfl⟩ := h
      exact ⟨fun _ => rfl, Or.inr (Or.inr (Or.inl rfl))⟩
  | push_back dll hmod =>
    obtain rfl : s' = _ := h
    exact ⟨False.elim, Or.inl ⟨id, rfl, rfl, rfl⟩⟩
  | hmod_NULL it =>
    obtain rfl : s' = _ := h
    exact ⟨False.elim, Or.inl ⟨id, rfl, rfl, rfl⟩⟩
  | _ =>
    obtain rfl : s' = s := h
    exact ⟨fun _ => rfl, Or.inl (.refl s')⟩

theorem State.Sound.step {op : HookOp} {a : op.Answer} {l : Unit} (h : env s op a l s')
    (hs : s.Sound) : s'.Sound := by
  rcases (env_cases h).2 with hsame | ⟨-, rfl⟩ | rfl | ⟨hi, g, rfl⟩
  · constructor
    · exact hsame.bxprinters hs.bxprinters
    · rw [hsame.initialized, hsame.ways]
      exact hs.no_session
    · rw [hsame.ways, hsame.original]
      exact hs.way_back
  · exact ⟨hs.bxprinters, fun hfalse => by simp at hfalse, hs.way_back⟩
  · exact ⟨hs.bxprinters, fun _ => rfl, fun w hw => by simp [State.ways] at hw⟩
  · refine ⟨hs.bxprinters, fun hfalse => ?_, fun w hw => ?_⟩
    · rw [show (s.create g).initialized = s.initialized from rfl, hi] at hfalse
      cases hfalse
    · -- The variable of the new hook holds its trampoline, also where an older hook shares it.
      rw [State.create_ways] at hw ⊢
      by_cases hg : w.1 = g.item.pOriginal
      · refine ⟨g.way, by simp, hg.symm, ?_⟩
        simp [State.create, hg, Hook.way]
      · have hold : w ∈ s.ways := by
          rcases List.mem_append.mp hw with hw | hw
          · exact hw
          · obtain rfl := List.mem_singleton.mp hw
            exact absurd rfl hg
        obtain ⟨w', hw', hfst, horig⟩ := hs.way_back w hold
        refine ⟨w', List.mem_append_left _ hw', hfst, ?_⟩
        simpa [State.create, hg] using horig

/-- So it holds at every moment of the calls that follow `initBixolon`. -/
theorem Sound_of_runsTo {α : Type} {p : Hooking α} {tr : List (Obs HookOp HookOp.Answer Unit)}
    (h : p.RunsTo env s tr s') (hs : s.Sound) : s'.Sound :=
  h.invariant (fun _ _ _ _ _ henv hI => hI.step henv) hs

end

/-! ## What `start_hook` enables -/

section
variable {s s' : State} {tr : List (Obs HookOp HookOp.Answer Unit)}

/-- To look up a target changes nothing. -/
theorem get_target_runsIn {item : HOOK_ITEM} {r : Except Empty (Option LPVOID)}
    (h : (get_target item).RunsIn env s tr r s') : s' = s := by
  obtain ⟨hModule, l, s₁, tr₁, hmodule, -, h⟩ := h
  obtain rfl : s₁ = s := hmodule
  cases hModule with
  | none => exact h.2.2
  | some hModule =>
    obtain ⟨pTarget, l₂, s₂, tr₂, hproc, -, -, -, rfl⟩ := h
    exact hproc

/-- A turn creates no hook, or creates a disabled one, or does so and then enables a hook. It
answers TRUE in the last case only. -/
theorem hook_item_runsIn {item : HOOK_ITEM} {r : Except Empty Bool}
    (h : (hook_item item).RunsIn env s tr r s') :
    ∃ b, r = .ok b ∧
      (b = false ∧ s'.hooks = s.hooks ∨
        ∃ g : Hook, g.item = item ∧ g.isEnabled = false ∧
          (b = false ∧ s'.hooks = s.hooks ++ [g] ∨
            b = true ∧ ∃ pre x post, s.hooks ++ [g] = pre ++ x :: post ∧ x.isEnabled = false ∧
              s'.hooks = pre ++ { x with isEnabled := true } :: post)) := by
  unfold hook_item at h
  obtain ⟨created, l, s₁, tr₁, henv, -, h⟩ := h
  cases created with
  | false =>
    obtain ⟨-, rfl, rfl⟩ := h
    obtain rfl : s' = s := henv
    exact ⟨false, rfl, Or.inl ⟨rfl, rfl⟩⟩
  | true =>
    obtain ⟨-, g, hitem, hdis, -, rfl⟩ := henv
    change Prog.RunsIn env (get_target item >>= _) (s.create g) _ _ _ at h
    rcases Prog.RunsIn.of_bind h with ⟨x, -, -⟩ | ⟨pTarget, tr₂, tr₃, s₂, htarget, -, h⟩
    · exact x.elim
    · obtain rfl : s₂ = s.create g := get_target_runsIn htarget
      cases pTarget with
      | none =>
        obtain ⟨-, rfl, rfl⟩ := h
        exact ⟨false, rfl, Or.inr ⟨g, hitem, hdis, Or.inl ⟨rfl, rfl⟩⟩⟩
      | some pTarget =>
        obtain ⟨b, l₄, s₄, tr₄, henable, -, -, rfl, rfl⟩ := h
        cases b with
        | false =>
          obtain rfl : s' = s.create g := henable
          exact ⟨false, rfl, Or.inr ⟨g, hitem, hdis, Or.inl ⟨rfl, rfl⟩⟩⟩
        | true =>
          obtain ⟨pre, x, post, hhooks, -, hx, rfl⟩ := henable
          exact ⟨true, rfl,
            Or.inr ⟨g, hitem, hdis, Or.inr ⟨rfl, pre, x, post, hhooks, by simpa using hx, rfl⟩⟩⟩

/-- The number of the enabled hooks. -/
def State.enabled (s : State) : Nat := s.hooks.countP Hook.isEnabled

/-- Where all hooks were enabled, a turn that answers TRUE has created and enabled one. -/
theorem hook_item_true {item : HOOK_ITEM} (h : (hook_item item).RunsIn env s tr (.ok true) s')
    (hall : ∀ g ∈ s.hooks, g.isEnabled = true) :
    ∃ g : Hook, g.item = item ∧ g.isEnabled = true ∧ s'.hooks = s.hooks ++ [g] := by
  obtain ⟨b', hb, hturn⟩ := hook_item_runsIn h
  cases hb
  rcases hturn with ⟨hfalse, -⟩ | ⟨g, hitem, -, ⟨hfalse, -⟩ | ⟨-, pre, x, post, hsplit, hx, hh⟩⟩
  · cases hfalse
  · cases hfalse
  · rcases List.eq_nil_or_concat post with rfl | ⟨post', y, rfl⟩
    · obtain ⟨rfl, hgx⟩ := List.append_inj' hsplit rfl
      obtain rfl : g = x := List.singleton_injective hgx
      exact ⟨{ g with isEnabled := true }, hitem, rfl, hh⟩
    · -- The enabled hook is an older one, and those were enabled before.
      have hlast : s.hooks ++ [g] = (pre ++ x :: post') ++ [y] := by simp [hsplit]
      have hmem : x ∈ s.hooks := by
        rw [(List.append_inj' hlast rfl).1]
        simp
      rw [hall x hmem] at hx
      cases hx

/-- The loop that answers TRUE has created and enabled a hook for each entry in turn. -/
theorem hook_loop_true {items : List HOOK_ITEM} {result : Bool}
    (h : (hook_loop result items).RunsIn env s tr (.ok true) s') :
    result = true ∧ ((∀ g ∈ s.hooks, g.isEnabled = true) → ∃ new, s'.hooks = s.hooks ++ new ∧
      List.Forall₂ (fun item g => g.item = item ∧ g.isEnabled = true) items new) := by
  induction items generalizing s tr result with
  | nil =>
    obtain ⟨-, hr, rfl⟩ := h
    cases hr
    exact ⟨rfl, fun _ => ⟨[], by simp, .nil⟩⟩
  | cons item rest ih =>
    rcases Prog.RunsIn.of_bind h with ⟨x, -, -⟩ | ⟨b, tr₁, tr₂, s₁, hitem, -, hrest⟩
    · exact x.elim
    · cases b with
      | false =>
        obtain ⟨hfalse, -⟩ := ih hrest
        cases hfalse
      | true =>
        obtain ⟨hresult, hnew⟩ := ih hrest
        refine ⟨hresult, fun hall => ?_⟩
        obtain ⟨g, hg, hen, hhooks⟩ := hook_item_true hitem hall
        obtain ⟨new, hnew', hrel⟩ := hnew fun x hx => by
          rw [hhooks] at hx
          rcases List.mem_append.mp hx with hx | hx
          · exact hall x hx
          · rw [List.mem_singleton.mp hx]
            exact hen
        refine ⟨g :: new, ?_, .cons ⟨hg, hen⟩ hrel⟩
        rw [hnew', hhooks, List.append_assoc, List.singleton_append]

/-- `MH_Initialize` is not among the calls of the loop over `_preloaded_dlls`. -/
theorem load_dlls_ops {dlls : List Bytes} {r : Except Empty Unit}
    (h : (load_dlls dlls).RunsIn env s tr r s') : ∀ o ∈ tr, o.op ≠ .MH_Initialize := by
  induction dlls generalizing s tr with
  | nil =>
    obtain ⟨rfl, -, -⟩ := h
    simp
  | cons dll rest ih =>
    obtain ⟨a, l, s₁, tr', -, rfl, hrest⟩ := h
    cases a with
    | none => simpa using ih hrest
    | some hMod =>
      obtain ⟨u, l', s₂, tr'', -, rfl, hrest'⟩ := hrest
      simpa using ih hrest'

/-- Each entry of the table has its hook in turn, and it is enabled. -/
def State.EnabledAll (s : State) (items : List HOOK_ITEM) : Prop :=
  List.Forall₂ (fun item g => g.item = item ∧ g.isEnabled = true) items s.hooks

theorem State.EnabledAll.mem_iff {items : List HOOK_ITEM} (h : s.EnabledAll items)
    (item : HOOK_ITEM) : (∃ g ∈ s.hooks, g.item = item ∧ g.isEnabled = true) ↔ item ∈ items := by
  unfold EnabledAll at h
  generalize s.hooks = hooks at h ⊢
  induction h with
  | nil => simp
  | @cons first g items hooks hd _ ih =>
    obtain ⟨rfl, hen⟩ := hd
    rw [List.mem_cons, ← ih]
    constructor
    · rintro ⟨x, hx, rfl, hxen⟩
      rcases List.mem_cons.mp hx with rfl | hx
      · exact Or.inl rfl
      · exact Or.inr ⟨x, hx, rfl, hxen⟩
    · rintro (rfl | ⟨x, hx, hitem, hxen⟩)
      · exact ⟨g, List.mem_cons_self, rfl, hen⟩
      · exact ⟨x, List.mem_cons_of_mem g hx, hitem, hxen⟩

/-- `start_hook` ends with an `MH_Initialize` that fails, or makes its loop in a new session. -/
theorem start_hook_cases {dlls : List Bytes} {items : List HOOK_ITEM} {b : Bool} (hs : s.Sound)
    (h : (start_hook dlls items).RunsIn env s tr (.ok b) s') :
    b = false ∧ ⟨.MH_Initialize, true, ()⟩ ∉ tr ∨
      ∃ s₁ tr₁, s₁.hooks = [] ∧ (hook_loop true items).RunsIn env s₁ tr₁ (.ok b) s' := by
  rcases Prog.RunsIn.of_bind h with ⟨x, -, -⟩ | ⟨u, tr₁, tr₂, s₁, hload, rfl, hrest⟩
  · exact x.elim
  · obtain ⟨ok, l, s₂, tr', henv, rfl, hloop⟩ := hrest
    cases ok with
    | false =>
      obtain ⟨rfl, hb, -⟩ := hloop
      cases hb
      refine Or.inl ⟨rfl, fun hinit => ?_⟩
      rcases List.mem_append.mp hinit with hin | hin
      · exact absurd rfl (load_dlls_ops hload _ hin)
      · simp at hin
    | true =>
      obtain ⟨hnot, rfl⟩ := henv
      have hnone : s₁.hooks = [] :=
        List.map_eq_nil_iff.mp ((Sound_of_runsTo hload.runsTo hs).no_session hnot)
      exact Or.inr ⟨{ s₁ with initialized := true }, tr', hnone, hloop⟩

/-- A `start_hook` that answers TRUE has enabled each entry. -/
theorem start_hook_true {dlls : List Bytes} {items : List HOOK_ITEM} (hs : s.Sound)
    (h : (start_hook dlls items).RunsIn env s tr (.ok true) s') : s'.EnabledAll items := by
  rcases start_hook_cases hs h with ⟨hfalse, -⟩ | ⟨s₁, tr₁, hnone, hloop⟩
  · cases hfalse
  · obtain ⟨new, hnew, hrel⟩ := (hook_loop_true hloop).2 (by simp [hnone])
    rw [hnone, List.nil_append] at hnew
    unfold State.EnabledAll
    rw [hnew]
    exact hrel

end

end minhooklink

/-! ## The way back -/

namespace minhooklink

def closeItem : HOOK_ITEM where
  moduleName := [87, 73, 78, 83, 80, 79, 79, 76, 46, 68, 82, 86]
  procName := ascii ['C', 'l', 'o', 's', 'e', 'P', 'r', 'i', 'n', 't', 'e', 'r']
  pDetour := 4096
  pOriginal := 8192

def closeHook : Hook where
  item := closeItem
  pTarget := 12288
  pTrampoline := 16384

/-- The process after `initBixolon`, and after a `start_hook` that has succeeded. -/
def initiated : State := { _bxprinters := true }

theorem initiated_sound : initiated.Sound :=
  ⟨rfl, fun _ => rfl, fun w hw => by simp [State.ways, initiated] at hw⟩

def hooked : State :=
  { ({ initiated with initialized := true } : State).create closeHook with
    hooks := [{ closeHook with isEnabled := true }] }

theorem load_dlls_none (dlls : List Bytes) (s : State) :
    ∃ tr, (load_dlls dlls).RunsIn env s tr (.ok ()) s := by
  induction dlls with
  | nil => exact ⟨[], .ended () s⟩
  | cons dll rest ih =>
    obtain ⟨tr, htr⟩ := ih
    have hload : env s (.LoadLibraryA dll) none () s := rfl
    exact ⟨_, .next hload htr⟩

/-- A turn can succeed with a target that has no hook yet. -/
theorem hook_item_succeeds (item : HOOK_ITEM) {s : State} {n : LPVOID} (hs : s.initialized = true)
    (hn : ∀ g ∈ s.hooks, g.pTarget < n) :
    ∃ tr s', (hook_item item).RunsIn env s tr (.ok true) s' ∧ s'.initialized = true ∧
      ∀ g ∈ s'.hooks, g.pTarget < n + 1 := by
  let h : Hook := { item, pTarget := n, pTrampoline := n }
  have hcreate : env s (.MH_CreateHookApi item) true () (s.create h) :=
    ⟨hs, h, rfl, rfl, fun g hg => (hn g hg).ne, rfl⟩
  have hmodule : env (s.create h) (.GetModuleHandleW item.moduleName) (some 1) () (s.create h) :=
    rfl
  have hproc : env (s.create h) (.GetProcAddress 1 item.procName) (some n) () (s.create h) := rfl
  have henable : env (s.create h) (.MH_EnableHook n) true ()
      { s.create h with hooks := s.hooks ++ [{ h with isEnabled := true }] } :=
    ⟨s.hooks, h, [], rfl, rfl, rfl, rfl⟩
  refine ⟨_, _, .next hcreate (.next hmodule (.next hproc (.next henable (.ended true _)))), hs, ?_⟩
  intro g hg
  rcases List.mem_append.mp hg with hg | hg
  · exact (hn g hg).trans (Nat.lt_succ_self n)
  · rw [List.mem_singleton.mp hg]
    exact Nat.lt_succ_self n

theorem hook_loop_succeeds (items : List HOOK_ITEM) {s : State} {n : LPVOID}
    (hs : s.initialized = true) (hn : ∀ g ∈ s.hooks, g.pTarget < n) :
    ∃ tr s', (hook_loop true items).RunsIn env s tr (.ok true) s' := by
  induction items generalizing s n with
  | nil => exact ⟨[], s, .ended true s⟩
  | cons item rest ih =>
    obtain ⟨tr, s₁, hitem, hs₁, hn₁⟩ := hook_item_succeeds item hs hn
    obtain ⟨tr', s', hrest⟩ := ih hs₁ hn₁
    exact ⟨tr ++ tr', s', hitem.bind hrest⟩

end minhooklink

/-! ## The hooked host -/

open minhooklink

/-- The addresses of `Detour...` and of `fp...`. -/
structure Addresses where
  Detour : Proc → LPVOID
  fp : Proc → LPVOID

/-- What the macro makes of an entry. -/
def HOOK_ITEM_FUNC.item (addr : Addresses) (e : HOOK_ITEM_FUNC) : HOOK_ITEM where
  moduleName := e.moduleName.name.map UInt8.toUInt16
  procName := e.procName.name
  pDetour := addr.Detour e.procName
  pOriginal := addr.fp e.procName

/-- The hooks that the `start_hook` of the library leaves when it answers TRUE. -/
def HooksStarted (addr : Addresses) (s : State) : Prop :=
  ∃ tr, (start_hook _preloaded_dlls (_hook_items.map (HOOK_ITEM_FUNC.item addr))).RunsIn env
    initiated tr (.ok true) s

/-- The item of a spooler function, were it in the table. -/
def spoolItem (addr : Addresses) (p : Proc) : HOOK_ITEM :=
  HOOK_ITEM_FUNC.item addr { moduleName := .WINSPOOL_DRV, procName := p }

/-- The programs behind the entry points of the host: a detour where the hook is enabled, else
the function itself. -/
def patched {w : PtrWidth} (addr : Addresses) (s : State) : Entry w := fun c =>
  if ∃ g ∈ s.hooks, g.item = spoolItem addr c.proc ∧ g.isEnabled = true then detour c
  else fpOriginal c

theorem eq_EndDocPrinter_of_name {p : Proc} (h : p.name = Proc.EndDocPrinter.name) :
    p = .EndDocPrinter := by
  revert h
  cases p <;> decide

theorem mem_items {H : Type} (addr : Addresses) (c : SpoolCall H) :
    spoolItem addr c.proc ∈ _hook_items.map (HOOK_ITEM_FUNC.item addr) ↔
      c.proc ≠ .EndDocPrinter := by
  constructor
  · intro hmem hp
    obtain ⟨e, he, hitem⟩ := List.mem_map.mp hmem
    have hname : e.procName.name = c.proc.name := congrArg HOOK_ITEM.procName hitem
    rw [hp] at hname
    have hend := eq_EndDocPrinter_of_name hname
    have hnone : ∀ e ∈ _hook_items, e.procName ≠ .EndDocPrinter := by decide
    exact hnone e he hend
  · intro hp
    exact List.mem_map_of_mem ((mem_hook_items c).mpr hp)

/-- In a host that `start_hook` has patched, every spooler function but `EndDocPrinter` is
detoured. -/
theorem patched_eq {w : PtrWidth} {addr : Addresses} {s : State} (h : HooksStarted addr s)
    (c : SpoolCall (HANDLE w)) :
    patched addr s c = if c.proc = .EndDocPrinter then fpOriginal c else detour c := by
  obtain ⟨tr, hstart⟩ := h
  have hall := start_hook_true initiated_sound hstart
  unfold patched
  simp only [hall.mem_iff, mem_items]
  by_cases hp : c.proc = .EndDocPrinter
  · rw [if_pos hp, if_neg fun hne => hne hp]
  · rw [if_neg hp, if_pos hp]

/-- With calls that succeed, `start_hook` answers TRUE. -/
theorem exists_hooksStarted (addr : Addresses) : ∃ s, HooksStarted addr s := by
  obtain ⟨tr, hload⟩ := load_dlls_none _preloaded_dlls initiated
  obtain ⟨tr', s, hloop⟩ := hook_loop_succeeds (_hook_items.map (HOOK_ITEM_FUNC.item addr))
    (s := { initiated with initialized := true }) (n := 0) rfl (by simp [initiated])
  have hinit : env initiated .MH_Initialize true () { initiated with initialized := true } :=
    ⟨rfl, rfl⟩
  exact ⟨s, _, hload.bind (.next hinit hloop)⟩

end RemotePrinter
