-- All hooks of a process: whatever hooks are created, enabled, disabled and
-- removed, and in whatever order, a call of each enabled function gets to its
-- detour, and all other code is as it was.
import RemotePrinter.Hooks

open Interactive

namespace RemotePrinter

open HDE

inductive MH_STATUS where
  | MH_OK
  | MH_ERROR_ALREADY_CREATED
  | MH_ERROR_NOT_CREATED
  | MH_ERROR_ENABLED
  | MH_ERROR_DISABLED
  | MH_ERROR_NOT_EXECUTABLE
  | MH_ERROR_UNSUPPORTED_FUNCTION
  | MH_ERROR_MEMORY_ALLOC
  | MH_ERROR_MEMORY_PROTECT
  deriving DecidableEq

/-- What MinHook has between `MH_Initialize` and `MH_Uninitialize`, and the memory of the
process. -/
structure MinHook (w : PtrWidth) where
  g_hooks : List (HOOK_ENTRY w) := []
  g_pMemoryBlocks : List (MEMORY_BLOCK w) := []
  mem : Space w.bits

section
variable {w : PtrWidth}

/-! ## The functions -/

/-- The first entry of a function, in its place. -/
def FindHookEntry (pTarget : HANDLE w) : List (HOOK_ENTRY w) →
    Option (List (HOOK_ENTRY w) × HOOK_ENTRY w × List (HOOK_ENTRY w))
  | [] => none
  | h :: rest =>
    if h.pTarget = pTarget then some ([], h, rest)
    else (FindHookEntry pTarget rest).map fun r => (h :: r.1, r.2)

/-- The last entry takes the place of the one that is deleted. -/
def DelHookEntry (pre post : List (HOOK_ENTRY w)) : List (HOOK_ENTRY w) :=
  match post.getLast? with
  | none => pre
  | some last => pre ++ last :: post.dropLast

/-- `heap` tells whether there is memory for one more entry. -/
def MH_CreateHook (sys : System w) (IsExecutableAddress : HANDLE w → Bool) (heap : Bool)
    (s : MinHook w) (pTarget pDetour : HANDLE w) : MH_STATUS × MinHook w :=
  if !IsExecutableAddress pTarget || !IsExecutableAddress pDetour then (.MH_ERROR_NOT_EXECUTABLE, s)
  else if (FindHookEntry pTarget s.g_hooks).isSome then (.MH_ERROR_ALREADY_CREATED, s)
  else
    match AllocateBuffer sys pTarget s.g_pMemoryBlocks with
    | (none, g) => (.MH_ERROR_MEMORY_ALLOC, { s with g_pMemoryBlocks := g })
    | (some pBuffer, g) =>
      match CreateTrampolineFunction IsExecutableAddress s.mem
          { pTarget := pTarget, pDetour := pDetour, pTrampoline := pBuffer } with
      | (false, _, mem) =>
        (.MH_ERROR_UNSUPPORTED_FUNCTION,
          { s with g_pMemoryBlocks := FreeBuffer pBuffer g, mem := mem })
      | (true, ct, mem) =>
        if !heap then
          (.MH_ERROR_MEMORY_ALLOC, { s with g_pMemoryBlocks := FreeBuffer pBuffer g, mem := mem })
        else
          (.MH_OK, { g_hooks := s.g_hooks ++ [.ofTrampoline mem ct]
                     g_pMemoryBlocks := g
                     mem := mem })

def MH_RemoveHook (VirtualProtect : HANDLE w → Nat → Bool) (s : MinHook w) (pTarget : HANDLE w) :
    MH_STATUS × MinHook w :=
  match FindHookEntry pTarget s.g_hooks with
  | none => (.MH_ERROR_NOT_CREATED, s)
  | some (pre, h, post) =>
    let g := FreeBuffer h.pTrampoline s.g_pMemoryBlocks
    if h.isEnabled then
      match EnableHookLL VirtualProtect h s.mem false with
      | none => (.MH_ERROR_MEMORY_PROTECT, s)
      | some (_, mem) => (.MH_OK, ⟨DelHookEntry pre post, g, mem⟩)
    else (.MH_OK, ⟨DelHookEntry pre post, g, s.mem⟩)

/-- The entries before the first one that cannot be written are as they are to be. -/
def EnableAllHooksLL (VirtualProtect : HANDLE w → Nat → Bool) (enable : Bool) :
    List (HOOK_ENTRY w) → Space w.bits → MH_STATUS × List (HOOK_ENTRY w) × Space w.bits
  | [], mem => (.MH_OK, [], mem)
  | h :: rest, mem =>
    if h.isEnabled = enable then
      let r := EnableAllHooksLL VirtualProtect enable rest mem
      (r.1, h :: r.2.1, r.2.2)
    else
      match EnableHookLL VirtualProtect h mem enable with
      | none => (.MH_ERROR_MEMORY_PROTECT, h :: rest, mem)
      | some (h', mem') =>
        let r := EnableAllHooksLL VirtualProtect enable rest mem'
        (r.1, h' :: r.2.1, r.2.2)

/-- `MH_EnableHook` and `MH_DisableHook`. `MH_ALL_HOOKS` is NULL. -/
def EnableHook (VirtualProtect : HANDLE w → Nat → Bool) (s : MinHook w) (pTarget : HANDLE w)
    (enable : Bool) : MH_STATUS × MinHook w :=
  if pTarget = 0 then
    let r := EnableAllHooksLL VirtualProtect enable s.g_hooks s.mem
    (r.1, { s with g_hooks := r.2.1, mem := r.2.2 })
  else
    match FindHookEntry pTarget s.g_hooks with
    | none => (.MH_ERROR_NOT_CREATED, s)
    | some (pre, h, post) =>
      if h.isEnabled = enable then
        (if enable then .MH_ERROR_ENABLED else .MH_ERROR_DISABLED, s)
      else
        match EnableHookLL VirtualProtect h s.mem enable with
        | none => (.MH_ERROR_MEMORY_PROTECT, s)
        | some (h', mem) => (.MH_OK, { s with g_hooks := pre ++ h' :: post, mem := mem })

/-! ## What holds between the calls -/

/-- The bytes that are written over a function, and those of another place, have none in common. -/
def HOOK_ENTRY.Beside (h h' : HOOK_ENTRY w) : Prop :=
  Space.Apart h.pPatchTarget h.patchSize h'.pPatchTarget h'.patchSize

/-- The hook of a function that is sent to `pDetour`, with its trampoline in the memory. -/
def HOOK_ENTRY.Stands (h : HOOK_ENTRY w) (mem : Space w.bits) (pDetour : HANDLE w) : Prop :=
  ∃ m m' ct ct' oldEnd newEnd, Created m m' ct ct' oldEnd newEnd ∧ InJumpRange ct ∧
    ct.pDetour = pDetour ∧
    mem.read ct.pTrampoline (MEMORY_SLOT_SIZE w) = m'.read ct.pTrampoline (MEMORY_SLOT_SIZE w) ∧
    h = { HOOK_ENTRY.ofTrampoline m' ct' with
      isEnabled := h.isEnabled
      queueEnable := h.queueEnable }

/-- `code` is the memory before any hook, `Code` the addresses of the program's code, `detour` where
the function of each hook is sent. -/
structure Patched (Code : HANDLE w → Prop) (code : Space w.bits) (detour : HANDLE w → HANDLE w)
    (hooks : List (HOOK_ENTRY w)) (mem : Space w.bits) : Prop where
  beside : hooks.Pairwise HOOK_ENTRY.Beside
  inCode : ∀ h ∈ hooks, ∀ i < h.patchSize, Code (h.pPatchTarget + BitVec.ofNat w.bits i)
  backup : ∀ h ∈ hooks, h.backup = code.read h.pPatchTarget h.patchSize
  enabled : ∀ h ∈ hooks, h.isEnabled = true → mem.read h.pPatchTarget h.patchSize = h.patch
  stands : ∀ h ∈ hooks, h.Stands mem (detour h.pTarget)
  kept : ∀ x, Code x → (∀ h ∈ hooks, h.isEnabled = true →
    h.patchSize ≤ (x - h.pPatchTarget).toNat) → mem x = code x

/-- Every hook has a slot of its own, and no slot is where code is. -/
structure Housed (Code : HANDLE w → Prop) (hooks : List (HOOK_ENTRY w))
    (g : List (MEMORY_BLOCK w)) : Prop where
  buffers : Buffers g (hooks.map fun h => h.pTrampoline)
  pages : ∀ b ∈ g, ∀ x, Code x → MEMORY_BLOCK_SIZE ≤ (x - b.pBlock).toNat

variable {Code : HANDLE w → Prop} {code : Space w.bits} {detour : HANDLE w → HANDLE w}
  {h h' : HOOK_ENTRY w} {hooks hooks' : List (HOOK_ENTRY w)} {g g' : List (MEMORY_BLOCK w)}
  {mem mem' : Space w.bits}

theorem Patched.perm (hs : Patched Code code detour hooks mem) (hp : hooks.Perm hooks') :
    Patched Code code detour hooks' mem where
  beside := hp.pairwise hs.beside fun hb => Space.Apart.symm hb
  inCode h hh := hs.inCode h (hp.mem_iff.mpr hh)
  backup h hh := hs.backup h (hp.mem_iff.mpr hh)
  enabled h hh := hs.enabled h (hp.mem_iff.mpr hh)
  stands h hh := hs.stands h (hp.mem_iff.mpr hh)
  kept x hx hout := hs.kept x hx fun h hh => hout h (hp.mem_iff.mp hh)

theorem Housed.perm (hs : Housed Code hooks g) (hp : hooks.Perm hooks') : Housed Code hooks' g where
  buffers := ⟨hs.buffers.perm (.refl _) (hp.map _), hs.buffers.used⟩
  pages := hs.pages

/-- A slot that is held is in a page without code. -/
theorem slot_apart_code {held : List (HANDLE w)} (hg : Listed g held)
    (hpages : ∀ b ∈ g, ∀ x, Code x → MEMORY_BLOCK_SIZE ≤ (x - b.pBlock).toNat) {p : HANDLE w}
    (hp : p ∈ held) {a : HANDLE w} {k : Nat} (ha : ∀ i < k, Code (a + BitVec.ofNat w.bits i)) :
    Space.Apart a k p (MEMORY_SLOT_SIZE w) := by
  obtain ⟨b, hb, hslot⟩ := hg.mem_slotsOf_held hp
  obtain ⟨j, _, hj, hslot⟩ := mem_slotsOf.mp hslot
  have hpage : Space.Apart a k b.pBlock MEMORY_BLOCK_SIZE := fun i hi => hpages b hb _ (ha i hi)
  rw [← hslot]
  exact hpage.inside (slot_end hj)

theorem Housed.slot_apart (hs : Housed Code hooks g) (hh : h ∈ hooks) {a : HANDLE w} {k : Nat}
    (ha : ∀ i < k, Code (a + BitVec.ofNat w.bits i)) :
    Space.Apart a k h.pTrampoline (MEMORY_SLOT_SIZE w) :=
  slot_apart_code hs.buffers.toListed hs.pages (List.mem_map.mpr ⟨h, hh, rfl⟩) ha

theorem HOOK_ENTRY.Stands.pTrampoline_eq {pDetour : HANDLE w} (hs : h.Stands mem pDetour)
    (hread : mem'.read h.pTrampoline (MEMORY_SLOT_SIZE w) =
      mem.read h.pTrampoline (MEMORY_SLOT_SIZE w)) : h.Stands mem' pDetour := by
  obtain ⟨m, m', ct, ct', oldEnd, newEnd, hcreated, hrange, hdetour, hslot, heq⟩ := hs
  have htrampoline : h.pTrampoline = ct.pTrampoline := by
    rw [heq]
    exact hcreated.pTrampoline
  rw [htrampoline] at hread
  exact ⟨m, m', ct, ct', oldEnd, newEnd, hcreated, hrange, hdetour, hread.trans hslot, heq⟩

/-- What is written elsewhere does not matter. -/
theorem Patched.frame (hs : Patched Code code detour hooks mem)
    (hcode : ∀ x, Code x → mem' x = mem x)
    (hslots : ∀ h ∈ hooks, mem'.read h.pTrampoline (MEMORY_SLOT_SIZE w) =
      mem.read h.pTrampoline (MEMORY_SLOT_SIZE w)) : Patched Code code detour hooks mem' where
  beside := hs.beside
  inCode := hs.inCode
  backup := hs.backup
  enabled h hh hon := by
    rw [← hs.enabled h hh hon]
    exact Space.read_congr fun i hi => hcode _ (hs.inCode h hh i hi)
  stands h hh := (hs.stands h hh).pTrampoline_eq (hslots h hh)
  kept x hx hout := (hcode x hx).trans (hs.kept x hx hout)

/-- An entry that is disabled can go. -/
theorem Patched.remove (hs : Patched Code code detour (h :: hooks) mem)
    (hoff : h.isEnabled = false) : Patched Code code detour hooks mem where
  beside := (List.pairwise_cons.mp hs.beside).2
  inCode := (List.forall_mem_cons.mp hs.inCode).2
  backup := (List.forall_mem_cons.mp hs.backup).2
  enabled := (List.forall_mem_cons.mp hs.enabled).2
  stands := (List.forall_mem_cons.mp hs.stands).2
  kept x hx hout := by
    refine hs.kept x hx (List.forall_mem_cons.mpr ⟨fun hon => ?_, hout⟩)
    rw [hoff] at hon
    cases hon

/-- And a new one comes disabled. -/
theorem Patched.add (hs : Patched Code code detour hooks mem) (hoff : h.isEnabled = false)
    (hbeside : ∀ h' ∈ hooks, h.Beside h')
    (hin : ∀ i < h.patchSize, Code (h.pPatchTarget + BitVec.ofNat w.bits i))
    (hbackup : h.backup = mem.read h.pPatchTarget h.patchSize)
    (hstands : h.Stands mem (detour h.pTarget)) : Patched Code code detour (h :: hooks) mem where
  beside := List.pairwise_cons.mpr ⟨hbeside, hs.beside⟩
  inCode := List.forall_mem_cons.mpr ⟨hin, hs.inCode⟩
  backup := by
    refine List.forall_mem_cons.mpr ⟨?_, hs.backup⟩
    rw [hbackup]
    refine Space.read_congr fun i hi => hs.kept _ (hin i hi) fun h' hh' _ => ?_
    exact hbeside h' hh' i hi
  enabled := by
    refine List.forall_mem_cons.mpr ⟨fun hon => ?_, hs.enabled⟩
    rw [hoff] at hon
    cases hon
  stands := List.forall_mem_cons.mpr ⟨hstands, hs.stands⟩
  kept x hx hout := hs.kept x hx fun h' hh' => hout h' (List.mem_cons_of_mem _ hh')

/-- The bytes of one hook are written: its jump, or what was there. -/
theorem Patched.write (hs : Patched Code code detour (h :: hooks) mem) {bs : List UInt8}
    {enable : Bool} (hbs : bs = if enable then h.patch else code.read h.pPatchTarget h.patchSize)
    (hslots : ∀ h' ∈ h :: hooks,
      Space.Apart h.pPatchTarget h.patchSize h'.pTrampoline (MEMORY_SLOT_SIZE w)) :
    Patched Code code detour ({ h with isEnabled := enable, queueEnable := enable } :: hooks)
      (mem.write h.pPatchTarget bs) := by
  obtain ⟨hbeside, hpairs⟩ := List.pairwise_cons.mp hs.beside
  obtain ⟨hin, hins⟩ := List.forall_mem_cons.mp hs.inCode
  obtain ⟨hback, hbacks⟩ := List.forall_mem_cons.mp hs.backup
  have hlen : bs.length = h.patchSize := by
    rw [hbs]
    split
    · exact length_patch h
    · exact Space.length_read _ _ _
  have hstays (h' : HOOK_ENTRY w) (hh' : h' ∈ h :: hooks) :
      (mem.write h.pPatchTarget bs).read h'.pTrampoline (MEMORY_SLOT_SIZE w) =
        mem.read h'.pTrampoline (MEMORY_SLOT_SIZE w) := by
    refine Space.read_write_apart ?_
    rw [hlen]
    exact (hslots h' hh').symm
  constructor
  · exact List.pairwise_cons.mpr ⟨hbeside, hpairs⟩
  · exact List.forall_mem_cons.mpr ⟨hin, hins⟩
  · exact List.forall_mem_cons.mpr ⟨hback, hbacks⟩
  · refine List.forall_mem_cons.mpr ⟨fun hon => ?_, fun h' hh' hon => ?_⟩
    · change enable = true at hon
      rw [hbs, if_pos hon]
      exact read_patch mem h
    · rw [← hs.enabled h' (List.mem_cons_of_mem _ hh') hon]
      refine Space.read_write_apart ?_
      rw [hlen]
      exact Space.Apart.symm (hbeside h' hh')
  · refine List.forall_mem_cons.mpr ⟨?_, fun h' hh' => ?_⟩
    · obtain ⟨m, m', ct, ct', oldEnd, newEnd, hcreated, hrange, hdetour, hslot, heq⟩ :=
        (hs.stands h List.mem_cons_self).pTrampoline_eq (hstays h List.mem_cons_self)
      refine ⟨m, m', ct, ct', oldEnd, newEnd, hcreated, hrange, hdetour, hslot, ?_⟩
      rw [heq]
    · exact (hs.stands h' (List.mem_cons_of_mem _ hh')).pTrampoline_eq
        (hstays h' (List.mem_cons_of_mem _ hh'))
  · intro x hx hout
    obtain ⟨hself, hothers⟩ := List.forall_mem_cons.mp hout
    by_cases hinside : (x - h.pPatchTarget).toNat < h.patchSize
    · cases enable with
      | true => exact absurd (hself rfl) (Nat.not_le.mpr hinside)
      | false =>
        have hx : h.pPatchTarget + BitVec.ofNat w.bits (x - h.pPatchTarget).toNat = x := by
          rw [BitVec.ofNat_toNat, BitVec.setWidth_eq, BitVec.add_comm, BitVec.sub_add_cancel]
        unfold Space.write
        rw [List.getD_eq_getElem _ _ (hlen.symm ▸ hinside)]
        subst hbs
        simp only [Bool.false_eq_true, if_false, Space.read, List.getElem_map,
          List.getElem_range, hx]
    · have hbeyond : bs.length ≤ (x - h.pPatchTarget).toNat := by
        rw [hlen]
        exact Nat.not_lt.mp hinside
      rw [Space.write_outside hbeyond]
      refine hs.kept x hx (List.forall_mem_cons.mpr ⟨fun _ => ?_, hothers⟩)
      exact Nat.not_lt.mp hinside

/-! ## The calls -/

variable {VirtualProtect : HANDLE w → Nat → Bool} {pTarget pDetour p : HANDLE w}
  {pre post : List (HOOK_ENTRY w)} {enable : Bool} {sys : System w}

theorem Patched.enableLL (hs : Patched Code code detour (h :: hooks) mem)
    (hhoused : Housed Code (h :: hooks) g)
    (hcall : EnableHookLL VirtualProtect h mem enable = some (h', mem')) :
    Patched Code code detour (h' :: hooks) mem' ∧ Housed Code (h' :: hooks) g ∧
      h'.isEnabled = enable := by
  have hslots (c : HOOK_ENTRY w) (hc : c ∈ h :: hooks) :=
    hhoused.slot_apart hc (hs.inCode h List.mem_cons_self)
  cases enable with
  | true =>
    obtain ⟨rfl, rfl⟩ := EnableHookLL_enable hcall
    exact ⟨hs.write rfl hslots, ⟨hhoused.buffers, hhoused.pages⟩, rfl⟩
  | false =>
    obtain ⟨rfl, rfl⟩ := EnableHookLL_disable hcall
    have hback := hs.backup h List.mem_cons_self
    have hbs : h.backup.take h.patchSize = code.read h.pPatchTarget h.patchSize := by
      rw [hback, List.take_of_length_le (Nat.le_of_eq (Space.length_read _ _ _))]
    exact ⟨hs.write hbs hslots, ⟨hhoused.buffers, hhoused.pages⟩, rfl⟩

theorem FindHookEntry_split (hfind : FindHookEntry pTarget hooks = some (pre, h, post)) :
    hooks = pre ++ h :: post ∧ h.pTarget = pTarget := by
  induction hooks generalizing pre with
  | nil => cases hfind
  | cons c hooks ih =>
    unfold FindHookEntry at hfind
    split at hfind
    · rename_i hc
      cases hfind
      exact ⟨rfl, hc⟩
    · obtain ⟨⟨pre', c', post'⟩, hr, heq⟩ := Option.map_eq_some_iff.mp hfind
      cases heq
      obtain ⟨rfl, hc⟩ := ih hr
      exact ⟨rfl, hc⟩

theorem FindHookEntry_none (hfind : FindHookEntry pTarget hooks = none) :
    ∀ h ∈ hooks, h.pTarget ≠ pTarget := by
  induction hooks with
  | nil => exact fun _ hh => absurd hh List.not_mem_nil
  | cons c hooks ih =>
    unfold FindHookEntry at hfind
    split at hfind
    · cases hfind
    · rename_i hc
      exact List.forall_mem_cons.mpr ⟨hc, ih (Option.map_eq_none_iff.mp hfind)⟩

theorem DelHookEntry_perm (pre post : List (HOOK_ENTRY w)) :
    (DelHookEntry pre post).Perm (pre ++ post) := by
  unfold DelHookEntry
  cases hlast : post.getLast? with
  | none =>
    rw [List.getLast?_eq_none_iff.mp hlast, List.append_nil]
  | some last =>
    obtain ⟨init, rfl⟩ := List.getLast?_eq_some_iff.mp hlast
    rw [List.dropLast_concat]
    exact (List.perm_append_singleton last init).symm.append_left pre

/-- No block comes by a call of `FreeBuffer`. -/
theorem free_pages (hg : ∀ b ∈ g, ∀ x, Code x → MEMORY_BLOCK_SIZE ≤ (x - b.pBlock).toNat) :
    ∀ b ∈ FreeBuffer p g, ∀ x, Code x → MEMORY_BLOCK_SIZE ≤ (x - b.pBlock).toNat := by
  induction g with
  | nil => exact hg
  | cons b g ih =>
    obtain ⟨hb, hg⟩ := List.forall_mem_cons.mp hg
    unfold FreeBuffer
    split_ifs
    · exact hg
    · exact List.forall_mem_cons.mpr ⟨hb, hg⟩
    · exact List.forall_mem_cons.mpr ⟨hb, ih hg⟩

/-- And one at most by a call of `AllocateBuffer`. -/
theorem allocate_pages {o : HANDLE w}
    (hg : ∀ b ∈ g, ∀ x, Code x → MEMORY_BLOCK_SIZE ≤ (x - b.pBlock).toNat)
    (hnew : ∀ a p, sys.VirtualAlloc a = some p → ∀ x, Code x → MEMORY_BLOCK_SIZE ≤ (x - p).toNat)
    (h : AllocateBuffer sys o g = (some p, g')) :
    ∀ b ∈ g', ∀ x, Code x → MEMORY_BLOCK_SIZE ≤ (x - b.pBlock).toNat := by
  obtain ⟨pre, b, post, pFree, hblock, _, rfl⟩ := AllocateBuffer_some h
  have hall : ∀ c ∈ pre ++ b :: post, ∀ x, Code x →
      MEMORY_BLOCK_SIZE ≤ (x - c.pBlock).toNat := by
    unfold GetMemoryBlock at hblock
    rcases Option.or_eq_some_iff.mp hblock with h | ⟨_, h⟩
    · exact (registered_split h).1 ▸ hg
    · obtain ⟨pBlock, hmade, heq⟩ := Option.map_eq_some_iff.mp h
      obtain ⟨pAlloc, hgot⟩ := newBlock_granted hmade
      cases heq
      exact List.forall_mem_cons.mpr ⟨hnew pAlloc pBlock hgot, hg⟩
  intro c hc
  rcases List.mem_cons.mp (List.perm_middle.mem_iff.mp hc) with rfl | hc
  · exact hall b (List.mem_append_right _ List.mem_cons_self)
  · exact hall c (List.perm_middle.mem_iff.mpr (List.mem_cons_of_mem _ hc))

theorem Housed.remove (hs : Housed Code (h :: hooks) g) :
    Housed Code hooks (FreeBuffer h.pTrampoline g) where
  buffers := FreeBuffer_buffers hs.buffers
  pages := free_pages hs.pages

/-- What holds of a process between two calls. -/
structure Hooked (Code : HANDLE w → Prop) (code : Space w.bits) (detour : HANDLE w → HANDLE w)
    (s : MinHook w) : Prop where
  patched : Patched Code code detour s.g_hooks s.mem
  housed : Housed Code s.g_hooks s.g_pMemoryBlocks

variable {s : MinHook w}

theorem Hooked.MH_RemoveHook (hs : Hooked Code code detour s) :
    Hooked Code code detour (MH_RemoveHook VirtualProtect s pTarget).2 := by
  unfold RemotePrinter.MH_RemoveHook
  split
  · exact hs
  · rename_i pre h post hfind
    obtain ⟨hhooks, _⟩ := FindHookEntry_split hfind
    have hperm : s.g_hooks.Perm (h :: (pre ++ post)) := hhooks ▸ List.perm_middle
    have hp := hs.patched.perm hperm
    have hh := hs.housed.perm hperm
    have hdel := (DelHookEntry_perm pre post).symm
    simp only
    split
    · split
      · exact hs
      · rename_i h' mem' hcall
        obtain ⟨hp', _, hoff⟩ := hp.enableLL hh hcall
        exact ⟨(hp'.remove hoff).perm hdel, hh.remove.perm hdel⟩
    · rename_i hoff
      exact ⟨(hp.remove (Bool.not_eq_true _ ▸ hoff)).perm hdel, hh.remove.perm hdel⟩

theorem Patched.enableAll (hs : Patched Code code detour (pre ++ hooks) mem)
    (hh : Housed Code (pre ++ hooks) g) :
    Patched Code code detour (pre ++ (EnableAllHooksLL VirtualProtect enable hooks mem).2.1)
        (EnableAllHooksLL VirtualProtect enable hooks mem).2.2 ∧
      Housed Code (pre ++ (EnableAllHooksLL VirtualProtect enable hooks mem).2.1) g := by
  induction hooks generalizing pre mem with
  | nil => exact ⟨hs, hh⟩
  | cons h hooks ih =>
    have hnext (c : HOOK_ENTRY w) (rest : List (HOOK_ENTRY w)) :
        pre ++ c :: rest = (pre ++ [c]) ++ rest := by
      rw [List.append_assoc, List.singleton_append]
    unfold EnableAllHooksLL
    split
    · rw [hnext] at hs hh
      have hall := ih hs hh
      rw [← hnext] at hall
      exact hall
    · split
      · exact ⟨hs, hh⟩
      · rename_i h' mem' hcall
        obtain ⟨hp, hhoused, _⟩ :=
          (hs.perm List.perm_middle).enableLL (hh.perm List.perm_middle) hcall
        have hp := hp.perm List.perm_middle.symm
        have hhoused := hhoused.perm List.perm_middle.symm
        rw [hnext] at hp hhoused
        have hall := ih hp hhoused
        rw [← hnext] at hall
        exact hall

theorem Hooked.EnableHook (hs : Hooked Code code detour s) :
    Hooked Code code detour (EnableHook VirtualProtect s pTarget enable).2 := by
  unfold RemotePrinter.EnableHook
  split
  · have hp : Patched Code code detour ([] ++ s.g_hooks) s.mem := hs.patched
    have hh : Housed Code ([] ++ s.g_hooks) s.g_pMemoryBlocks := hs.housed
    exact ⟨(hp.enableAll hh).1, (hp.enableAll hh).2⟩
  split
  · exact hs
  · rename_i pre h post hfind
    obtain ⟨hhooks, _⟩ := FindHookEntry_split hfind
    have hperm : s.g_hooks.Perm (h :: (pre ++ post)) := hhooks ▸ List.perm_middle
    split
    · exact hs
    split
    · exact hs
    · rename_i h' mem' hcall
      obtain ⟨hp, hh, _⟩ := (hs.patched.perm hperm).enableLL (hs.housed.perm hperm) hcall
      exact ⟨hp.perm List.perm_middle.symm, hh.perm List.perm_middle.symm⟩

/-! ### A new hook -/

/-- The system gives pages that are not in use, also not by code. On x64 it is as it is
documented. -/
structure System.Serves (sys : System w) (Code : HANDLE w → Prop) (g : List (MEMORY_BLOCK w)) :
    Prop extends sys.Grants g where
  unused : ∀ a p, sys.VirtualAlloc a = some p → ∀ x, Code x → MEMORY_BLOCK_SIZE ≤ (x - p).toNat
  consistent : w = .x64 → sys.Consistent

/-- A new hook is one besides the others: its function is code, from the hot patch area on, and no
byte is to be written for two of them. -/
structure Hookable (Code : HANDLE w → Prop) (sys : System w) (hooks : List (HOOK_ENTRY w))
    (h : HOOK_ENTRY w) : Prop where
  code : ∀ i < 39, Code (h.pTarget - 5 + BitVec.ofNat w.bits i)
  beside : ∀ h' ∈ hooks, h.Beside h'
  inMemory : w = .x64 → sys.lpMinimumApplicationAddress ≤ h.pTarget ∧
    h.pTarget ≤ sys.lpMaximumApplicationAddress

theorem allocated_inRange {held : List (HANDLE w)} (hsys : w = .x64 → sys.Consistent)
    (hin : w = .x64 → sys.lpMinimumApplicationAddress ≤ pTarget ∧
      pTarget ≤ sys.lpMaximumApplicationAddress) (hg : Listed g held)
    (hcall : AllocateBuffer sys pTarget g = (some p, g')) :
    InJumpRange { pTarget := pTarget, pDetour := pDetour, pTrampoline := p } := by
  intro hw
  subst hw
  obtain ⟨hlow, hhigh⟩ := hin rfl
  have hsys := hsys rfl
  have ho : sys.Holds pTarget := ⟨hlow, hhigh⟩
  obtain ⟨⟨pBlock, hpage, hlo, hhi, hp⟩, _⟩ := AllocateBuffer_block hsys ho hg hcall
  exact near_of_mem hsys ho hpage hlo hhi hp

/-- The bytes that are going to be written are code. -/
theorem patch_inCode (hcode : ∀ i < 39, Code (pTarget - 5 + BitVec.ofNat w.bits i))
    (hpTarget : h.pTarget = pTarget) :
    ∀ i < h.patchSize, Code (h.pPatchTarget + BitVec.ofNat w.bits i) := by
  intro i hi
  have hle := patchSize_le h
  unfold HOOK_ENTRY.pPatchTarget
  rw [hpTarget]
  split_ifs
  · exact hcode i (by omega)
  · have hfar := hcode (5 + i) (by omega)
    have hback : pTarget - 5 + BitVec.ofNat w.bits 5 = pTarget := BitVec.sub_add_cancel _ _
    rwa [BitVec.ofNat_add, ← BitVec.add_assoc, hback] at hfar

/-- The slot is written, and nothing that there was before it. -/
theorem Hooked.created {IsExecutableAddress : HANDLE w → Bool} (hs : Hooked Code code detour s)
    (hsys : sys.Serves Code s.g_pMemoryBlocks)
    (hcall : AllocateBuffer sys pTarget s.g_pMemoryBlocks = (some p, g)) {ct : TRAMPOLINE w}
    (hct : ct.pTrampoline = p)
    (hmem : mem = (CreateTrampolineFunction IsExecutableAddress s.mem ct).2.2) :
    Buffers g (p :: s.g_hooks.map fun h => h.pTrampoline) ∧
      (∀ b ∈ g, ∀ x, Code x → MEMORY_BLOCK_SIZE ≤ (x - b.pBlock).toNat) ∧
      Patched Code code detour s.g_hooks mem := by
  have hbuffers := AllocateBuffer_buffers hsys.toGrants hs.housed.buffers hcall
  have hpages := allocate_pages hs.housed.pages hsys.unused hcall
  have houtside := create_outside IsExecutableAddress s.mem ct
  rw [← hmem, hct] at houtside
  refine ⟨hbuffers, hpages, hs.patched.frame (fun x hx => houtside x fun hin => ?_) ?_⟩
  · have hone : ∀ i < 1, Code (x + BitVec.ofNat w.bits i) := by
      intro i hi
      obtain rfl : i = 0 := Nat.lt_one_iff.mp hi
      exact (BitVec.add_zero x).symm ▸ hx
    have hapart := slot_apart_code hbuffers.toListed hpages List.mem_cons_self hone 0 Nat.one_pos
    have hzero : x + BitVec.ofNat w.bits 0 = x := BitVec.add_zero x
    rw [hzero] at hapart
    exact absurd hin.2 (Nat.not_lt.mpr hapart)
  · intro h hh
    have hapart := (List.pairwise_cons.mp hbuffers.held_apart).1 h.pTrampoline
      (List.mem_map.mpr ⟨h, hh, rfl⟩)
    exact houtside.read_apart hapart.symm (Nat.le_refl _)

theorem Patched.update (hs : Patched Code code detour hooks mem)
    (hnew : ∀ h ∈ hooks, h.pTarget ≠ pTarget) :
    Patched Code code (Function.update detour pTarget pDetour) hooks mem where
  beside := hs.beside
  inCode := hs.inCode
  backup := hs.backup
  enabled := hs.enabled
  stands h hh := by
    rw [Function.update_of_ne (hnew h hh)]
    exact hs.stands h hh
  kept := hs.kept

/-- Where the functions are sent after a call of `MH_CreateHook`. -/
def detourAfter (detour : HANDLE w → HANDLE w) (pTarget pDetour : HANDLE w) (status : MH_STATUS) :
    HANDLE w → HANDLE w :=
  if status = .MH_OK then Function.update detour pTarget pDetour else detour

theorem Hooked.MH_CreateHook {IsExecutableAddress : HANDLE w → Bool} {heap : Bool}
    (hs : Hooked Code code detour s) (hsys : sys.Serves Code s.g_pMemoryBlocks)
    (hnew : ∀ h, (MH_CreateHook sys IsExecutableAddress heap s pTarget pDetour).2.g_hooks =
      s.g_hooks ++ [h] → Hookable Code sys s.g_hooks h) :
    Hooked Code code
      (detourAfter detour pTarget pDetour
        (MH_CreateHook sys IsExecutableAddress heap s pTarget pDetour).1)
      (MH_CreateHook sys IsExecutableAddress heap s pTarget pDetour).2 := by
  revert hnew
  unfold RemotePrinter.MH_CreateHook
  split
  · exact fun _ => hs
  split
  · exact fun _ => hs
  rename_i hfresh
  have hfresh := FindHookEntry_none (Option.not_isSome_iff_eq_none.mp hfresh)
  split
  · rename_i g hcall
    rw [AllocateBuffer_none hcall]
    exact fun _ => hs
  rename_i p g hcall
  split
  · rename_i ct mem hcreate
    obtain ⟨hbuffers, hpages, hp⟩ := hs.created hsys hcall rfl (congrArg (·.2.2) hcreate).symm
    exact fun _ => ⟨hp, FreeBuffer_buffers hbuffers, free_pages hpages⟩
  rename_i ct mem hcreate
  obtain ⟨hbuffers, hpages, hp⟩ := hs.created hsys hcall rfl (congrArg (·.2.2) hcreate).symm
  split
  · exact fun _ => ⟨hp, FreeBuffer_buffers hbuffers, free_pages hpages⟩
  · intro hnew
    obtain ⟨hcode, hbeside, hin⟩ := hnew _ rfl
    -- The entry has the target that the call was made with.
    have htarget : (HOOK_ENTRY.ofTrampoline mem ct).pTarget = pTarget := by
      have hsame := create_pTarget IsExecutableAddress s.mem
        { pTarget := pTarget, pDetour := pDetour, pTrampoline := p }
      rw [hcreate] at hsame
      exact hsame
    have hcode' := hcode
    rw [htarget] at hcode' hin
    have hslot := slot_apart_code hbuffers.toListed hpages List.mem_cons_self hcode'
    obtain ⟨oldEnd, newEnd, hcreated⟩ := create_chain hcreate (apart_target hslot (by decide))
    have hrange : InJumpRange { pTarget := pTarget, pDetour := pDetour, pTrampoline := p } :=
      allocated_inRange hsys.consistent hin hs.housed.buffers.toListed hcall
    have hstands : (HOOK_ENTRY.ofTrampoline mem ct).Stands mem
        (Function.update detour pTarget pDetour (HOOK_ENTRY.ofTrampoline mem ct).pTarget) := by
      rw [htarget, Function.update_self]
      exact ⟨s.mem, mem, _, ct, oldEnd, newEnd, hcreated, hrange, rfl, rfl, rfl⟩
    have hadd := (hp.update hfresh).add rfl hbeside (patch_inCode hcode rfl)
      (backup_ofTrampoline mem ct) hstands
    have hlast := (List.perm_append_singleton (HOOK_ENTRY.ofTrampoline mem ct) s.g_hooks).symm
    have hhoused : Housed Code (HOOK_ENTRY.ofTrampoline mem ct :: s.g_hooks) g := by
      refine ⟨?_, hpages⟩
      have htrampoline : (HOOK_ENTRY.ofTrampoline mem ct).pTrampoline = p := hcreated.pTrampoline
      rw [List.map_cons, htrampoline]
      exact hbuffers
    exact ⟨hadd.perm hlast, hhoused.perm hlast⟩

/-! ## Runs -/

/-- A call of one of the functions, with where the functions are sent. -/
inductive HookStep (Code : HANDLE w → Prop) :
    MinHook w × (HANDLE w → HANDLE w) → MinHook w × (HANDLE w → HANDLE w) → Prop where
  | create {s : MinHook w} {detour : HANDLE w → HANDLE w} {sys : System w}
      {IsExecutableAddress : HANDLE w → Bool} {heap : Bool} {pTarget pDetour : HANDLE w}
      (hsys : sys.Serves Code s.g_pMemoryBlocks)
      (hnew : ∀ h, (MH_CreateHook sys IsExecutableAddress heap s pTarget pDetour).2.g_hooks =
        s.g_hooks ++ [h] → Hookable Code sys s.g_hooks h) :
      HookStep Code (s, detour)
        ((MH_CreateHook sys IsExecutableAddress heap s pTarget pDetour).2,
          detourAfter detour pTarget pDetour
            (MH_CreateHook sys IsExecutableAddress heap s pTarget pDetour).1)
  | remove {s : MinHook w} {detour : HANDLE w → HANDLE w} {VirtualProtect : HANDLE w → Nat → Bool}
      {pTarget : HANDLE w} :
      HookStep Code (s, detour) ((MH_RemoveHook VirtualProtect s pTarget).2, detour)
  | enable {s : MinHook w} {detour : HANDLE w → HANDLE w} {VirtualProtect : HANDLE w → Nat → Bool}
      {pTarget : HANDLE w} {enable : Bool} :
      HookStep Code (s, detour) ((EnableHook VirtualProtect s pTarget enable).2, detour)

theorem Hooked.step {s s' : MinHook w × (HANDLE w → HANDLE w)} (hs : Hooked Code code s.2 s.1)
    (hstep : HookStep Code s s') : Hooked Code code s'.2 s'.1 := by
  cases hstep with
  | create hsys hnew => exact hs.MH_CreateHook hsys hnew
  | remove => exact hs.MH_RemoveHook
  | enable => exact hs.EnableHook

theorem hooked_nil (Code : HANDLE w → Prop) (code : Space w.bits) (detour : HANDLE w → HANDLE w) :
    Hooked Code code detour { mem := code } where
  patched :=
    { beside := .nil
      inCode := fun _ hh => absurd hh List.not_mem_nil
      backup := fun _ hh => absurd hh List.not_mem_nil
      enabled := fun _ hh => absurd hh List.not_mem_nil
      stands := fun _ hh => absurd hh List.not_mem_nil
      kept := fun _ _ _ => rfl }
  housed := ⟨buffers_nil, fun _ hb => absurd hb List.not_mem_nil⟩

theorem hooked_run {s : MinHook w × (HANDLE w → HANDLE w)}
    (h : Relation.ReflTransGen (HookStep Code) ({ mem := code }, detour) s) :
    Hooked Code code s.2 s.1 := by
  induction h with
  | refl => exact hooked_nil Code code detour
  | tail _ hstep ih => exact ih.step hstep

/-- The detour of a hook that is enabled. -/
theorem Patched.quiet (hs : Patched Code code detour hooks mem) (hh : h ∈ hooks)
    (hon : h.isEnabled = true) : Flow.Quiet (flow mem) h.pTarget (detour h.pTarget) := by
  obtain ⟨m, m', ct, ct', oldEnd, newEnd, hcreated, hrange, hdetour, hslot, heq⟩ := hs.stands h hh
  have hpatch := hs.enabled h hh hon
  rw [heq] at hpatch
  have htarget : h.pTarget = ct.pTarget := by
    rw [heq]
    exact hcreated.pTarget
  rw [← hdetour, htarget]
  exact quiet_detour hcreated hrange hpatch hslot

/-- Whatever hooks are created, enabled, disabled and removed, in whatever order and with whatever
answers of the system: each call of a function whose hook is enabled gets to the detour that the
hook was created with, and all other code is as it was before any hook, so all of it once no hook is
enabled. Each hook has a slot of its own. -/
theorem hooks_change_only_their_functions {s : MinHook w × (HANDLE w → HANDLE w)}
    (hrun : Relation.ReflTransGen (HookStep Code) ({ mem := code }, detour) s) :
    (∀ h ∈ s.1.g_hooks, h.isEnabled = true →
      Flow.Quiet (flow s.1.mem) h.pTarget (s.2 h.pTarget)) ∧
    (∀ x, Code x → (∀ h ∈ s.1.g_hooks, h.isEnabled = true →
      h.patchSize ≤ (x - h.pPatchTarget).toNat) → s.1.mem x = code x) ∧
    ((∀ h ∈ s.1.g_hooks, h.isEnabled = false) → ∀ x, Code x → s.1.mem x = code x) ∧
    s.1.g_hooks.Pairwise fun h h' => Space.Apart h.pTrampoline (MEMORY_SLOT_SIZE w) h'.pTrampoline
      (MEMORY_SLOT_SIZE w) := by
  have hs := hooked_run hrun
  refine ⟨fun h hh hon => hs.patched.quiet hh hon, hs.patched.kept, fun hoff x hx => ?_, ?_⟩
  · refine hs.patched.kept x hx fun h hh hon => ?_
    rw [hoff h hh] at hon
    cases hon
  · exact List.pairwise_map.mp hs.housed.buffers.held_apart

end

/-! ### Two hooks -/

/-- `TEST ECX, ECX`, a `JZ` to the return, `NOP` and `RET`, and behind five bytes of padding
`MOV EDI, EDI` and `RET`, with other code behind it. -/
def twoFunctions : Space PtrWidth.x86.bits :=
  fun a => [0x85, 0xC9, 0x74, 0x01, 0x90, 0xC3, 0xCC, 0xCC, 0xCC, 0xCC, 0xCC, 0x8B, 0xFF, 0xC3,
    0x41, 0x41, 0xC3].getD (a - 0x1000).toNat 0

/-- The bytes around the functions. -/
def TwoCode (x : HANDLE .x86) : Prop := 0xFF0 ≤ x.toNat ∧ x.toNat < 0x1030

def noHooks : MinHook .x86 := { mem := twoFunctions }

def firstCreated : MH_STATUS × MinHook .x86 :=
  MH_CreateHook lastPage (fun _ => true) true noHooks 0x1000 0x3000

/-- There is no second page for the second function, but a slot. -/
def secondCreated : MH_STATUS × MinHook .x86 :=
  MH_CreateHook noPage (fun _ => true) true firstCreated.2 0x100B 0x3100

/-- The first function is hooked already. -/
def firstAgain : MH_STATUS × MinHook .x86 :=
  MH_CreateHook noPage (fun _ => true) true secondCreated.2 0x1000 0x4000

def bothEnabled : MH_STATUS × MinHook .x86 := EnableHook (fun _ _ => true) firstAgain.2 0 true

def firstDisabled : MH_STATUS × MinHook .x86 :=
  EnableHook (fun _ _ => true) bothEnabled.2 0x1000 false

/-- Where a hook is, and where it is written. -/
def HOOK_ENTRY.place {w : PtrWidth} (h : HOOK_ENTRY w) : HANDLE w × HANDLE w × Nat :=
  (h.pTarget, h.pPatchTarget, h.patchSize)

theorem first_places : firstCreated.2.g_hooks.map HOOK_ENTRY.place = [(0x1000, 0x1000, 5)] := by
  decide +kernel

theorem second_places : secondCreated.2.g_hooks.map HOOK_ENTRY.place =
    [(0x1000, 0x1000, 5), (0x100B, 0x1006, 7)] := by
  decide +kernel

theorem again_places : firstAgain.2.g_hooks.map HOOK_ENTRY.place =
    [(0x1000, 0x1000, 5), (0x100B, 0x1006, 7)] := by
  decide +kernel

theorem place_of_added {w : PtrWidth} {hooks hooks' : List (HOOK_ENTRY w)} {h : HOOK_ENTRY w}
    (places : List (HANDLE w × HANDLE w × Nat)) {place : HANDLE w × HANDLE w × Nat}
    (hadd : hooks' = hooks ++ [h]) (hplaces : hooks'.map HOOK_ENTRY.place = places ++ [place]) :
    hooks.map HOOK_ENTRY.place = places ∧ h.place = place := by
  rw [hadd, List.map_append] at hplaces
  obtain ⟨hbefore, hlast⟩ := List.append_inj' hplaces rfl
  exact ⟨hbefore, (List.cons.inj hlast).1⟩

theorem hookable_of_place {sys : System .x86} {hooks : List (HOOK_ENTRY .x86)}
    {h : HOOK_ENTRY .x86} {places : List (HANDLE .x86 × HANDLE .x86 × Nat)}
    {place : HANDLE .x86 × HANDLE .x86 × Nat} (hbefore : hooks.map HOOK_ENTRY.place = places)
    (hplace : h.place = place)
    (hcode : ∀ i < 39, TwoCode (place.1 - 5 + BitVec.ofNat PtrWidth.x86.bits i))
    (hbeside : ∀ p ∈ places, Space.Apart place.2.1 place.2.2 p.2.1 p.2.2) :
    Hookable TwoCode sys hooks h := by
  subst hbefore hplace
  exact ⟨hcode, fun h' hh' => hbeside _ (List.mem_map_of_mem hh'), nofun⟩

theorem lastPage_serves : lastPage.Serves TwoCode [] where
  toGrants := lastPage_grants
  unused a p hgot x hx := by
    cases hgot
    obtain ⟨_, hx⟩ := hx
    have hlt := x.isLt
    have hpage : (0x50000 : HANDLE .x86).toNat = 0x50000 := by decide
    rw [BitVec.toNat_sub, hpage]
    unfold MEMORY_BLOCK_SIZE
    simp only [PtrWidth.bits] at *
    omega
  consistent hw := nomatch hw

theorem noPage_serves (g : List (MEMORY_BLOCK .x86)) : noPage.Serves TwoCode g where
  toGrants := noPage_grants g
  unused _ _ hgot := nomatch hgot
  consistent hw := nomatch hw

theorem first_code :
    ∀ i < 39, TwoCode ((0x1000 : HANDLE .x86) - 5 + BitVec.ofNat PtrWidth.x86.bits i) := by
  unfold TwoCode
  decide +kernel

theorem second_code :
    ∀ i < 39, TwoCode ((0x100B : HANDLE .x86) - 5 + BitVec.ofNat PtrWidth.x86.bits i) := by
  unfold TwoCode
  decide +kernel

/-- The hot patch area of the second function begins behind the first one. -/
theorem second_apart : Space.Apart (0x1006 : HANDLE .x86) 7 0x1000 5 := by
  unfold Space.Apart
  decide +kernel

/-- The detours of the two. -/
def twoDetours : HANDLE .x86 → HANDLE .x86 :=
  Function.update (Function.update (fun _ => 0) 0x1000 0x3000) 0x100B 0x3100

theorem first_hookable (h : HOOK_ENTRY .x86)
    (hadd : (MH_CreateHook lastPage (fun _ => true) true noHooks 0x1000 0x3000).2.g_hooks =
      noHooks.g_hooks ++ [h]) : Hookable TwoCode lastPage noHooks.g_hooks h := by
  have hplaces := first_places
  unfold firstCreated at hplaces
  obtain ⟨hbefore, hplace⟩ := place_of_added [] hadd hplaces
  exact hookable_of_place hbefore hplace first_code (by simp)

theorem second_hookable (h : HOOK_ENTRY .x86)
    (hadd : (MH_CreateHook noPage (fun _ => true) true firstCreated.2 0x100B 0x3100).2.g_hooks =
      firstCreated.2.g_hooks ++ [h]) : Hookable TwoCode noPage firstCreated.2.g_hooks h := by
  have hplaces := second_places
  unfold secondCreated at hplaces
  obtain ⟨hbefore, hplace⟩ := place_of_added [_] hadd hplaces
  refine hookable_of_place hbefore hplace second_code ?_
  rw [List.forall_mem_singleton]
  exact second_apart

/-- No entry is added by a call that fails. -/
theorem again_hookable (h : HOOK_ENTRY .x86)
    (hadd : (MH_CreateHook noPage (fun _ => true) true secondCreated.2 0x1000 0x4000).2.g_hooks =
      secondCreated.2.g_hooks ++ [h]) : Hookable TwoCode noPage secondCreated.2.g_hooks h := by
  have hplaces := again_places
  unfold firstAgain at hplaces
  obtain ⟨hbefore, -⟩ := place_of_added [_] hadd hplaces
  have hlen := congrArg List.length (second_places.symm.trans hbefore)
  simp at hlen

theorem firstDisabled_run : Relation.ReflTransGen (HookStep TwoCode) (noHooks, fun _ => 0)
    (firstDisabled.2, twoDetours) := by
  have hstatus₁ : firstCreated.1 = .MH_OK := by decide +kernel
  have hstatus₂ : secondCreated.1 = .MH_OK := by decide +kernel
  have hstatus₃ : firstAgain.1 = .MH_ERROR_ALREADY_CREATED := by decide +kernel
  have hfirst : HookStep TwoCode (noHooks, fun _ => 0)
      (firstCreated.2, detourAfter (fun _ => 0) 0x1000 0x3000 firstCreated.1) :=
    @HookStep.create .x86 TwoCode noHooks (fun _ => 0) lastPage (fun _ => true) true 0x1000 0x3000
      lastPage_serves first_hookable
  have hsecond : HookStep TwoCode
      (firstCreated.2, Function.update (fun _ => 0) 0x1000 0x3000)
      (secondCreated.2, detourAfter (Function.update (fun _ => 0) 0x1000 0x3000) 0x100B 0x3100
        secondCreated.1) :=
    @HookStep.create .x86 TwoCode firstCreated.2 _ noPage (fun _ => true) true 0x100B 0x3100
      (noPage_serves _) second_hookable
  have hagain : HookStep TwoCode (secondCreated.2, twoDetours)
      (firstAgain.2, detourAfter twoDetours 0x1000 0x4000 firstAgain.1) :=
    @HookStep.create .x86 TwoCode secondCreated.2 _ noPage (fun _ => true) true 0x1000 0x4000
      (noPage_serves _) again_hookable
  have henabled : HookStep TwoCode (firstAgain.2, twoDetours) (bothEnabled.2, twoDetours) :=
    @HookStep.enable .x86 TwoCode firstAgain.2 _ (fun _ _ => true) 0 true
  have hdisabled : HookStep TwoCode (bothEnabled.2, twoDetours) (firstDisabled.2, twoDetours) :=
    @HookStep.enable .x86 TwoCode bothEnabled.2 _ (fun _ _ => true) 0x1000 false
  rw [hstatus₁] at hfirst
  rw [hstatus₂] at hsecond
  rw [hstatus₃] at hagain
  exact ((((Relation.ReflTransGen.single hfirst).tail hsecond).tail hagain).tail henabled).tail
    hdisabled

theorem firstDisabled_entries :
    (firstDisabled.2.g_hooks.map fun h => (h.place, h.isEnabled)) =
      [((0x1000, 0x1000, 5), false), ((0x100B, 0x1006, 7), true)] := by
  decide +kernel

theorem firstDisabled_enabled {h : HOOK_ENTRY .x86} (hh : h ∈ firstDisabled.2.g_hooks)
    (hon : h.isEnabled = true) : h.place = (0x100B, 0x1006, 7) := by
  have hmem := List.mem_map_of_mem (f := fun h : HOOK_ENTRY .x86 => (h.place, h.isEnabled)) hh
  simp only [firstDisabled_entries, hon] at hmem
  rcases List.mem_cons.mp hmem with hfirst | hmem
  · cases congrArg Prod.snd hfirst
  · exact congrArg Prod.fst (List.mem_singleton.mp hmem)

theorem first_kept : ∀ i < 6, TwoCode ((0x1000 : HANDLE .x86) + BitVec.ofNat _ i) ∧
    7 ≤ ((0x1000 : HANDLE .x86) + BitVec.ofNat _ i - 0x1006).toNat := by
  unfold TwoCode
  decide +kernel

/-- The second function is hooked still, and the first is as it was. -/
theorem the_call_of_the_enabled_one_is_sent :
    Flow.Quiet (flow firstDisabled.2.mem) (0x100B : HANDLE .x86) 0x3100 ∧
      ∀ i < 6, firstDisabled.2.mem ((0x1000 : HANDLE .x86) + BitVec.ofNat _ i) =
        twoFunctions (0x1000 + BitVec.ofNat _ i) := by
  obtain ⟨hsent, hkept, -⟩ := hooks_change_only_their_functions firstDisabled_run
  dsimp only at hsent hkept
  constructor
  · have hmem : (((0x100B : HANDLE .x86), (0x1006 : HANDLE .x86), 7), true) ∈
        firstDisabled.2.g_hooks.map fun h => (h.place, h.isEnabled) := by
      rw [firstDisabled_entries]
      simp
    obtain ⟨h, hh, heq⟩ := List.mem_map.mp hmem
    obtain ⟨hplace, hon⟩ := Prod.mk.inj heq
    have htarget : h.pTarget = 0x100B := congrArg Prod.fst hplace
    have hquiet := hsent h hh hon
    have hdetour : twoDetours 0x100B = 0x3100 := Function.update_self ..
    rw [htarget, hdetour] at hquiet
    exact hquiet
  · intro i hi
    obtain ⟨hcode, hfar⟩ := first_kept i hi
    refine hkept _ hcode fun h hh hon => ?_
    obtain ⟨-, hrest⟩ := Prod.mk.inj (firstDisabled_enabled hh hon)
    obtain ⟨htarget, hsize⟩ := Prod.mk.inj hrest
    rw [htarget, hsize]
    exact hfar

end RemotePrinter
