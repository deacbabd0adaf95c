-- A hook: the jump that is written over a function, to its detour, and the
-- bytes that are put back when the hook is disabled.
import RemotePrinter.SlotPlaces
import RemotePrinter.TrampolineFlow

open Interactive

namespace RemotePrinter

open HDE

structure HOOK_ENTRY (w : PtrWidth) where
  pTarget : HANDLE w
  /-- Address of the detour or relay function. -/
  pDetour : HANDLE w
  pTrampoline : HANDLE w
  /-- Original prologue of the target function. -/
  backup : List UInt8
  patchAbove : Bool
  isEnabled : Bool := false
  queueEnable : Bool := false
  /-- `oldIPs` and `newIPs`, the first `nIP` of both. -/
  ips : List (Nat × Nat)
  deriving DecidableEq

section
variable {w : PtrWidth}

/-- What `MH_CreateHook` stores of a trampoline, in a memory `m` that has it. -/
def HOOK_ENTRY.ofTrampoline (m : Space w.bits) (ct : TRAMPOLINE w) : HOOK_ENTRY w where
  pTarget := ct.pTarget
  pDetour := if w = .x64 then ct.pRelay else ct.pDetour
  pTrampoline := ct.pTrampoline
  backup :=
    if ct.patchAbove then m.read (ct.pTarget - 5) (sizeof_JMP_REL + sizeof_JMP_REL_SHORT)
    else m.read ct.pTarget sizeof_JMP_REL
  patchAbove := ct.patchAbove
  ips := ct.ips

def HOOK_ENTRY.pPatchTarget (pHook : HOOK_ENTRY w) : HANDLE w :=
  if pHook.patchAbove then pHook.pTarget - 5 else pHook.pTarget

def HOOK_ENTRY.patchSize (pHook : HOOK_ENTRY w) : Nat :=
  if pHook.patchAbove then sizeof_JMP_REL + sizeof_JMP_REL_SHORT else sizeof_JMP_REL

/-- `none` stands for `MH_ERROR_MEMORY_PROTECT`. -/
def EnableHookLL (VirtualProtect : HANDLE w → Nat → Bool) (pHook : HOOK_ENTRY w) (m : Space w.bits)
    (enable : Bool) : Option (HOOK_ENTRY w × Space w.bits) :=
  if !VirtualProtect pHook.pPatchTarget pHook.patchSize then none
  else
    let pJmp := 0xE9 :: rel32 pHook.pDetour (pHook.pPatchTarget + 5)
    let m' :=
      if enable then
        if pHook.patchAbove then (m.write pHook.pPatchTarget pJmp).write pHook.pTarget [0xEB, 0xF9]
        else m.write pHook.pPatchTarget pJmp
      else m.write pHook.pPatchTarget (pHook.backup.take pHook.patchSize)
    some ({ pHook with isEnabled := enable, queueEnable := enable }, m')

/-- Where a thread goes that is in the trampoline, or 0. -/
def FindOldIP (pHook : HOOK_ENTRY w) (ip : HANDLE w) : HANDLE w :=
  if pHook.patchAbove && ip == pHook.pTarget - 5 then pHook.pTarget
  else
    match pHook.ips.find? fun i => ip == pHook.pTrampoline + BitVec.ofNat w.bits i.2 with
    | some i => pHook.pTarget + BitVec.ofNat w.bits i.1
    | none => if w = .x64 ∧ ip = pHook.pDetour then pHook.pTarget else 0

/-- Where a thread goes that is in the bytes that are overwritten, or 0. -/
def FindNewIP (pHook : HOOK_ENTRY w) (ip : HANDLE w) : HANDLE w :=
  match pHook.ips.find? fun i => ip == pHook.pTarget + BitVec.ofNat w.bits i.1 with
  | some i => pHook.pTrampoline + BitVec.ofNat w.bits i.2
  | none => 0

/-! ## What is written -/

/-- All that is written over the function, from `pPatchTarget` on. -/
def HOOK_ENTRY.patch (pHook : HOOK_ENTRY w) : List UInt8 :=
  0xE9 :: rel32 pHook.pDetour (pHook.pPatchTarget + 5) ++
    if pHook.patchAbove then [0xEB, 0xF9] else []

variable {VirtualProtect : HANDLE w → Nat → Bool} {pHook pHook' : HOOK_ENTRY w}
  {m m' M : Space w.bits} {ct ct' : TRAMPOLINE w}

theorem length_patch (pHook : HOOK_ENTRY w) : pHook.patch.length = pHook.patchSize := by
  unfold HOOK_ENTRY.patch HOOK_ENTRY.patchSize
  cases pHook.patchAbove <;>
    simp [length_rel32, sizeof_JMP_REL, sizeof_JMP_REL_SHORT]

theorem patchSize_le (pHook : HOOK_ENTRY w) : pHook.patchSize ≤ 7 := by
  unfold HOOK_ENTRY.patchSize
  split <;> decide

theorem pTarget_of_above (h : pHook.patchAbove = true) :
    pHook.pPatchTarget + BitVec.ofNat w.bits 5 = pHook.pTarget := by
  unfold HOOK_ENTRY.pPatchTarget
  rw [if_pos h]
  exact BitVec.sub_add_cancel _ _

/-- The two jumps stand one behind the other. -/
theorem EnableHookLL_enable (h : EnableHookLL VirtualProtect pHook m true = some (pHook', M)) :
    pHook' = { pHook with isEnabled := true, queueEnable := true } ∧
      M = m.write pHook.pPatchTarget pHook.patch := by
  unfold EnableHookLL at h
  split at h
  · cases h
  cases h
  refine ⟨rfl, ?_⟩
  unfold HOOK_ENTRY.patch
  by_cases habove : pHook.patchAbove = true
  · have hjmp : (0xE9 :: rel32 pHook.pDetour (pHook.pPatchTarget + 5)).length = 5 := by
      rw [List.length_cons, length_rel32]
    have hroom : (0xE9 :: rel32 pHook.pDetour (pHook.pPatchTarget + 5)).length +
        [(0xEB : UInt8), 0xF9].length ≤ 2 ^ w.bits := by
      rw [hjmp]
      cases w <;> decide
    have happend := Space.write_append (m := m) (a := pHook.pPatchTarget) hroom
    rw [hjmp, pTarget_of_above habove] at happend
    rw [if_pos rfl, if_pos habove, if_pos habove]
    exact happend.symm
  · rw [if_pos rfl, if_neg habove, if_neg habove, List.append_nil]

theorem EnableHookLL_disable (h : EnableHookLL VirtualProtect pHook m false = some (pHook', M)) :
    pHook' = { pHook with isEnabled := false, queueEnable := false } ∧
      M = m.write pHook.pPatchTarget (pHook.backup.take pHook.patchSize) := by
  unfold EnableHookLL at h
  split at h
  · cases h
  · cases h
    exact ⟨rfl, rfl⟩

theorem backup_ofTrampoline (m : Space w.bits) (ct : TRAMPOLINE w) :
    (HOOK_ENTRY.ofTrampoline m ct).backup =
      m.read (HOOK_ENTRY.ofTrampoline m ct).pPatchTarget
        (HOOK_ENTRY.ofTrampoline m ct).patchSize := by
  unfold HOOK_ENTRY.ofTrampoline HOOK_ENTRY.pPatchTarget HOOK_ENTRY.patchSize
  simp only
  split_ifs <;> rfl

/-- A hook that is enabled and disabled leaves the memory as it was. -/
theorem EnableHookLL_back {pHook'' : HOOK_ENTRY w} {m'' : Space w.bits}
    (hbackup : pHook.backup = m.read pHook.pPatchTarget pHook.patchSize)
    (h : EnableHookLL VirtualProtect pHook m true = some (pHook', M))
    (h' : EnableHookLL VirtualProtect pHook' M false = some (pHook'', m'')) : m'' = m := by
  obtain ⟨rfl, rfl⟩ := EnableHookLL_enable h
  obtain ⟨_, rfl⟩ := EnableHookLL_disable h'
  have hlen : pHook.backup.length = pHook.patchSize := by rw [hbackup, Space.length_read]
  change (m.write pHook.pPatchTarget pHook.patch).write pHook.pPatchTarget
    (pHook.backup.take pHook.patchSize) = m
  rw [List.take_of_length_le (Nat.le_of_eq hlen), hbackup, ← length_patch]
  exact Space.write_back m _ _

/-! ## Where it leads -/

/-- The distances that an operand of 32 bits tells. -/
theorem fits_x64 {d : BitVec 64} (h : d.toNat < 2 ^ 31 ∨ 2 ^ 64 - 2 ^ 31 ≤ d.toNat) :
    (d.setWidth 32).signExtend 64 = d := by
  refine BitVec.eq_of_toInt_eq ?_
  rw [BitVec.toInt_signExtend_of_le (by decide), BitVec.toInt_setWidth, BitVec.toInt_eq_toNat_cond,
    Int.bmod_def]
  split <;> omega

/-- The slot is in the reach of a jump from the function. -/
def InJumpRange (ct : TRAMPOLINE w) : Prop :=
  w = .x64 → ct.pTarget.toNat ≤ ct.pTrampoline.toNat + MAX_MEMORY_RANGE ∧
    ct.pTrampoline.toNat + MEMORY_SLOT_SIZE w ≤ ct.pTarget.toNat + MAX_MEMORY_RANGE + 1

theorem InJumpRange.fits {ct : TRAMPOLINE .x64} (h : InJumpRange ct) {k newPos : Nat}
    {d : HANDLE .x64}
    (hd : d = ct.pTrampoline + BitVec.ofNat _ newPos - (ct.pTarget + BitVec.ofNat _ k))
    (hk : k ≤ 5) (hnew : newPos ≤ MEMORY_SLOT_SIZE .x64) :
    (d.setWidth 32).signExtend PtrWidth.x64.bits = d := by
  obtain ⟨hbelow, habove⟩ := h rfl
  have hlt := ct.pTrampoline.isLt
  have hlt' := ct.pTarget.isLt
  have hdist : d.toNat < 2 ^ 31 ∨ 2 ^ 64 - 2 ^ 31 ≤ d.toNat := by
    rw [hd, BitVec.toNat_sub, BitVec.toNat_add, BitVec.toNat_add, BitVec.toNat_ofNat,
      BitVec.toNat_ofNat]
    simp only [MEMORY_SLOT_SIZE, MAX_MEMORY_RANGE, PtrWidth.bits] at *
    omega
  exact fits_x64 hdist

theorem pDetour_x64 (m : Space PtrWidth.x64.bits) (ct : TRAMPOLINE .x64) :
    (HOOK_ENTRY.ofTrampoline m ct).pDetour = ct.pRelay := rfl

theorem pDetour_x86 (m : Space PtrWidth.x86.bits) (ct : TRAMPOLINE .x86) :
    (HOOK_ENTRY.ofTrampoline m ct).pDetour = ct.pDetour := rfl

theorem pPatchTarget_above (m : Space w.bits) (h : ct.patchAbove = true) :
    (HOOK_ENTRY.ofTrampoline m ct).pPatchTarget = ct.pTarget - 5 := by
  unfold HOOK_ENTRY.pPatchTarget HOOK_ENTRY.ofTrampoline
  exact if_pos h

theorem pPatchTarget_here (m : Space w.bits) (h : ct.patchAbove = false) :
    (HOOK_ENTRY.ofTrampoline m ct).pPatchTarget = ct.pTarget := by
  unfold HOOK_ENTRY.pPatchTarget HOOK_ENTRY.ofTrampoline
  simp only
  rw [if_neg (by rw [h]; decide)]

theorem apart_target {b : HANDLE w} {n k l : Nat} (hap : Space.Apart (ct.pTarget - 5) n b l)
    (hk : 5 + k ≤ n) : Space.Apart ct.pTarget k b l := by
  have hshift := hap.shift hk
  have hback : ct.pTarget - 5 + BitVec.ofNat w.bits 5 = ct.pTarget := BitVec.sub_add_cancel _ _
  rwa [hback] at hshift

/-- Where the bytes are that are written. -/
theorem patch_apart {b : HANDLE w} {l : Nat} (hap : Space.Apart (ct.pTarget - 5) 12 b l)
    (hpTarget : pHook.pTarget = ct.pTarget) :
    Space.Apart pHook.pPatchTarget pHook.patchSize b l := by
  unfold HOOK_ENTRY.pPatchTarget HOOK_ENTRY.patchSize
  rw [hpTarget]
  split_ifs
  · exact hap.mono (by decide) (Nat.le_refl _)
  · exact apart_target hap (by decide)

theorem read_patch (m : Space w.bits) (pHook : HOOK_ENTRY w) :
    (m.write pHook.pPatchTarget pHook.patch).read pHook.pPatchTarget pHook.patchSize =
      pHook.patch := by
  have hle := patchSize_le pHook
  have hbits : 7 ≤ 2 ^ w.bits := by cases w <;> decide
  rw [← length_patch] at hle ⊢
  exact Space.read_write_same (Nat.le_trans hle hbits)

/-- What stands at the function: the long jump, and a short one to it if it is above. -/
theorem patch_parts (h : M.read pHook.pPatchTarget pHook.patchSize = pHook.patch) :
    M.read pHook.pPatchTarget 5 = 0xE9 :: rel32 pHook.pDetour (pHook.pPatchTarget + 5) ∧
      (pHook.patchAbove = true → M.read pHook.pTarget 2 = [0xEB, 0xF9]) := by
  have hlen : (0xE9 :: rel32 pHook.pDetour (pHook.pPatchTarget + 5)).length = 5 := by
    rw [List.length_cons, length_rel32]
  rw [← length_patch] at h
  unfold HOOK_ENTRY.patch at h
  rw [List.length_append, hlen, Space.read_add] at h
  obtain ⟨hjmp, hrest⟩ := List.append_inj h (by rw [Space.length_read, hlen])
  refine ⟨hjmp, fun habove => ?_⟩
  rw [pTarget_of_above habove, if_pos habove] at hrest
  exact hrest

/-- The long jump leads to where the hook says. -/
theorem flow_patch {oldEnd newEnd : Nat} (hcreated : Created m m' ct ct' oldEnd newEnd)
    (hrange : InJumpRange ct) (hM : M.read (HOOK_ENTRY.ofTrampoline m' ct').pPatchTarget 5 =
      0xE9 :: rel32 (HOOK_ENTRY.ofTrampoline m' ct').pDetour
        ((HOOK_ENTRY.ofTrampoline m' ct').pPatchTarget + 5)) :
    flow M (HOOK_ENTRY.ofTrampoline m' ct').pPatchTarget =
      [(none, some (HOOK_ENTRY.ofTrampoline m' ct').pDetour)] := by
  refine flow_jmp_rel hM ?_
  cases w with
  | x86 => exact fits_x86 _
  | x64 =>
    obtain ⟨-, -, hmax⟩ := hcreated.chain.start_le
    have hslot := max_le_slot .x64
    have hrelay := hcreated.pRelay
    rw [if_pos rfl] at hrelay
    rw [pDetour_x64, hrelay]
    cases habove : ct'.patchAbove with
    | true =>
      rw [pPatchTarget_above m' habove, hcreated.pTarget, BitVec.sub_add_cancel]
      exact hrange.fits (congrArg (_ - ·) (BitVec.add_zero ct.pTarget).symm) (Nat.zero_le 5)
        (by omega)
    | false =>
      rw [pPatchTarget_here m' habove, hcreated.pTarget]
      exact hrange.fits rfl (Nat.le_refl 5) (by omega)

/-- A call of the function gets to the detour, and nothing is seen before. -/
theorem quiet_detour {oldEnd newEnd : Nat} (hcreated : Created m m' ct ct' oldEnd newEnd)
    (hrange : InJumpRange ct)
    (hM : M.read (HOOK_ENTRY.ofTrampoline m' ct').pPatchTarget
      (HOOK_ENTRY.ofTrampoline m' ct').patchSize = (HOOK_ENTRY.ofTrampoline m' ct').patch)
    (hslot : M.read ct.pTrampoline (MEMORY_SLOT_SIZE w) =
      m'.read ct.pTrampoline (MEMORY_SLOT_SIZE w)) :
    Flow.Quiet (flow M) ct.pTarget ct.pDetour := by
  obtain ⟨hjmp, hshort⟩ := patch_parts hM
  have hlong := flow_patch hcreated hrange hjmp
  have hpatch : Flow.Quiet (flow M) ct.pTarget (HOOK_ENTRY.ofTrampoline m' ct').pPatchTarget := by
    rw [← hcreated.pTarget]
    cases habove : ct'.patchAbove with
    | true =>
      rw [pPatchTarget_above m' habove]
      exact .single (flow_jmp_short (hshort habove))
    | false =>
      rw [pPatchTarget_here m' habove]
      exact .refl _
  refine hpatch.trans (.step hlong ?_)
  cases w with
  | x86 =>
    rw [pDetour_x86, hcreated.pDetour]
    exact .refl _
  | x64 =>
    have hwritten := hcreated.relay rfl
    obtain ⟨-, -, hmax⟩ := hcreated.chain.start_le
    have hpRelay := hcreated.pRelay
    rw [if_pos rfl] at hpRelay
    have hlen := length_jmp_x64 ct'.pRelay ct.pDetour
    have hsame : M.read ct'.pRelay (jmp .x64 ct'.pRelay ct.pDetour).length =
        m'.read ct'.pRelay (jmp .x64 ct'.pRelay ct.pDetour).length := by
      rw [hlen, hpRelay]
      refine Space.read_part hslot ?_
      simp only [TRAMPOLINE_MAX_SIZE, MEMORY_SLOT_SIZE, sizeof_JMP_ABS] at hmax ⊢
      omega
    rw [pDetour_x64]
    exact .single (flow_jmp (hsame.trans hwritten))

/-! ## Threads that are moved -/

theorem jmp_pos (w : PtrWidth) (a b : HANDLE w) : 0 < (jmp w a b).length := by
  cases w <;> exact Nat.succ_pos _

theorem call_pos (w : PtrWidth) (a b : HANDLE w) : 0 < (call w a b).length := by
  cases w <;> exact Nat.succ_pos _

theorem jcc_pos (w : PtrWidth) (c : UInt8) (a b : HANDLE w) : 0 < (jcc w c a b).length := by
  cases w <;> exact Nat.succ_pos _

theorem withDisp_pos (hs : HDE) (inst : List UInt8) {disp : List UInt8} (h : disp.length = 4) :
    0 < (hs.withDisp inst disp).length := by
  unfold HDE.withDisp
  rw [List.length_append, List.length_append, h]
  omega

/-- No piece is empty. -/
theorem piece_pos {pTarget : HANDLE w} {oldPos : Nat} {pNewInst jmpDest : HANDLE w} {hs : HDE}
    {p : CopySrc w} (hlen : 0 < hs.len) (h : piece pTarget m oldPos pNewInst jmpDest hs = some p) :
    0 < p.bytes.length := by
  have hinst : 0 < (m.read (pTarget + BitVec.ofNat w.bits oldPos) hs.len).length := by
    rw [Space.length_read]
    exact hlen
  unfold piece at h
  simp only at h
  split_ifs at h
  all_goals cases h
  all_goals first
    | exact hinst
    | exact jmp_pos w _ _
    | exact call_pos w _ _
    | exact jcc_pos w _ _ _
    | exact withDisp_pos hs _ (length_rel32 _ _)

/-- The pairs that are recorded go up on both sides. -/
theorem Chain.increasing {jmpDest : HANDLE w} {oldPos newPos oldEnd newEnd : Nat}
    {ips : List (Nat × Nat)} (h : Chain ct m m' jmpDest oldPos newPos ips oldEnd newEnd)
    (hold : oldPos ≤ 19) : ips.Pairwise fun i j => i.1 < j.1 ∧ i.2 < j.2 := by
  induction h with
  | last h hp => exact List.pairwise_singleton _ _
  | @more _ oldPos newPos _ _ p ips h hp hrest ih =>
    have hbefore := h.before hp
    have hle := len_le m (ct.pOldInst oldPos)
    have hpos := len_pos m (ct.pOldInst oldPos)
    have hbytes := piece_pos hpos h.made
    simp only [sizeof_JMP_REL] at hbefore
    refine List.pairwise_cons.mpr ⟨fun ip hip => ?_, ih (by omega)⟩
    have hbounds := hrest.bounds (by omega) hip
    omega

/-- A pair that is found by one of its sides is the only one with it. -/
theorem find_pair {ips : List (Nat × Nat)} {ip : Nat × Nat} {ok : Nat × Nat → Bool}
    (hips : ips.Pairwise fun i j => i.1 < j.1 ∧ i.2 < j.2) (hip : ip ∈ ips) (hok : ok ip = true)
    (hsame : ∀ i ∈ ips, ok i = true → i.1 = ip.1 ∨ i.2 = ip.2) : ips.find? ok = some ip := by
  cases hfind : ips.find? ok with
  | none => exact absurd hok (List.find?_eq_none.mp hfind ip hip)
  | some i =>
    have hi := List.mem_of_find?_eq_some hfind
    have hold : (ips.map fun i => i.1).Nodup :=
      List.pairwise_map.mpr (hips.imp fun hlt => Nat.ne_of_lt hlt.1)
    have hnew : (ips.map fun i => i.2).Nodup :=
      List.pairwise_map.mpr (hips.imp fun hlt => Nat.ne_of_lt hlt.2)
    rcases hsame i hi (List.find?_some hfind) with heq | heq
    · rw [List.inj_on_of_nodup_map hold hi hip heq]
    · rw [List.inj_on_of_nodup_map hnew hi hip heq]

section
variable {oldEnd newEnd : Nat} (hchain : Chain ct m M 0 0 0 ct.ips oldEnd newEnd)
  (hwrap : ct.NoWrap) (htarget : pHook.pTarget = ct.pTarget)
  (htrampoline : pHook.pTrampoline = ct.pTrampoline) (hips : pHook.ips = ct.ips)
  {ip : Nat × Nat} (hip : ip ∈ ct.ips)
include hchain hwrap htarget htrampoline hips hip

theorem FindNewIP_recorded : FindNewIP pHook (ct.pOldInst ip.1) = ct.pNewInst ip.2 := by
  unfold FindNewIP
  rw [hips, htarget, htrampoline]
  have hfind : ct.ips.find? (fun i => ct.pOldInst ip.1 == ct.pTarget + BitVec.ofNat w.bits i.1) =
      some ip := by
    refine find_pair (hchain.increasing (Nat.zero_le _)) hip (beq_iff_eq.mpr rfl) fun i hi heq => ?_
    exact .inl (pOldInst_inj hwrap (hchain.bounds (Nat.zero_le _) hi).2.1
      (hchain.bounds (Nat.zero_le _) hip).2.1 (beq_iff_eq.mp heq).symm)
  rw [hfind]
  rfl

theorem FindOldIP_recorded
    (hap : Space.Apart (ct.pTarget - 5) 39 ct.pTrampoline (MEMORY_SLOT_SIZE w)) :
    FindOldIP pHook (ct.pNewInst ip.2) = ct.pOldInst ip.1 := by
  have hroom (i : Nat × Nat) (hi : i ∈ ct.ips) : i.2 < MEMORY_SLOT_SIZE w := by
    obtain ⟨_, p, hplaced, -⟩ := hchain.placed hwrap (Nat.zero_le _) hi
    have hmax := hplaced.room
    have hslot := max_le_slot w
    have hpos := piece_pos (len_pos m (ct.pOldInst i.1)) hplaced.made
    omega
  have hsize : MEMORY_SLOT_SIZE w < 2 ^ w.bits := by cases w <;> decide
  have hoff (i : Nat × Nat) (hi : i ∈ ct.ips) : (ct.pNewInst i.2 - ct.pTrampoline).toNat = i.2 :=
    Space.offset_eq (Nat.lt_trans (hroom i hi) hsize)
  have hslot : ct.pNewInst ip.2 ≠ ct.pTarget - 5 := by
    intro heq
    have hout := hap 0 (by decide)
    have hzero : ct.pTarget - 5 + BitVec.ofNat w.bits 0 = ct.pTarget - 5 := BitVec.add_zero _
    rw [hzero, ← heq, hoff ip hip] at hout
    exact absurd (hroom ip hip) (Nat.not_lt.mpr hout)
  unfold FindOldIP
  rw [hips, htarget, htrampoline]
  have habove : ¬ (pHook.patchAbove && ct.pNewInst ip.2 == ct.pTarget - 5) = true := by
    rw [beq_false_of_ne hslot, Bool.and_false]
    exact Bool.false_ne_true
  rw [if_neg habove]
  have hfind : ct.ips.find?
      (fun i => ct.pNewInst ip.2 == ct.pTrampoline + BitVec.ofNat w.bits i.2) = some ip := by
    refine find_pair (hchain.increasing (Nat.zero_le _)) hip (beq_iff_eq.mpr rfl) fun i hi heq => ?_
    have hsame : ct.pNewInst ip.2 = ct.pNewInst i.2 := beq_iff_eq.mp heq
    rw [← hoff i hi, ← hoff ip hip, hsame]
    exact .inr rfl
  rw [hfind]
  rfl

end

/-- A function that is hooked: each call of it gets to its detour, unseen. Its trampoline does what
the function did, and so does each thread that was stopped in the bytes that are overwritten and
is moved to the trampoline; it can be moved back. When the hook is disabled, the memory is as it was
before. -/
theorem a_hooked_function_is_detoured {IsExecutableAddress : HANDLE w → Bool}
    (hcreate : CreateTrampolineFunction IsExecutableAddress m ct = (true, ct', m'))
    (hap : Space.Apart (ct.pTarget - 5) 39 ct.pTrampoline (MEMORY_SLOT_SIZE w))
    (hrange : InJumpRange ct)
    (henable : EnableHookLL VirtualProtect (.ofTrampoline m' ct') m' true = some (pHook, M)) :
    Flow.Quiet (flow M) ct.pTarget ct.pDetour ∧
    (∀ rest, Relocatable ct' m M rest → ∀ ip ∈ ct'.ips,
      FindNewIP pHook (ct'.pOldInst ip.1) = ct'.pNewInst ip.2 ∧
      FindOldIP pHook (ct'.pNewInst ip.2) = ct'.pOldInst ip.1 ∧
      (ip.1 < sizeof_JMP_REL → ∀ ls,
        (∀ e, Flow.Runs (flow m) (ct'.pOldInst ip.1) ls e →
          ∃ e', Flow.Runs (flow M) (ct'.pNewInst ip.2) ls e' ∧
            Flow.Ends (ct'.Follows M rest) e e') ∧
        ∀ e', Flow.Runs (flow M) (ct'.pNewInst ip.2) ls e' →
          ∃ e, Flow.Runs (flow m) (ct'.pOldInst ip.1) ls e ∧
            Flow.Ends (ct'.Follows M rest) e e')) ∧
    ct'.pOldInst 0 = ct.pTarget ∧ ct'.pNewInst 0 = ct.pTrampoline ∧ (0, 0) ∈ ct'.ips ∧
    ∀ pHook' m'', EnableHookLL VirtualProtect pHook M false = some (pHook', m'') → m'' = m' := by
  obtain ⟨oldEnd, newEnd, hcreated⟩ := create_chain hcreate (apart_target hap (by decide))
  obtain ⟨hpHook, hM⟩ := EnableHookLL_enable henable
  have hapart : Space.Apart (HOOK_ENTRY.ofTrampoline m' ct').pPatchTarget
      (HOOK_ENTRY.ofTrampoline m' ct').patchSize ct.pTrampoline (MEMORY_SLOT_SIZE w) :=
    patch_apart (hap.mono (by decide) (Nat.le_refl _)) hcreated.pTarget
  have hslot : M.read ct.pTrampoline (MEMORY_SLOT_SIZE w) =
      m'.read ct.pTrampoline (MEMORY_SLOT_SIZE w) := by
    rw [hM]
    rw [← length_patch] at hapart
    exact Space.read_write_apart hapart.symm
  have hchain := hcreated.chain_in hslot
  have hpatch := hM ▸ read_patch m' (.ofTrampoline m' ct')
  refine ⟨quiet_detour hcreated hrange hpatch hslot, fun rest hrel ip hip => ?_, ?_, ?_,
    hchain.start_mem, ?_⟩
  · subst hpHook
    refine ⟨FindNewIP_recorded hchain hrel.noWrap rfl rfl rfl hip,
      FindOldIP_recorded hchain hrel.noWrap rfl rfl rfl hip ?_, fun ho ls => ?_⟩
    · rw [hcreated.pTarget, hcreated.pTrampoline]
      exact hap
    · have hmatch := hrel.match_flow hchain
      have hstart : ct'.Follows M rest (ct'.pOldInst ip.1) (ct'.pNewInst ip.2) :=
        .of (.inl ⟨ip, hip, ho, rfl, rfl⟩)
      exact ⟨fun e hrun => hmatch.runs_forth hstart hrun,
        fun e hrun => hmatch.runs_back hstart hrun⟩
  · rw [← hcreated.pTarget]
    exact BitVec.add_zero _
  · rw [← hcreated.pTrampoline]
    exact BitVec.add_zero _
  · intro pHook' m'' hdisable
    exact EnableHookLL_back (backup_ofTrampoline m' ct') henable hdisable

end

def returnHook : HOOK_ENTRY .x86 := .ofTrampoline returnTrampoline.2.2 returnTrampoline.2.1

theorem returnHook_enable :
    EnableHookLL (fun _ _ => true) returnHook returnTrampoline.2.2 true =
      some ({ returnHook with isEnabled := true, queueEnable := true }, returnHooked) := by
  have habove : returnHook.patchAbove = false := by decide +kernel
  have htarget : returnHook.pPatchTarget = 0x1000 := by decide +kernel
  have hdetour : returnHook.pDetour = 0x3000 := by decide +kernel
  have hjmp : jmp .x86 0x1000 0x3000 = 0xE9 :: rel32 (0x3000 : HANDLE .x86) (0x1000 + 5) := by
    unfold jmp
    with_reducible rfl
  unfold EnableHookLL returnHooked
  rw [htarget, hjmp]
  simp only [Bool.not_true, Bool.false_eq_true, if_false, if_true]
  rw [hdetour, habove]
  simp only [Bool.false_eq_true, if_false]

theorem a_hooked_return_is_detoured :
    Flow.Quiet (flow returnHooked) (0x1000 : HANDLE .x86) 0x3000 ∧
    FindNewIP { returnHook with isEnabled := true, queueEnable := true } 0x1002 = 0x2002 := by
  have hparts : ∀ r : Bool × TRAMPOLINE .x86 × Space PtrWidth.x86.bits, r.1 = true →
      r = (true, r.2.1, r.2.2) := by
    rintro ⟨b, ct, m⟩ rfl
    rfl
  have hcreate := hparts returnTrampoline (by decide +kernel)
  have hall := a_hooked_function_is_detoured hcreate (by decide +kernel) (fun h => by cases h)
    returnHook_enable
  have hip : (2, 2) ∈ returnTrampoline.2.1.ips := by
    rw [returnTrampoline_ips]
    decide
  have hmoved := (hall.2.1 _ returnRelocatable _ hip).1
  have hold : returnTrampoline.2.1.pOldInst 2 = 0x1002 := returnTrampoline_pOldInst.2.1
  have hnew : returnTrampoline.2.1.pNewInst 2 = 0x2002 := by decide +kernel
  rw [hold, hnew] at hmoved
  exact ⟨hall.1, hmoved⟩

end RemotePrinter
