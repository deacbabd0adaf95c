-- The memory for trampolines: blocks of a page, which are divided into slots.
-- On x64 a block has to be near the function, so a place for it is looked for
-- below the function, and then above. What is held at any moment does not
-- overlap, and a block is held as long as one of its slots is.
import RemotePrinter.TrampolineChains

open Interactive

namespace RemotePrinter

/-- Size of each memory block. -/
def MEMORY_BLOCK_SIZE : Nat := 0x1000

/-- Max range for seeking a memory block. -/
def MAX_MEMORY_RANGE : Nat := 0x40000000

/-- The block at `pBlock`. The slots of `pFree` and the blocks of `g_pMemoryBlocks` are linked by
their `pNext` in the order of the lists. -/
structure MEMORY_BLOCK (w : PtrWidth) where
  pBlock : HANDLE w
  pFree : List (HANDLE w)
  usedCount : Nat := 0
  deriving DecidableEq

structure MEMORY_BASIC_INFORMATION (w : PtrWidth) where
  BaseAddress : HANDLE w
  AllocationBase : HANDLE w
  RegionSize : HANDLE w
  /-- `State == MEM_FREE`. -/
  free : Bool
  deriving DecidableEq

/-- The memory of the process as the system answers for it. `VirtualAlloc` of NULL takes any
place. -/
structure System (w : PtrWidth) where
  lpMinimumApplicationAddress : HANDLE w
  lpMaximumApplicationAddress : HANDLE w
  dwAllocationGranularity : HANDLE w
  VirtualQuery : HANDLE w → Option (MEMORY_BASIC_INFORMATION w)
  VirtualAlloc : HANDLE w → Option (HANDLE w)

/-! ## The functions -/

section
variable {w : PtrWidth}

/-- The loop of `FindPrevFreeRegion`, in so many turns at most. -/
def prevFree (sys : System w) (pMinAddr : HANDLE w) : Nat → HANDLE w → Option (HANDLE w)
  | 0, _ => none
  | n + 1, tryAddr =>
    if tryAddr < pMinAddr then none
    else
      match sys.VirtualQuery tryAddr with
      | none => none
      | some mbi =>
        if mbi.free then some tryAddr
        else if mbi.AllocationBase < sys.dwAllocationGranularity then none
        else prevFree sys pMinAddr n (mbi.AllocationBase - sys.dwAllocationGranularity)

/-- An address rounded down to the allocation granularity. -/
def roundDown (sys : System w) (a : HANDLE w) : HANDLE w := a - a % sys.dwAllocationGranularity

/-- Each turn is at a lower address, so there are no more turns than addresses. -/
def FindPrevFreeRegion (sys : System w) (pAddress pMinAddr : HANDLE w) : Option (HANDLE w) :=
  let tryAddr := roundDown sys pAddress - sys.dwAllocationGranularity
  prevFree sys pMinAddr (tryAddr.toNat + 1) tryAddr

def nextFree (sys : System w) (pMaxAddr : HANDLE w) : Nat → HANDLE w → Option (HANDLE w)
  | 0, _ => none
  | n + 1, tryAddr =>
    if pMaxAddr < tryAddr then none
    else
      match sys.VirtualQuery tryAddr with
      | none => none
      | some mbi =>
        if mbi.free then some tryAddr
        else
          nextFree sys pMaxAddr n
            (roundDown sys (mbi.BaseAddress + mbi.RegionSize + (sys.dwAllocationGranularity - 1)))

def FindNextFreeRegion (sys : System w) (pAddress pMaxAddr : HANDLE w) : Option (HANDLE w) :=
  nextFree sys pMaxAddr (pMaxAddr.toNat + 1) (roundDown sys pAddress + sys.dwAllocationGranularity)

def minAddr (sys : System w) (pOrigin : HANDLE w) : HANDLE w :=
  let range := BitVec.ofNat w.bits MAX_MEMORY_RANGE
  if range < pOrigin ∧ sys.lpMinimumApplicationAddress < pOrigin - range then pOrigin - range
  else sys.lpMinimumApplicationAddress

def maxAddr (sys : System w) (pOrigin : HANDLE w) : HANDLE w :=
  let above := pOrigin + BitVec.ofNat w.bits MAX_MEMORY_RANGE
  let top :=
    if above < sys.lpMaximumApplicationAddress then above else sys.lpMaximumApplicationAddress
  top - BitVec.ofNat w.bits (MEMORY_BLOCK_SIZE - 1)

/-- Alloc a new block above. -/
def allocPrev (sys : System w) (minAddr : HANDLE w) : Nat → HANDLE w → Option (HANDLE w)
  | 0, _ => none
  | n + 1, pAlloc =>
    if pAlloc < minAddr then none
    else
      match FindPrevFreeRegion sys pAlloc minAddr with
      | none => none
      | some pAlloc =>
        match sys.VirtualAlloc pAlloc with
        | some pBlock => some pBlock
        | none => allocPrev sys minAddr n pAlloc

/-- Alloc a new block below. -/
def allocNext (sys : System w) (maxAddr : HANDLE w) : Nat → HANDLE w → Option (HANDLE w)
  | 0, _ => none
  | n + 1, pAlloc =>
    if maxAddr < pAlloc then none
    else
      match FindNextFreeRegion sys pAlloc maxAddr with
      | none => none
      | some pAlloc =>
        match sys.VirtualAlloc pAlloc with
        | some pBlock => some pBlock
        | none => allocNext sys maxAddr n pAlloc

/-- In x86 mode, a memory block can be placed anywhere. -/
def newBlock (sys : System w) (pOrigin : HANDLE w) : Option (HANDLE w) :=
  if w = .x64 then
    (allocPrev sys (minAddr sys pOrigin) (pOrigin.toNat + 1) pOrigin).or
      (allocNext sys (maxAddr sys pOrigin) ((maxAddr sys pOrigin).toNat + 1) pOrigin)
  else sys.VirtualAlloc 0

/-- Build a linked list of all the slots. -/
def buildSlots (pBlock : HANDLE w) : Nat → HANDLE w → List (HANDLE w) → List (HANDLE w)
  | 0, _, pFree => pFree
  | n + 1, pSlot, pFree =>
    let next := pSlot + BitVec.ofNat w.bits (MEMORY_SLOT_SIZE w)
    if (next - pBlock).toNat ≤ MEMORY_BLOCK_SIZE - MEMORY_SLOT_SIZE w then
      buildSlots pBlock n next (pSlot :: pFree)
    else pSlot :: pFree

/-- The blocks too far are ignored. -/
def reachable (sys : System w) (pOrigin pBlock : HANDLE w) : Bool :=
  w != .x64 || (minAddr sys pOrigin ≤ pBlock && pBlock < maxAddr sys pOrigin)

/-- The loop over the registered blocks: the first one that can be used, in its place. -/
def registered (sys : System w) (pOrigin : HANDLE w) : List (MEMORY_BLOCK w) →
    Option (List (MEMORY_BLOCK w) × MEMORY_BLOCK w × List (MEMORY_BLOCK w))
  | [] => none
  | b :: rest =>
    if reachable sys pOrigin b.pBlock && !b.pFree.isEmpty then some ([], b, rest)
    else (registered sys pOrigin rest).map fun r => (b :: r.1, r.2)

def GetMemoryBlock (sys : System w) (pOrigin : HANDLE w) (g_pMemoryBlocks : List (MEMORY_BLOCK w)) :
    Option (List (MEMORY_BLOCK w) × MEMORY_BLOCK w × List (MEMORY_BLOCK w)) :=
  (registered sys pOrigin g_pMemoryBlocks).or
    ((newBlock sys pOrigin).map fun pBlock =>
      ([], { pBlock := pBlock
             pFree := buildSlots pBlock (MEMORY_BLOCK_SIZE / MEMORY_SLOT_SIZE w)
               (pBlock + BitVec.ofNat w.bits (MEMORY_SLOT_SIZE w)) [] }, g_pMemoryBlocks))

def AllocateBuffer (sys : System w) (pOrigin : HANDLE w) (g_pMemoryBlocks : List (MEMORY_BLOCK w)) :
    Option (HANDLE w) × List (MEMORY_BLOCK w) :=
  match GetMemoryBlock sys pOrigin g_pMemoryBlocks with
  | some (pre, { pBlock, pFree := pSlot :: pFree, usedCount }, post) =>
    (some pSlot, pre ++ ⟨pBlock, pFree, usedCount + 1⟩ :: post)
  | _ => (none, g_pMemoryBlocks)

/-- The block that an address is in. -/
def blockOf (pBuffer : HANDLE w) : HANDLE w :=
  pBuffer / BitVec.ofNat w.bits MEMORY_BLOCK_SIZE * BitVec.ofNat w.bits MEMORY_BLOCK_SIZE

def FreeBuffer (pBuffer : HANDLE w) : List (MEMORY_BLOCK w) → List (MEMORY_BLOCK w)
  | [] => []
  | b :: rest =>
    if b.pBlock = blockOf pBuffer then
      if b.usedCount - 1 = 0 then rest
      else { b with pFree := pBuffer :: b.pFree, usedCount := b.usedCount - 1 } :: rest
    else b :: FreeBuffer pBuffer rest

end

/-! ## The slots of a block -/

section
variable {w : PtrWidth}

/-- The slot with the number `k`. In the place of the first one is the block's head. -/
def slotAt (pBlock : HANDLE w) (k : Nat) : HANDLE w :=
  pBlock + BitVec.ofNat w.bits (k * MEMORY_SLOT_SIZE w)

/-- How many slots have room in a block, with its head. -/
def slotCount (w : PtrWidth) : Nat := MEMORY_BLOCK_SIZE / MEMORY_SLOT_SIZE w

/-- The list of free slots that a new block begins with. -/
def slotsOf (pBlock : HANDLE w) : List (HANDLE w) :=
  buildSlots pBlock (slotCount w) (pBlock + BitVec.ofNat w.bits (MEMORY_SLOT_SIZE w)) []

/-- `VirtualAlloc` gives whole pages. -/
def IsPage (a : HANDLE w) : Prop := a.toNat % MEMORY_BLOCK_SIZE = 0

theorem slotCount_mul (w : PtrWidth) : slotCount w * MEMORY_SLOT_SIZE w = MEMORY_BLOCK_SIZE := by
  cases w <;> rfl

theorem slot_end {k : Nat} (hk : k < slotCount w) :
    k * MEMORY_SLOT_SIZE w + MEMORY_SLOT_SIZE w ≤ MEMORY_BLOCK_SIZE := by
  rw [← slotCount_mul w, ← Nat.succ_mul]
  exact Nat.mul_le_mul_right _ hk

theorem slotSize_pos (w : PtrWidth) : 0 < MEMORY_SLOT_SIZE w := by cases w <;> decide

/-- A page does not go over the end of the addresses. -/
theorem IsPage.noWrap {a : HANDLE w} (h : IsPage a) : a.toNat + MEMORY_BLOCK_SIZE ≤ 2 ^ w.bits := by
  have hlt := a.isLt
  unfold IsPage MEMORY_BLOCK_SIZE at *
  cases w <;> simp only [PtrWidth.bits] at * <;> omega

theorem IsPage.toNat_slotAt {a : HANDLE w} (h : IsPage a) {k : Nat} (hk : k < slotCount w) :
    (slotAt a k).toNat = a.toNat + k * MEMORY_SLOT_SIZE w := by
  have hend := slot_end hk
  have hpos := slotSize_pos w
  have hwrap := h.noWrap
  unfold slotAt
  rw [BitVec.toNat_add, BitVec.toNat_ofNat, Nat.add_mod_mod, Nat.mod_eq_of_lt (by omega)]

theorem IsPage.slotAt_injective {a : HANDLE w} (h : IsPage a) {k l : Nat} (hk : k < slotCount w)
    (hl : l < slotCount w) (hkl : slotAt a k = slotAt a l) : k = l := by
  have hnat := congrArg BitVec.toNat hkl
  rw [h.toNat_slotAt hk, h.toNat_slotAt hl] at hnat
  exact Nat.mul_right_cancel (slotSize_pos w) (Nat.add_left_cancel hnat)

theorem IsPage.blockOf_slotAt {a : HANDLE w} (h : IsPage a) {k : Nat} (hk : k < slotCount w) :
    blockOf (slotAt a k) = a := by
  have hslot := h.toNat_slotAt hk
  have hend := slot_end hk
  have hpos := slotSize_pos w
  have hlt := a.isLt
  refine BitVec.eq_of_toNat_eq ?_
  unfold blockOf
  rw [BitVec.toNat_mul, BitVec.toNat_udiv, hslot, BitVec.toNat_ofNat]
  have hsize : MEMORY_BLOCK_SIZE % 2 ^ w.bits = MEMORY_BLOCK_SIZE := by cases w <;> decide
  have hdown : (a.toNat + k * MEMORY_SLOT_SIZE w) / MEMORY_BLOCK_SIZE * MEMORY_BLOCK_SIZE =
      a.toNat := by
    unfold IsPage MEMORY_BLOCK_SIZE at *
    omega
  rw [hsize, hdown, Nat.mod_eq_of_lt hlt]

/-- The loop that links the slots goes through all numbers that are left, and ends by itself. -/
theorem buildSlots_eq (pBlock : HANDLE w) {n k : Nat} {pFree : List (HANDLE w)}
    (hk : k < slotCount w) (hn : slotCount w - k ≤ n) :
    buildSlots pBlock n (slotAt pBlock k) pFree =
      ((List.range' k (slotCount w - k)).map (slotAt pBlock)).reverse ++ pFree := by
  induction n generalizing k pFree with
  | zero => omega
  | succ n ih =>
    have hend := slot_end hk
    have hpos := slotSize_pos w
    have hnext : slotAt pBlock k + BitVec.ofNat w.bits (MEMORY_SLOT_SIZE w) =
        slotAt pBlock (k + 1) := by
      unfold slotAt
      rw [Nat.succ_mul, BitVec.ofNat_add, BitVec.add_assoc]
    have hoff : (slotAt pBlock (k + 1) - pBlock).toNat = (k + 1) * MEMORY_SLOT_SIZE w := by
      refine Space.offset_eq ?_
      have hsize : MEMORY_BLOCK_SIZE < 2 ^ w.bits := by cases w <;> decide
      rw [Nat.succ_mul]
      omega
    have hrange : slotCount w - k = slotCount w - (k + 1) + 1 := by omega
    unfold buildSlots
    simp only [hnext, hoff]
    by_cases hlast : k + 1 < slotCount w
    · have hroom := slot_end hlast
      rw [if_pos (by omega), ih hlast (by omega), hrange, List.range'_succ, List.map_cons,
        List.reverse_cons, List.append_assoc, List.singleton_append]
    · have hfull : k + 1 = slotCount w := by omega
      have hno : ¬ (k + 1) * MEMORY_SLOT_SIZE w ≤ MEMORY_BLOCK_SIZE - MEMORY_SLOT_SIZE w := by
        rw [hfull, slotCount_mul]
        unfold MEMORY_BLOCK_SIZE at *
        omega
      rw [if_neg hno, hrange, hfull, Nat.sub_self]
      rfl

theorem slotsOf_eq (pBlock : HANDLE w) :
    slotsOf pBlock = ((List.range' 1 (slotCount w - 1)).map (slotAt pBlock)).reverse := by
  have hone : 1 < slotCount w := by cases w <;> decide
  have hfirst : pBlock + BitVec.ofNat w.bits (MEMORY_SLOT_SIZE w) = slotAt pBlock 1 := by
    unfold slotAt
    rw [Nat.one_mul]
  unfold slotsOf
  rw [hfirst, buildSlots_eq pBlock hone (Nat.sub_le _ _), List.append_nil]

theorem length_slotsOf (pBlock : HANDLE w) : (slotsOf pBlock).length = slotCount w - 1 := by
  rw [slotsOf_eq, List.length_reverse, List.length_map, List.length_range']

theorem mem_slotsOf {pBlock p : HANDLE w} :
    p ∈ slotsOf pBlock ↔ ∃ k, 0 < k ∧ k < slotCount w ∧ slotAt pBlock k = p := by
  have hone : 1 < slotCount w := by cases w <;> decide
  rw [slotsOf_eq, List.mem_reverse, List.mem_map]
  refine exists_congr fun k => ?_
  rw [List.mem_range'_1, and_assoc]
  exact and_congr_right fun hk => and_congr_left fun _ => by omega

theorem nodup_slotsOf {pBlock : HANDLE w} (h : IsPage pBlock) : (slotsOf pBlock).Nodup := by
  rw [slotsOf_eq, List.nodup_reverse]
  refine List.Nodup.map_on (fun k hk l hl hkl => ?_) List.nodup_range'
  rw [List.mem_range'_1] at hk hl
  exact h.slotAt_injective (by omega) (by omega) hkl

theorem blockOf_of_mem {pBlock p : HANDLE w} (h : IsPage pBlock) (hp : p ∈ slotsOf pBlock) :
    blockOf p = pBlock := by
  obtain ⟨k, _, hk, rfl⟩ := mem_slotsOf.mp hp
  exact h.blockOf_slotAt hk

/-- Two slots that are not the same have no address in common, be they of one block or of two. -/
theorem apart_of_ne {a b p q : HANDLE w} (ha : IsPage a) (hb : IsPage b) (hp : p ∈ slotsOf a)
    (hq : q ∈ slotsOf b) (hpq : p ≠ q) :
    Space.Apart p (MEMORY_SLOT_SIZE w) q (MEMORY_SLOT_SIZE w) := by
  obtain ⟨k, _, hk, rfl⟩ := mem_slotsOf.mp hp
  obtain ⟨l, _, hl, rfl⟩ := mem_slotsOf.mp hq
  have hne : (slotAt a k).toNat ≠ (slotAt b l).toNat := fun h => hpq (BitVec.eq_of_toNat_eq h)
  have hnat := ha.toNat_slotAt hk
  have hnat' := hb.toNat_slotAt hl
  have hlt := (slotAt a k).isLt
  have hlt' := (slotAt b l).isLt
  intro i hi
  rw [BitVec.toNat_sub, BitVec.toNat_add, BitVec.toNat_ofNat]
  unfold IsPage MEMORY_BLOCK_SIZE at *
  cases w <;> simp only [MEMORY_SLOT_SIZE, PtrWidth.bits] at * <;> omega

end

/-! ## What is held -/

section
variable {w : PtrWidth}

/-- The slots of a block among those that are held. -/
def heldIn (held : List (HANDLE w)) (pBlock : HANDLE w) : List (HANDLE w) :=
  held.filter fun p => blockOf p = pBlock

/-- The registered blocks share their slots out to the held ones and their own lists. -/
structure Listed (g_pMemoryBlocks : List (MEMORY_BLOCK w)) (held : List (HANDLE w)) : Prop where
  nodup : (g_pMemoryBlocks.map fun b => b.pBlock).Nodup
  page : ∀ b ∈ g_pMemoryBlocks, IsPage b.pBlock
  shared : ∀ b ∈ g_pMemoryBlocks, (b.pFree ++ heldIn held b.pBlock).Perm (slotsOf b.pBlock)
  counted : ∀ b ∈ g_pMemoryBlocks, b.usedCount = (heldIn held b.pBlock).length
  home : ∀ p ∈ held, ∃ b ∈ g_pMemoryBlocks, b.pBlock = blockOf p

/-- Between two calls, a block is registered only as long as one of its slots is held. -/
structure Buffers (g_pMemoryBlocks : List (MEMORY_BLOCK w)) (held : List (HANDLE w)) : Prop extends
    Listed g_pMemoryBlocks held where
  used : ∀ b ∈ g_pMemoryBlocks, 0 < b.usedCount

/-- The documented behaviour of `VirtualAlloc`: what it gives is a page that is not in use. -/
structure System.Grants (sys : System w) (g_pMemoryBlocks : List (MEMORY_BLOCK w)) : Prop where
  page : ∀ a p, sys.VirtualAlloc a = some p → IsPage p
  fresh : ∀ a p, sys.VirtualAlloc a = some p → ∀ b ∈ g_pMemoryBlocks, b.pBlock ≠ p

theorem heldIn_same {p q : HANDLE w} (h : blockOf p = q) (held : List (HANDLE w)) :
    heldIn (p :: held) q = p :: heldIn held q :=
  List.filter_cons_of_pos (decide_eq_true h)

theorem heldIn_other {p q : HANDLE w} (h : blockOf p ≠ q) (held : List (HANDLE w)) :
    heldIn (p :: held) q = heldIn held q :=
  List.filter_cons_of_neg (by simpa using h)

variable {b : MEMORY_BLOCK w} {g g' : List (MEMORY_BLOCK w)} {held held' : List (HANDLE w)}

/-- Neither the order of the blocks nor that of the held slots matters. -/
theorem Listed.perm (h : Listed g held) (hg : g.Perm g') (hheld : held.Perm held') :
    Listed g' held' where
  nodup := (hg.map _).nodup_iff.mp h.nodup
  page c hc := h.page c (hg.mem_iff.mpr hc)
  shared c hc := ((hheld.symm.filter _).append_left c.pFree).trans (h.shared c (hg.mem_iff.mpr hc))
  counted c hc := (h.counted c (hg.mem_iff.mpr hc)).trans (hheld.filter _).length_eq
  home p hp := by
    obtain ⟨c, hc, hcp⟩ := h.home p (hheld.mem_iff.mpr hp)
    exact ⟨c, hg.mem_iff.mp hc, hcp⟩

theorem Listed.ne_of_mem (h : Listed (b :: g) held) {c : MEMORY_BLOCK w} (hc : c ∈ g) :
    b.pBlock ≠ c.pBlock := fun hbc =>
  (List.nodup_cons.mp h.nodup).1 (List.mem_map.mpr ⟨c, hc, hbc.symm⟩)

/-- A new block, with all its slots free. -/
theorem Listed.add (h : Listed g held) {pBlock : HANDLE w} (hpage : IsPage pBlock)
    (hfresh : ∀ c ∈ g, c.pBlock ≠ pBlock) :
    Listed ({ pBlock := pBlock, pFree := slotsOf pBlock } :: g) held := by
  have hnone : heldIn held pBlock = [] := by
    refine List.filter_eq_nil_iff.mpr fun p hp hpb => ?_
    obtain ⟨c, hc, hcp⟩ := h.home p hp
    exact hfresh c hc (hcp.trans (of_decide_eq_true hpb))
  constructor
  · refine List.nodup_cons.mpr ⟨fun hmem => ?_, h.nodup⟩
    obtain ⟨c, hc, hcp⟩ := List.mem_map.mp hmem
    exact hfresh c hc hcp
  · exact List.forall_mem_cons.mpr ⟨hpage, h.page⟩
  · refine List.forall_mem_cons.mpr ⟨?_, h.shared⟩
    rw [hnone, List.append_nil]
  · refine List.forall_mem_cons.mpr ⟨?_, h.counted⟩
    rw [hnone]
    rfl
  · intro p hp
    obtain ⟨c, hc, hcp⟩ := h.home p hp
    exact ⟨c, List.mem_cons_of_mem _ hc, hcp⟩

/-- A slot goes from the list of its block to the one that asked for it. -/
theorem Listed.take (h : Listed (b :: g) held) {p : HANDLE w} {pFree : List (HANDLE w)}
    (hfree : b.pFree = p :: pFree) :
    Listed ({ b with pFree := pFree, usedCount := b.usedCount + 1 } :: g) (p :: held) := by
  obtain ⟨hb, hpages⟩ := List.forall_mem_cons.mp h.page
  obtain ⟨hshare, hshared⟩ := List.forall_mem_cons.mp h.shared
  obtain ⟨hcount, hcounted⟩ := List.forall_mem_cons.mp h.counted
  rw [hfree] at hshare
  have hp : blockOf p = b.pBlock := blockOf_of_mem hb (hshare.subset List.mem_cons_self)
  have hother (c : MEMORY_BLOCK w) (hc : c ∈ g) : blockOf p ≠ c.pBlock := hp ▸ h.ne_of_mem hc
  constructor
  · exact h.nodup
  · exact List.forall_mem_cons.mpr ⟨hb, hpages⟩
  · refine List.forall_mem_cons.mpr ⟨?_, fun c hc => ?_⟩
    · rw [heldIn_same hp]
      exact List.perm_middle.trans hshare
    · rw [heldIn_other (hother c hc)]
      exact hshared c hc
  · refine List.forall_mem_cons.mpr ⟨?_, fun c hc => ?_⟩
    · rw [heldIn_same hp, List.length_cons, hcount]
    · rw [heldIn_other (hother c hc)]
      exact hcounted c hc
  · refine List.forall_mem_cons.mpr ⟨⟨_, List.mem_cons_self, hp.symm⟩, fun q hq => ?_⟩
    obtain ⟨c, hc, hcq⟩ := h.home q hq
    rcases List.mem_cons.mp hc with rfl | hc
    · exact ⟨_, List.mem_cons_self, hcq⟩
    · exact ⟨c, List.mem_cons_of_mem _ hc, hcq⟩

/-- And back. -/
theorem Listed.give {p : HANDLE w} (h : Listed (b :: g) (p :: held)) (hp : b.pBlock = blockOf p) :
    Listed ({ b with pFree := p :: b.pFree, usedCount := b.usedCount - 1 } :: g) held := by
  obtain ⟨hshare, hshared⟩ := List.forall_mem_cons.mp h.shared
  obtain ⟨hcount, hcounted⟩ := List.forall_mem_cons.mp h.counted
  have hother (c : MEMORY_BLOCK w) (hc : c ∈ g) : blockOf p ≠ c.pBlock := hp ▸ h.ne_of_mem hc
  rw [heldIn_same hp.symm] at hshare hcount
  constructor
  · exact h.nodup
  · exact List.forall_mem_cons.mpr (List.forall_mem_cons.mp h.page)
  · refine List.forall_mem_cons.mpr ⟨List.perm_middle.symm.trans hshare, fun c hc => ?_⟩
    rw [← heldIn_other (hother c hc)]
    exact hshared c hc
  · refine List.forall_mem_cons.mpr ⟨?_, fun c hc => ?_⟩
    · rw [hcount, List.length_cons, Nat.add_sub_cancel]
    · rw [← heldIn_other (hother c hc)]
      exact hcounted c hc
  · intro q hq
    obtain ⟨c, hc, hcq⟩ := h.home q (List.mem_cons_of_mem _ hq)
    rcases List.mem_cons.mp hc with rfl | hc
    · exact ⟨_, List.mem_cons_self, hcq⟩
    · exact ⟨c, List.mem_cons_of_mem _ hc, hcq⟩

/-- A block that is not used can go. -/
theorem Listed.drop (h : Listed (b :: g) held) (hunused : b.usedCount = 0) : Listed g held where
  nodup := (List.nodup_cons.mp h.nodup).2
  page := (List.forall_mem_cons.mp h.page).2
  shared := (List.forall_mem_cons.mp h.shared).2
  counted := (List.forall_mem_cons.mp h.counted).2
  home p hp := by
    obtain ⟨c, hc, hcp⟩ := h.home p hp
    rcases List.mem_cons.mp hc with rfl | hc
    · have hcount := (h.counted _ List.mem_cons_self).symm.trans hunused
      have hnone := List.eq_nil_of_length_eq_zero hcount
      have hin : p ∈ heldIn held c.pBlock := List.mem_filter.mpr ⟨hp, decide_eq_true hcp.symm⟩
      rw [hnone] at hin
      cases hin
    · exact ⟨c, hc, hcp⟩

/-! ## The calls -/

variable {sys : System w} {pOrigin p : HANDLE w} {pre post : List (MEMORY_BLOCK w)}

theorem registered_split (h : registered sys pOrigin g = some (pre, b, post)) :
    g = pre ++ b :: post ∧ reachable sys pOrigin b.pBlock = true ∧ b.pFree ≠ [] := by
  induction g generalizing pre with
  | nil => cases h
  | cons c g ih =>
    unfold registered at h
    split at h
    · rename_i hc
      cases h
      obtain ⟨hreach, hfree⟩ := Bool.and_eq_true_iff.mp hc
      exact ⟨rfl, hreach, by simpa using hfree⟩
    · obtain ⟨⟨pre', b', post'⟩, hr, heq⟩ := Option.map_eq_some_iff.mp h
      cases heq
      obtain ⟨rfl, hb⟩ := ih hr
      exact ⟨rfl, hb⟩

theorem allocPrev_granted {minAddr : HANDLE w} {n : Nat} {a : HANDLE w}
    (h : allocPrev sys minAddr n a = some p) : ∃ pAlloc, sys.VirtualAlloc pAlloc = some p := by
  induction n generalizing a with
  | zero => cases h
  | succ n ih =>
    unfold allocPrev at h
    split at h
    · cases h
    split at h
    · cases h
    · rename_i pAlloc _
      cases hgot : sys.VirtualAlloc pAlloc with
      | some q =>
        rw [hgot] at h
        cases h
        exact ⟨pAlloc, hgot⟩
      | none =>
        rw [hgot] at h
        exact ih h

theorem allocNext_granted {maxAddr : HANDLE w} {n : Nat} {a : HANDLE w}
    (h : allocNext sys maxAddr n a = some p) : ∃ pAlloc, sys.VirtualAlloc pAlloc = some p := by
  induction n generalizing a with
  | zero => cases h
  | succ n ih =>
    unfold allocNext at h
    split at h
    · cases h
    split at h
    · cases h
    · rename_i pAlloc _
      cases hgot : sys.VirtualAlloc pAlloc with
      | some q =>
        rw [hgot] at h
        cases h
        exact ⟨pAlloc, hgot⟩
      | none =>
        rw [hgot] at h
        exact ih h

theorem newBlock_granted (h : newBlock sys pOrigin = some p) :
    ∃ pAlloc, sys.VirtualAlloc pAlloc = some p := by
  unfold newBlock at h
  split at h
  · rcases Option.or_eq_some_iff.mp h with h | ⟨_, h⟩
    · exact allocPrev_granted h
    · exact allocNext_granted h
  · exact ⟨0, h⟩

/-- The block that is found has a free slot, and only it may be without a held one. -/
theorem GetMemoryBlock_listed (hsys : sys.Grants g) (hg : Buffers g held)
    (h : GetMemoryBlock sys pOrigin g = some (pre, b, post)) :
    Listed (b :: (pre ++ post)) held ∧ ∀ c ∈ pre ++ post, 0 < c.usedCount := by
  unfold GetMemoryBlock at h
  rcases Option.or_eq_some_iff.mp h with h | ⟨_, h⟩
  · obtain ⟨rfl, _⟩ := registered_split h
    refine ⟨hg.perm List.perm_middle (.refl _), fun c hc => hg.used c ?_⟩
    exact List.perm_middle.mem_iff.mpr (List.mem_cons_of_mem _ hc)
  · obtain ⟨pBlock, hnew, heq⟩ := Option.map_eq_some_iff.mp h
    obtain ⟨pAlloc, hgot⟩ := newBlock_granted hnew
    cases heq
    exact ⟨hg.add (hsys.page _ _ hgot) (hsys.fresh _ _ hgot), hg.used⟩

theorem AllocateBuffer_some (h : AllocateBuffer sys pOrigin g = (some p, g')) :
    ∃ pre b post pFree, GetMemoryBlock sys pOrigin g = some (pre, b, post) ∧ b.pFree = p :: pFree ∧
      g' = pre ++ { b with pFree := pFree, usedCount := b.usedCount + 1 } :: post := by
  unfold AllocateBuffer at h
  split at h
  · rename_i hblock
    cases h
    exact ⟨_, _, _, _, hblock, rfl, rfl⟩
  · cases h

theorem AllocateBuffer_buffers (hsys : sys.Grants g) (hg : Buffers g held)
    (h : AllocateBuffer sys pOrigin g = (some p, g')) : Buffers g' (p :: held) := by
  obtain ⟨pre, b, post, pFree, hblock, hfree, rfl⟩ := AllocateBuffer_some h
  obtain ⟨hlisted, hused⟩ := GetMemoryBlock_listed hsys hg hblock
  refine ⟨(hlisted.take hfree).perm List.perm_middle.symm (.refl _), fun c hc => ?_⟩
  rcases List.mem_cons.mp (List.perm_middle.mem_iff.mp hc) with rfl | hc
  · exact Nat.succ_pos _
  · exact hused c hc

theorem AllocateBuffer_none (h : AllocateBuffer sys pOrigin g = (none, g')) : g' = g := by
  unfold AllocateBuffer at h
  split at h
  · cases h
  · exact (congrArg Prod.snd h).symm

theorem FreeBuffer_eq (hpre : ∀ c ∈ pre, c.pBlock ≠ blockOf p) (hb : b.pBlock = blockOf p) :
    FreeBuffer p (pre ++ b :: post) =
      pre ++ if b.usedCount - 1 = 0 then post
        else { b with pFree := p :: b.pFree, usedCount := b.usedCount - 1 } :: post := by
  induction pre with
  | nil => exact if_pos hb
  | cons c pre ih =>
    obtain ⟨hc, hpre⟩ := List.forall_mem_cons.mp hpre
    exact (if_neg hc).trans (congrArg (c :: ·) (ih hpre))

theorem FreeBuffer_buffers (hg : Buffers g (p :: held)) : Buffers (FreeBuffer p g) held := by
  obtain ⟨b, hb, hbp⟩ := hg.home p List.mem_cons_self
  obtain ⟨pre, post, rfl⟩ := List.append_of_mem hb
  have hmiddle : (pre ++ b :: post).Perm (b :: (pre ++ post)) := List.perm_middle
  have hlisted := hg.perm hmiddle (.refl _)
  have hpre (c : MEMORY_BLOCK w) (hc : c ∈ pre) : c.pBlock ≠ blockOf p :=
    hbp ▸ (hlisted.ne_of_mem (List.mem_append_left _ hc)).symm
  have hothers (c : MEMORY_BLOCK w) (hc : c ∈ pre ++ post) : 0 < c.usedCount :=
    hg.used c (List.perm_middle.mem_iff.mpr (List.mem_cons_of_mem _ hc))
  have hgiven := hlisted.give hbp
  rw [FreeBuffer_eq hpre hbp]
  by_cases hlast : b.usedCount - 1 = 0
  · rw [if_pos hlast]
    exact ⟨hgiven.drop hlast, hothers⟩
  · rw [if_neg hlast]
    refine ⟨hgiven.perm List.perm_middle.symm (.refl _), fun c hc => ?_⟩
    rcases List.mem_cons.mp (List.perm_middle.mem_iff.mp hc) with rfl | hc
    · exact Nat.pos_of_ne_zero hlast
    · exact hothers c hc

/-! ## Runs -/

/-- The blocks, and the slots that were allocated and are not freed yet. -/
structure SlotState (w : PtrWidth) where
  g_pMemoryBlocks : List (MEMORY_BLOCK w) := []
  held : List (HANDLE w) := []

/-- A call of one of the two functions. The rest of the process allocates too, so each call may
find another map of the memory. Only a held slot is freed. -/
inductive SlotStep : SlotState w → SlotState w → Prop where
  | allocate {s : SlotState w} {sys pOrigin p g} (hsys : sys.Grants s.g_pMemoryBlocks)
      (h : AllocateBuffer sys pOrigin s.g_pMemoryBlocks = (some p, g)) : SlotStep s ⟨g, p :: s.held⟩
  | full {s : SlotState w} {sys pOrigin g}
      (h : AllocateBuffer sys pOrigin s.g_pMemoryBlocks = (none, g)) : SlotStep s ⟨g, s.held⟩
  | free {s : SlotState w} {p held} (h : s.held.Perm (p :: held)) :
      SlotStep s ⟨FreeBuffer p s.g_pMemoryBlocks, held⟩

theorem Buffers.step {s s' : SlotState w} (h : Buffers s.g_pMemoryBlocks s.held)
    (hstep : SlotStep s s') : Buffers s'.g_pMemoryBlocks s'.held := by
  cases hstep with
  | allocate hsys hcall => exact AllocateBuffer_buffers hsys h hcall
  | full hcall => exact AllocateBuffer_none hcall ▸ h
  | free hperm => exact FreeBuffer_buffers ⟨h.perm (.refl _) hperm, h.used⟩

theorem buffers_nil : Buffers ([] : List (MEMORY_BLOCK w)) [] where
  nodup := List.nodup_nil
  page _ hb := absurd hb List.not_mem_nil
  shared _ hb := absurd hb List.not_mem_nil
  counted _ hb := absurd hb List.not_mem_nil
  home _ hp := absurd hp List.not_mem_nil
  used _ hb := absurd hb List.not_mem_nil

theorem buffers_run {s : SlotState w} (h : Relation.ReflTransGen SlotStep {} s) :
    Buffers s.g_pMemoryBlocks s.held := by
  induction h with
  | refl => exact buffers_nil
  | tail _ hstep ih => exact ih.step hstep

theorem Listed.mem_slotsOf_held (h : Listed g held) {p : HANDLE w} (hp : p ∈ held) :
    ∃ b ∈ g, p ∈ slotsOf b.pBlock := by
  obtain ⟨b, hb, hbp⟩ := h.home p hp
  have hin : p ∈ heldIn held b.pBlock := List.mem_filter.mpr ⟨hp, decide_eq_true hbp.symm⟩
  exact ⟨b, hb, (h.shared b hb).subset (List.mem_append_right _ hin)⟩

/-- No slot is given out twice. -/
theorem Listed.nodup_held (h : Listed g held) : held.Nodup := by
  refine List.nodup_iff_count_le_one.mpr fun p => ?_
  by_cases hp : p ∈ held
  · obtain ⟨b, hb, hbp⟩ := h.home p hp
    have hall : (b.pFree ++ heldIn held b.pBlock).Nodup :=
      (h.shared b hb).nodup_iff.mpr (nodup_slotsOf (h.page b hb))
    have hcount : (heldIn held b.pBlock).count p = held.count p :=
      List.count_filter (decide_eq_true hbp.symm)
    rw [← hcount]
    exact List.nodup_iff_count_le_one.mp (List.nodup_append.mp hall).2.1 p
  · rw [List.count_eq_zero.mpr hp]
    exact Nat.zero_le _

/-- A slot that is not held is not the part of one that is. -/
theorem Listed.free_apart (h : Listed g held) (hb : b ∈ g) {p q : HANDLE w} (hp : p ∈ b.pFree)
    (hq : q ∈ held) : Space.Apart p (MEMORY_SLOT_SIZE w) q (MEMORY_SLOT_SIZE w) := by
  obtain ⟨c, hc, hqc⟩ := h.mem_slotsOf_held hq
  have hslot : p ∈ slotsOf b.pBlock := (h.shared b hb).subset (List.mem_append_left _ hp)
  refine apart_of_ne (h.page b hb) (h.page c hc) hslot hqc fun hpq => ?_
  have hall : (b.pFree ++ heldIn held b.pBlock).Nodup :=
    (h.shared b hb).nodup_iff.mpr (nodup_slotsOf (h.page b hb))
  have hin : q ∈ heldIn held b.pBlock :=
    List.mem_filter.mpr ⟨hq, decide_eq_true (blockOf_of_mem (h.page b hb) (hpq ▸ hslot))⟩
  exact (List.nodup_append.mp hall).2.2 p hp q hin hpq

theorem Listed.held_apart (h : Listed g held) :
    held.Pairwise fun p q => Space.Apart p (MEMORY_SLOT_SIZE w) q (MEMORY_SLOT_SIZE w) := by
  refine List.Pairwise.imp_of_mem (fun {p q} hp hq hpq => ?_) h.nodup_held
  obtain ⟨b, hb, hpb⟩ := h.mem_slotsOf_held hp
  obtain ⟨c, hc, hqc⟩ := h.mem_slotsOf_held hq
  exact apart_of_ne (h.page b hb) (h.page c hc) hpb hqc hpq

/-- Whatever hooks are created and removed, and in whatever order: the slots that are held do not
overlap each other nor a free one, they are in registered blocks behind the block's head, and a
block is registered just as long as a slot of it is held, with every other slot in its list. -/
theorem held_slots_never_overlap {s : SlotState w}
    (h : Relation.ReflTransGen SlotStep {} s) :
    s.held.Pairwise (fun p q => Space.Apart p (MEMORY_SLOT_SIZE w) q (MEMORY_SLOT_SIZE w)) ∧
    (∀ p ∈ s.held, ∃ b ∈ s.g_pMemoryBlocks, ∃ k, 0 < k ∧ k < slotCount w ∧
      slotAt b.pBlock k = p) ∧
    ∀ b ∈ s.g_pMemoryBlocks,
      (∀ p ∈ b.pFree, ∀ q ∈ s.held,
        Space.Apart p (MEMORY_SLOT_SIZE w) q (MEMORY_SLOT_SIZE w)) ∧
      b.usedCount = (heldIn s.held b.pBlock).length ∧ 0 < b.usedCount ∧
      b.pFree.length + b.usedCount = slotCount w - 1 := by
  have hs := buffers_run h
  refine ⟨hs.held_apart, fun p hp => ?_, fun b hb => ?_⟩
  · obtain ⟨b, hb, hpb⟩ := hs.mem_slotsOf_held hp
    exact ⟨b, hb, mem_slotsOf.mp hpb⟩
  · refine ⟨fun p hp q hq => hs.free_apart hb hp hq, hs.counted b hb, hs.used b hb, ?_⟩
    rw [hs.counted b hb, ← List.length_append, (hs.shared b hb).length_eq, length_slotsOf]

end

/-- A system that has one page left. -/
def lastPage : System .x86 where
  lpMinimumApplicationAddress := 0x10000
  lpMaximumApplicationAddress := 0x7FFEFFFF
  dwAllocationGranularity := 0x10000
  VirtualQuery _ := none
  VirtualAlloc _ := some 0x50000

theorem lastPage_grants : lastPage.Grants [] where
  page a p hgot := by
    cases hgot
    unfold IsPage
    decide
  fresh _ _ _ _ hb := absurd hb List.not_mem_nil

def noPage : System .x86 := { lastPage with VirtualAlloc := fun _ => none }

theorem noPage_grants (g : List (MEMORY_BLOCK .x86)) : noPage.Grants g where
  page _ _ hgot := nomatch hgot
  fresh _ _ hgot := nomatch hgot

def oneSlot : Option (HANDLE .x86) × List (MEMORY_BLOCK .x86) := AllocateBuffer lastPage 0x401000 []

/-- There is no page left, but a slot. -/
def twoSlots : Option (HANDLE .x86) × List (MEMORY_BLOCK .x86) :=
  AllocateBuffer noPage 0x402000 oneSlot.2

theorem oneSlot_eq : oneSlot = (some 0x50FE0, oneSlot.2) :=
  Prod.ext (by decide +kernel) rfl

theorem twoSlots_eq : twoSlots = (some 0x50FC0, twoSlots.2) :=
  Prod.ext (by decide +kernel) rfl

theorem two_functions_share_a_page :
    Relation.ReflTransGen SlotStep {} ⟨twoSlots.2, [0x50FC0, 0x50FE0]⟩ ∧
    Space.Apart (0x50FC0 : HANDLE .x86) 32 0x50FE0 32 := by
  have hfirst : SlotStep {} ⟨oneSlot.2, [0x50FE0]⟩ := .allocate lastPage_grants oneSlot_eq
  have hsecond : SlotStep ⟨oneSlot.2, [0x50FE0]⟩ ⟨twoSlots.2, [0x50FC0, 0x50FE0]⟩ :=
    .allocate (noPage_grants _) twoSlots_eq
  have hrun := (Relation.ReflTransGen.single hfirst).tail hsecond
  have happart := (held_slots_never_overlap hrun).1
  exact ⟨hrun, (List.pairwise_cons.mp happart).1 _ List.mem_cons_self⟩

end RemotePrinter
