-- What the instructions of x86 and x64 do to the flow of control, told by the
-- disassembler. A run of code is seen as the instructions that it carries
-- out, the functions it calls and the conditions it finds.
import RemotePrinter.Flows
import RemotePrinter.Trampolines

open Interactive

namespace RemotePrinter

open HDE

/-- What can be seen of an instruction: its bytes without a displacement that is relative to it,
with the address in memory that the displacement stands for; the function that it calls; whether
the condition of one of the eight pairs of conditions holds; and whether a `LOOP` jumps. -/
inductive Label (w : PtrWidth) where
  | exec (inst : List UInt8) (ea : Option (HANDLE w))
  | call (dest : HANDLE w)
  | flag (pair : UInt8) (holds : Bool)
  | count (inst : List UInt8) (jumps : Bool)
  deriving DecidableEq

section
variable {w : PtrWidth}

/-- The pointer that stands at an address. -/
def pointer (m : Space w.bits) (a : HANDLE w) : HANDLE w :=
  BitVec.ofNat w.bits (ByteMemory.leNat (m.read a w.bytes))

/-- How control goes on from an instruction. -/
inductive Transfer where
  | invalid
  | jump32
  | jump8
  | jumpIf32 (cond : UInt8)
  | jumpIf8 (cond : UInt8)
  | loop8
  | call32
  /-- The pointer stands in memory relative to the instruction. -/
  | jumpThrough
  | callThrough
  | execAt
  | exec
  deriving DecidableEq

/-- There is no way on from what is no instruction, nor from a jump with an operand of 16 bits,
which does not occur in this code. An operand relative to the instruction pointer has a
displacement of 32 bits. -/
def transfer (w : PtrWidth) (flags : Flags) (opcode opcode2 modrm modrm_reg : UInt8) : Transfer :=
  if flags &&& F_ERROR ≠ 0 ∨ flags &&& F_RELATIVE w ≠ 0 ∧ flags &&& F_IMM16 ≠ 0 then .invalid
  else if w = .x64 ∧ modrm &&& 0xC7 = 0x05 ∧ flags &&& F_DISP32 w ≠ 0 then
    if opcode = 0xFF ∧ modrm_reg = 4 then .jumpThrough
    else if opcode = 0xFF ∧ modrm_reg = 2 then .callThrough
    else .execAt
  else if opcode = 0xE8 then .call32
  else if opcode = 0xE9 then .jump32
  else if opcode = 0xEB then .jump8
  else if opcode &&& 0xF0 = 0x70 then .jumpIf8 (opcode &&& 0x0F)
  else if opcode = 0x0F ∧ opcode2 &&& 0xF0 = 0x80 then .jumpIf32 (opcode2 &&& 0x0F)
  else if opcode &&& 0xFC = 0xE0 then .loop8
  else .exec

/-- The instructions behind which control does not go on: returns, a jump to another segment, and
the other forms of a jump through memory or a register. -/
def leaves (opcode modrm_reg : UInt8) : Bool :=
  opcode == 0xC2 || opcode == 0xC3 || opcode == 0xCA || opcode == 0xCB || opcode == 0xCF ||
    opcode == 0xEA || opcode == 0xFF && (modrm_reg == 4 || modrm_reg == 5)

def HDE.transfer (w : PtrWidth) (hs : HDE) : Transfer :=
  RemotePrinter.transfer w hs.flags hs.opcode hs.opcode2 hs.modrm hs.modrm_reg

/-- The two ways on from a conditional jump. The odd conditions are the negations of the even. -/
def jumpIf (cond : UInt8) (dest next : HANDLE w) : List (Option (Label w) × Option (HANDLE w)) :=
  [(some (.flag (cond >>> 1) (cond &&& 1 == 0)), some dest),
    (some (.flag (cond >>> 1) (cond &&& 1 != 0)), some next)]

/-- The ways on from an instruction. -/
def HDE.ways (m : Space w.bits) (ip : HANDLE w) (hs : HDE) :
    List (Option (Label w) × Option (HANDLE w)) :=
  let inst := m.read ip hs.len
  let next := ip + BitVec.ofNat w.bits hs.len
  let ea := next + int32 w hs.disp
  let behind := if leaves hs.opcode hs.modrm_reg then none else some next
  match hs.transfer w with
  | .invalid => []
  | .jump32 => [(none, some (next + int32 w hs.imm))]
  | .jump8 => [(none, some (next + int8 w hs.imm))]
  | .jumpIf32 cond => jumpIf cond (next + int32 w hs.imm) next
  | .jumpIf8 cond => jumpIf cond (next + int8 w hs.imm) next
  | .loop8 =>
    [(some (.count inst true), some (next + int8 w hs.imm)), (some (.count inst false), some next)]
  | .call32 => [(some (.call (next + int32 w hs.imm)), some next)]
  | .jumpThrough => [(none, some (pointer m ea))]
  | .callThrough => [(some (.call (pointer m ea)), some next)]
  | .execAt => [(some (.exec (hs.withDisp inst [0, 0, 0, 0]) (some ea)), behind)]
  | .exec => [(some (.exec inst none), behind)]

/-- The flow of control of the code in a memory. -/
def flow (m : Space w.bits) : Flow (HANDLE w) (Label w) := fun ip => (HDE_DISASM m ip).ways m ip

end

/-! ## The jumps that MinHook writes -/

/-- An instruction of at most 15 bytes, wherever it stands. -/
theorem HDE_DISASM_of_decodes {w : PtrWidth} {m : Space w.bits} {a : HANDLE w} {b : List UInt8}
    {hs : HDE} (h : (scan w).Decodes b hs) (hb : m.read a b.length = b) (hlen : b.length ≤ 15) :
    HDE_DISASM m a = { hs with len := b.length } := by
  unfold HDE_DISASM
  rw [Prog.fetch_of_decodes h hb]
  exact if_neg (by omega)

theorem decodes_number {k : Nat} {b : List UInt8} (hb : b.length = k) :
    (number k).Decodes b (ByteMemory.leNat b) := by
  subst hb
  exact (Prog.Decodes.perform b).map

/-- An instruction that is a head and a relative operand of 32 bits. -/
theorem decodes_rel32 {w : PtrWidth} {bs b : List UInt8} {v : Vars}
    (hhead : (head w).takes bs = some v) (hmodrm : v.cflags &&& C_MODRM = 0)
    (hrel : immediates w v.cflags v.pref v.op64 v.hs = immediate 4 (F_IMM32 ||| F_RELATIVE w) v.hs)
    (hb : b.length = 4) :
    (scan w).Decodes (bs ++ b) { v.hs with
      flags := v.hs.flags ||| (F_IMM32 ||| F_RELATIVE w)
      imm := stored 4 v.hs.imm (ByteMemory.leNat b) } := by
  unfold scan
  refine (Prog.Decodes.of_takes hhead).bind ?_
  rw [if_neg (not_not_intro hmodrm), Prog.pure_eq, Prog.done_bind]
  change (immediates w v.cflags v.pref v.op64 v.hs).Decodes b _
  rw [hrel]
  exact (decodes_number hb).map

theorem length_bytesOf {n : Nat} (k : Nat) (v : BitVec n) : (bytesOf k v).length = k :=
  ByteMemory.length_leBytes k v.toNat

theorem length_rel32 {n : Nat} (dest next : BitVec n) : (rel32 dest next).length = 4 :=
  length_bytesOf 4 _

theorem leNat_bytesOf {n k : Nat} (v : BitVec n) (h : 2 ^ n ≤ 256 ^ k) :
    ByteMemory.leNat (bytesOf k v) = v.toNat := by
  unfold bytesOf
  rw [ByteMemory.leNat_leBytes, Nat.mod_eq_of_lt (Nat.lt_of_lt_of_le v.isLt h)]

/-- A distance that is written with 32 bits and fits in them. -/
theorem int32_rel32 {w : PtrWidth} {dest next : HANDLE w}
    (h : ((dest - next).setWidth 32).signExtend w.bits = dest - next) :
    next + int32 w (ByteMemory.leNat (rel32 dest next)) = dest := by
  unfold int32 rel32
  rw [leNat_bytesOf _ (by decide), BitVec.ofNat_toNat, BitVec.setWidth_eq, h, BitVec.add_comm,
    BitVec.sub_add_cancel]

theorem signExtend_setWidth (d : BitVec 32) : (d.setWidth 32).signExtend 32 = d := by
  rw [BitVec.setWidth_eq, BitVec.signExtend_eq]

/-- On x86 every distance fits. -/
theorem fits_x86 (d : HANDLE .x86) : (d.setWidth 32).signExtend PtrWidth.x86.bits = d :=
  signExtend_setWidth d

theorem pointer_bytesOf {m : Space PtrWidth.x64.bits} {a dest : HANDLE .x64}
    (h : m.read a 8 = bytesOf 8 dest) : pointer m a = dest := by
  unfold pointer
  change BitVec.ofNat 64 (ByteMemory.leNat (m.read a 8)) = dest
  rw [h, leNat_bytesOf _ (by decide), BitVec.ofNat_toNat]
  exact BitVec.setWidth_eq dest

/-- What is known of an instruction of one or two bytes before its relative operand. -/
def relHead (opcode opcode2 : UInt8) : Vars where
  hs := { opcode := opcode, opcode2 := opcode2 }
  pref := PRE_NONE
  opcode := if opcode = 0x0F then opcode2 else opcode
  ht := if opcode = 0x0F then DELTA_OPCODES else 0
  cflags := C_IMM_P66 ||| C_REL32

theorem relHead_modrm (opcode opcode2 : UInt8) :
    (relHead opcode opcode2).cflags &&& C_MODRM = 0 := by
  have hflags : (C_IMM_P66 ||| C_REL32) &&& C_MODRM = 0 := by decide
  exact hflags

theorem immediates_relHead (w : PtrWidth) (opcode opcode2 : UInt8) :
    immediates w (relHead opcode opcode2).cflags (relHead opcode opcode2).pref
      (relHead opcode opcode2).op64 (relHead opcode opcode2).hs =
      immediate 4 (F_IMM32 ||| F_RELATIVE w) (relHead opcode opcode2).hs := by
  have hp66 : (C_IMM_P66 ||| C_REL32) &&& C_IMM_P66 ≠ 0 := by decide
  have hrel : (C_IMM_P66 ||| C_REL32) &&& C_REL32 ≠ 0 := by decide
  have hpref : ¬ PRE_NONE &&& PRE_66 ≠ 0 := by decide
  unfold immediates relHead
  rw [if_pos hp66, if_pos hrel, if_neg hpref]

/-- A jump or a call with an operand of 32 bits. -/
theorem disasm_rel32 {w : PtrWidth} {m : Space w.bits} {b : HANDLE w} {bs : List UInt8}
    {opcode opcode2 : UInt8} (hhead : (head w).takes bs = some (relHead opcode opcode2))
    (hbs : bs.length ≤ 11) {operand : List UInt8} (hlen : operand.length = 4)
    (h : m.read b (bs.length + 4) = bs ++ operand) :
    HDE_DISASM m b =
      { opcode := opcode, opcode2 := opcode2, imm := ByteMemory.leNat operand,
        flags := F_IMM32 ||| F_RELATIVE w, len := bs.length + 4 } := by
  have hdec := decodes_rel32 hhead (relHead_modrm _ _) (immediates_relHead w _ _) hlen
  have hsize : (bs ++ operand).length = bs.length + 4 := by rw [List.length_append, hlen]
  rw [HDE_DISASM_of_decodes hdec (by rw [hsize]; exact h) (by omega), hsize]
  simp [relHead, stored]

/-- `JMP_REL`, where its operand can tell the distance. -/
theorem flow_jmp_rel {w : PtrWidth} {m : Space w.bits} {b dest : HANDLE w}
    (h : m.read b 5 = 0xE9 :: rel32 dest (b + 5))
    (hfits : ((dest - (b + 5)).setWidth 32).signExtend w.bits = dest - (b + 5)) :
    flow m b = [(none, some dest)] := by
  have hhead : (head w).takes [0xE9] = some (relHead 0xE9 0) := by cases w <;> decide +kernel
  have htransfer : transfer w (F_IMM32 ||| F_RELATIVE w) 0xE9 0 0 0 = .jump32 := by
    cases w <;> decide +kernel
  unfold flow
  rw [disasm_rel32 hhead (by simp) (length_rel32 dest (b + 5)) h]
  simp only [ways, HDE.transfer, htransfer]
  exact congrArg (fun d => [(none, some d)]) (int32_rel32 hfits)

/-- `JMP_REL_SHORT` to the five bytes before it. -/
theorem flow_jmp_short {w : PtrWidth} {m : Space w.bits} {b : HANDLE w}
    (h : m.read b 2 = [0xEB, 0xF9]) : flow m b = [(none, some (b - 5))] := by
  have htakes : (scan w).takes [0xEB, 0xF9] =
      some { opcode := 0xEB, imm := 0xF9, flags := F_IMM8 ||| F_RELATIVE w } := by
    cases w <;> decide +kernel
  have htransfer : transfer w (F_IMM8 ||| F_RELATIVE w) 0xEB 0 0 0 = .jump8 := by
    cases w <;> decide +kernel
  have hback : b + BitVec.ofNat w.bits 2 + int8 w 0xF9 = b - 5 := by
    have hseven : BitVec.ofNat w.bits 2 + int8 w 0xF9 = -5 := by cases w <;> rfl
    rw [BitVec.add_assoc, hseven, BitVec.sub_eq_add_neg]
  unfold flow
  rw [HDE_DISASM_of_decodes (.of_takes htakes) h (by simp)]
  simp only [ways, HDE.transfer, htransfer]
  exact congrArg (fun d => [(none, some d)]) hback

theorem flow_jmp_x86 {m : Space PtrWidth.x86.bits} {b dest : HANDLE .x86}
    (h : m.read b 5 = jmp .x86 b dest) : flow m b = [(none, some dest)] :=
  flow_jmp_rel h (fits_x86 (dest - (b + 5)))

theorem flow_call_x86 {m : Space PtrWidth.x86.bits} {b dest : HANDLE .x86}
    (h : m.read b 5 = call .x86 b dest) : flow m b = [(some (.call dest), some (b + 5))] := by
  have hhead : (head .x86).takes [0xE8] = some (relHead 0xE8 0) := by decide +kernel
  have htransfer : transfer .x86 (F_IMM32 ||| F_RELATIVE .x86) 0xE8 0 0 0 = .call32 := by
    decide +kernel
  unfold flow
  rw [disasm_rel32 hhead (by simp) (length_rel32 dest (b + 5)) h]
  simp only [ways, HDE.transfer, htransfer]
  exact congrArg (fun d => [(some (Label.call d), some (b + 5))])
    (int32_rel32 (fits_x86 (dest - (b + 5))))

/-- The four bits that a condition has. -/
theorem cond_cases (c : UInt8) : ∃ i : Fin 16, c &&& 0x0F = UInt8.ofNat i.val := by
  refine ⟨⟨c.toNat % 16, Nat.mod_lt _ (by decide)⟩, ?_⟩
  apply UInt8.toNat_inj.mp
  rw [UInt8.toNat_and, UInt8.toNat_ofNat']
  have hmask : c.toNat &&& 15 = c.toNat % 2 ^ 4 := Nat.and_two_pow_sub_one_eq_mod c.toNat 4
  have hlt : c.toNat % 16 < 2 ^ 8 := by omega
  rw [Nat.mod_eq_of_lt hlt]
  exact hmask

theorem flow_jcc_x86 {m : Space PtrWidth.x86.bits} {b dest : HANDLE .x86} {c : UInt8}
    (h : m.read b 6 = jcc .x86 (c &&& 0x0F) b dest) :
    flow m b = jumpIf (c &&& 0x0F) dest (b + 6) := by
  obtain ⟨i, hi⟩ := cond_cases c
  rw [hi] at h ⊢
  have hhead : ∀ i : Fin 16, (head .x86).takes [0x0F, 0x80 ||| UInt8.ofNat i.val] =
      some (relHead 0x0F (0x80 ||| UInt8.ofNat i.val)) := by
    decide +kernel
  have htransfer : ∀ i : Fin 16, transfer .x86 (F_IMM32 ||| F_RELATIVE .x86) 0x0F
      (0x80 ||| UInt8.ofNat i.val) 0 0 = .jumpIf32 (UInt8.ofNat i.val) := by
    decide +kernel
  unfold flow
  rw [disasm_rel32 (hhead i) (by simp) (length_rel32 dest (b + 6)) h]
  simp only [ways, HDE.transfer, htransfer i]
  exact congrArg (fun d => jumpIf _ d (b + 6)) (int32_rel32 (fits_x86 (dest - (b + 6))))

/-! ### On x64 -/

section
variable {m : Space PtrWidth.x64.bits}

/-- The instructions that x64 writes with operands of its own. -/
theorem disasm_of_takes {a : HANDLE .x64} {bs : List UInt8} {hs : HDE}
    (h : (scan .x64).takes bs = some hs) (hb : m.read a bs.length = bs) (hlen : bs.length ≤ 15) :
    HDE_DISASM m a = { hs with len := bs.length } :=
  HDE_DISASM_of_decodes (.of_takes h) hb hlen

/-- The parts of what stands at an address. -/
theorem read_parts {a : HANDLE .x64} (bs cs : List UInt8)
    (h : m.read a (bs.length + cs.length) = bs ++ cs) :
    m.read a bs.length = bs ∧ m.read (a + BitVec.ofNat _ bs.length) cs.length = cs := by
  rw [Space.read_add] at h
  exact List.append_inj h (Space.length_read m a bs.length)

theorem add_int32_zero (a : HANDLE .x64) : a + int32 .x64 0 = a :=
  BitVec.add_zero a

/-- `JMP [RIP+0]`, with the address behind it. -/
theorem flow_jmp_x64 {b dest : HANDLE .x64} (h : m.read b 14 = jmp .x64 b dest) :
    flow m b = [(none, some dest)] := by
  obtain ⟨hinst, hptr⟩ := read_parts [0xFF, 0x25, 0, 0, 0, 0] (bytesOf 8 dest) h
  have htakes : (scan .x64).takes [0xFF, 0x25, 0, 0, 0, 0] = some
      { opcode := 0xFF, modrm := 0x25, modrm_rm := 5, modrm_reg := 4, flags := 0x101 } := by
    decide +kernel
  have htransfer : transfer .x64 0x101 0xFF 0 0x25 4 = .jumpThrough := by decide +kernel
  unfold flow
  rw [disasm_of_takes htakes hinst (by simp)]
  simp only [ways, HDE.transfer, htransfer, add_int32_zero]
  exact congrArg (fun d => [(none, some d)]) (pointer_bytesOf hptr)

/-- `CALL [RIP+2]`, and a jump over the address behind it. -/
theorem flow_call_x64 {b dest : HANDLE .x64} (h : m.read b 16 = call .x64 b dest) :
    ∃ b', flow m b = [(some (.call dest), some b')] ∧ flow m b' = [(none, some (b + 16))] := by
  obtain ⟨hinst, hrest⟩ :=
    read_parts [0xFF, 0x15, 2, 0, 0, 0] ([0xEB, 0x08] ++ bytesOf 8 dest) h
  obtain ⟨hover, hptr⟩ := read_parts [0xEB, 0x08] (bytesOf 8 dest) hrest
  have htakes : (scan .x64).takes [0xFF, 0x15, 2, 0, 0, 0] = some
      { opcode := 0xFF, modrm := 0x15, modrm_rm := 5, modrm_reg := 2, disp := 2,
        flags := 0x101 } := by
    decide +kernel
  have hjump : (scan .x64).takes [0xEB, 0x08] =
      some { opcode := 0xEB, imm := 8, flags := 0x204 } := by
    decide +kernel
  have hcall : transfer .x64 0x101 0xFF 0 0x15 2 = .callThrough := by decide +kernel
  have hjump8 : transfer .x64 0x204 0xEB 0 0 0 = .jump8 := by decide +kernel
  refine ⟨b + BitVec.ofNat _ 6, ?_, ?_⟩
  · unfold flow
    rw [disasm_of_takes htakes hinst (by simp)]
    simp only [ways, HDE.transfer, hcall]
    exact congrArg (fun d => [(some (Label.call d), some (b + BitVec.ofNat _ 6))])
      (pointer_bytesOf hptr)
  · unfold flow
    rw [disasm_of_takes (a := b + BitVec.ofNat _ 6) hjump hover (by simp)]
    simp only [ways, HDE.transfer, hjump8]
    have hsum (b : BitVec 64) : b + 6#64 + 2#64 + 8#64 = b + 16#64 := by
      rw [BitVec.add_assoc, BitVec.add_assoc]
      rfl
    exact congrArg (fun d => [(none, some d)]) (hsum b)

/-- The negated condition over a jump. -/
theorem flow_jcc_x64 {b dest : HANDLE .x64} {c : UInt8}
    (h : m.read b 16 = jcc .x64 (c &&& 0x0F) b dest) :
    ∃ b', flow m b = (jumpIf (c &&& 0x0F) b' (b + 16)).reverse ∧
      flow m b' = [(none, some dest)] := by
  obtain ⟨i, hi⟩ := cond_cases c
  rw [hi] at h ⊢
  obtain ⟨hinst, hrest⟩ := read_parts [0x71 ^^^ UInt8.ofNat i.val, 0x0E]
    (jmp .x64 (b + BitVec.ofNat _ 2) dest) h
  have htakes : ∀ i : Fin 16, (scan .x64).takes [0x71 ^^^ UInt8.ofNat i.val, 0x0E] =
      some { opcode := 0x71 ^^^ UInt8.ofNat i.val, imm := 14, flags := 0x204 } := by
    decide +kernel
  have htransfer : ∀ i : Fin 16, transfer .x64 0x204 (0x71 ^^^ UInt8.ofNat i.val) 0 0 0 =
      .jumpIf8 (UInt8.ofNat i.val ^^^ 1) := by
    decide +kernel
  have hbits : ∀ i : Fin 16, (UInt8.ofNat i.val ^^^ 1) >>> 1 = UInt8.ofNat i.val >>> 1 ∧
      ((UInt8.ofNat i.val ^^^ 1) &&& 1 == 0) = (UInt8.ofNat i.val &&& 1 != 0) ∧
      ((UInt8.ofNat i.val ^^^ 1) &&& 1 != 0) = (UInt8.ofNat i.val &&& 1 == 0) := by
    decide +kernel
  refine ⟨b + BitVec.ofNat _ 2, ?_, flow_jmp_x64 hrest⟩
  unfold flow
  rw [disasm_of_takes (htakes i) hinst (by simp)]
  have hsum (b : BitVec 64) : b + 2#64 + 14#64 = b + 16#64 := by
    rw [BitVec.add_assoc]
    rfl
  simp only [ways, HDE.transfer, htransfer i, jumpIf, hbits i, List.reverse_cons, List.reverse_nil,
    List.nil_append, List.cons_append]
  exact congrArg (fun d => [(_, some d), (_, some (b + BitVec.ofNat _ 2))]) (hsum b)

end

/-! ### On both -/

section
variable {w : PtrWidth} {m : Space w.bits} {b dest : HANDLE w}

theorem flow_jmp (h : m.read b (jmp w b dest).length = jmp w b dest) :
    flow m b = [(none, some dest)] := by
  cases w with
  | x86 => exact flow_jmp_x86 h
  | x64 => exact flow_jmp_x64 h

/-- Behind the call, control gets to the end of what is written. -/
theorem flow_call (h : m.read b (call w b dest).length = call w b dest) :
    ∃ b', flow m b = [(some (.call dest), some b')] ∧
      Flow.Quiet (flow m) b' (b + BitVec.ofNat w.bits (call w b dest).length) := by
  cases w with
  | x86 => exact ⟨b + 5, flow_call_x86 h, .refl _⟩
  | x64 =>
    obtain ⟨b', hcall, hover⟩ := flow_call_x64 h
    exact ⟨b', hcall, .single hover⟩

theorem flow_jcc {c : UInt8} (h : m.read b (jcc w (c &&& 0x0F) b dest).length =
      jcc w (c &&& 0x0F) b dest) :
    ∃ b₁ b₂, (flow m b = jumpIf (c &&& 0x0F) b₁ b₂ ∨
        flow m b = (jumpIf (c &&& 0x0F) b₁ b₂).reverse) ∧
      Flow.Quiet (flow m) b₁ dest ∧
      Flow.Quiet (flow m) b₂ (b + BitVec.ofNat w.bits (jcc w (c &&& 0x0F) b dest).length) := by
  cases w with
  | x86 => exact ⟨dest, b + 6, .inl (flow_jcc_x86 h), .refl _, .refl _⟩
  | x64 =>
    obtain ⟨b', hjump, hover⟩ := flow_jcc_x64 h
    exact ⟨b', b + 16, .inr hjump, .single hover, .refl _⟩

end

end RemotePrinter
