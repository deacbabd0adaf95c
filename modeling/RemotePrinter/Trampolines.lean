-- The trampoline of a hook: the first instructions of the function, moved to
-- a slot of memory, and a jump back to the rest. Instructions that depend on
-- where they stand are written anew.
import RemotePrinter.Disassembler
import RemotePrinter.PrinterInfo

open Interactive

namespace RemotePrinter

open HDE

/-! ## The jumps that are written -/

/-- A number of `k` bytes as it stands in memory. -/
def bytesOf {n : Nat} (k : Nat) (v : BitVec n) : List UInt8 := ByteMemory.leBytes k v.toNat

/-- The operand of a jump or a call whose end is at `next`. -/
def rel32 {n : Nat} (dest next : BitVec n) : List UInt8 := bytesOf 4 ((dest - next).setWidth 32)

/-- `JMP_ABS` of x64, `JMP_REL` of x86. -/
def jmp : (w : PtrWidth) → (pNewInst dest : HANDLE w) → List UInt8
  | .x86, pNewInst, dest => 0xE9 :: rel32 dest (pNewInst + 5)
  | .x64, _, dest => [0xFF, 0x25, 0, 0, 0, 0] ++ bytesOf 8 dest

/-- `CALL_ABS` or `CALL_REL`. -/
def call : (w : PtrWidth) → (pNewInst dest : HANDLE w) → List UInt8
  | .x86, pNewInst, dest => 0xE8 :: rel32 dest (pNewInst + 5)
  | .x64, _, dest => [0xFF, 0x15, 2, 0, 0, 0, 0xEB, 0x08] ++ bytesOf 8 dest

/-- `JCC_ABS`, which jumps over a jump if the condition does not hold, or `JCC_REL`. -/
def jcc : (w : PtrWidth) → (cond : UInt8) → (pNewInst dest : HANDLE w) → List UInt8
  | .x86, cond, pNewInst, dest => 0x0F :: (0x80 ||| cond) :: rel32 dest (pNewInst + 6)
  | .x64, cond, _, dest => [0x71 ^^^ cond, 0x0E, 0xFF, 0x25, 0, 0, 0, 0] ++ bytesOf 8 dest

def MEMORY_SLOT_SIZE : PtrWidth → Nat
  | .x86 => 32
  | .x64 => 64

/-- `sizeof(JMP_REL)`, the size of the jump that is written over the function. -/
def sizeof_JMP_REL : Nat := 5

def sizeof_JMP_REL_SHORT : Nat := 2

/-- `sizeof(JMP_ABS)`. -/
def sizeof_JMP_ABS : Nat := 14

def TRAMPOLINE_MAX_SIZE : PtrWidth → Nat
  | .x86 => MEMORY_SLOT_SIZE .x86
  | .x64 => MEMORY_SLOT_SIZE .x64 - sizeof_JMP_ABS

/-! ## The operands of an instruction -/

/-- The casts of the operands to `INT32` and `INT8`, and to an address. -/
def int32 (w : PtrWidth) (n : Nat) : HANDLE w := (BitVec.ofNat 32 n).signExtend w.bits

def int8 (w : PtrWidth) (n : Nat) : HANDLE w := (BitVec.ofNat 8 n).signExtend w.bits

/-- The number of bytes behind the displacement. -/
def HDE.immSize (hs : HDE) : Nat := ((hs.flags &&& 0x3C) >>> 2).toNat

/-- The instruction with another displacement. -/
def HDE.withDisp (hs : HDE) (inst disp : List UInt8) : List UInt8 :=
  inst.take (hs.len - hs.immSize - 4) ++ disp ++ inst.drop (hs.len - hs.immSize)

/-! ## The function -/

structure TRAMPOLINE (w : PtrWidth) where
  pTarget : HANDLE w
  pDetour : HANDLE w
  pTrampoline : HANDLE w
  pRelay : HANDLE w := 0
  patchAbove : Bool := false
  /-- `oldIPs` and `newIPs`, the first `nIP` of both. -/
  ips : List (Nat × Nat) := []
  deriving DecidableEq

/-- The variables of the loop, the memory, and what is recorded in `ct`. -/
structure Turning (w : PtrWidth) where
  mem : Space w.bits
  oldPos : Nat := 0
  newPos : Nat := 0
  jmpDest : HANDLE w := 0
  ips : List (Nat × Nat) := []

/-- What a turn of the loop is going to copy, with `finished` and `jmpDest` after it. -/
structure CopySrc (w : PtrWidth) where
  bytes : List UInt8
  finished : Bool
  jmpDest : HANDLE w

section
variable {w : PtrWidth}

/-- The destination is among the bytes that are going to be overwritten. -/
def inside (pTarget dest : HANDLE w) : Bool := pTarget ≤ dest && dest < pTarget + 5

/-- An instruction that is copied as it is, for a jump to one of these bytes. -/
def CopySrc.inside (bytes : List UInt8) (jmpDest dest : HANDLE w) : CopySrc w :=
  ⟨bytes, false, if jmpDest < dest then dest else jmpDest⟩

/-- The branches of the loop. -/
def piece (pTarget : HANDLE w) (m : Space w.bits) (oldPos : Nat) (pNewInst jmpDest : HANDLE w)
    (hs : HDE) : Option (CopySrc w) :=
  let pOldInst := pTarget + BitVec.ofNat w.bits oldPos
  let inst := m.read pOldInst hs.len
  let next := pOldInst + BitVec.ofNat w.bits hs.len
  if oldPos ≥ sizeof_JMP_REL then some ⟨jmp w pNewInst pOldInst, true, jmpDest⟩
  else if w = .x64 ∧ hs.modrm &&& 0xC7 = 0x05 then
    let disp := rel32 (next + int32 w hs.disp) (pNewInst + BitVec.ofNat w.bits hs.len)
    some ⟨hs.withDisp inst disp, hs.opcode == 0xFF && hs.modrm_reg == 4, jmpDest⟩
  else if hs.opcode = 0xE8 then
    some ⟨call w pNewInst (next + int32 w hs.imm), false, jmpDest⟩
  else if hs.opcode &&& 0xFD = 0xE9 then
    let dest := next + if hs.opcode = 0xEB then int8 w hs.imm else int32 w hs.imm
    if RemotePrinter.inside pTarget dest then some (.inside inst jmpDest dest)
    else some ⟨jmp w pNewInst dest, jmpDest ≤ pOldInst, jmpDest⟩
  else if hs.opcode &&& 0xF0 = 0x70 ∨ hs.opcode &&& 0xFC = 0xE0 ∨ hs.opcode2 &&& 0xF0 = 0x80 then
    let short := hs.opcode &&& 0xF0 = 0x70 ∨ hs.opcode &&& 0xFC = 0xE0
    let dest := next + if short then int8 w hs.imm else int32 w hs.imm
    if RemotePrinter.inside pTarget dest then some (.inside inst jmpDest dest)
    else if hs.opcode &&& 0xFC = 0xE0 then none
    else
      let cond := (if hs.opcode ≠ 0x0F then hs.opcode else hs.opcode2) &&& 0x0F
      some ⟨jcc w cond pNewInst dest, false, jmpDest⟩
  else if hs.opcode &&& 0xFE = 0xC2 then some ⟨inst, jmpDest ≤ pOldInst, jmpDest⟩
  else some ⟨inst, false, jmpDest⟩

/-- A turn of the loop: the next variables, and whether the function is complete. -/
def turn (ct : TRAMPOLINE w) (s : Turning w) : Option (Turning w × Bool) := do
  let pOldInst := ct.pTarget + BitVec.ofNat w.bits s.oldPos
  let pNewInst := ct.pTrampoline + BitVec.ofNat w.bits s.newPos
  let hs := HDE_DISASM s.mem pOldInst
  if hs.flags &&& F_ERROR ≠ 0 then none
  else
    let p ← piece ct.pTarget s.mem s.oldPos pNewInst s.jmpDest hs
    if pOldInst < p.jmpDest ∧ p.bytes.length ≠ hs.len then none
    else if s.newPos + p.bytes.length > TRAMPOLINE_MAX_SIZE w then none
    else if s.ips.length ≥ 8 then none
    else
      some ({ mem := s.mem.write pNewInst p.bytes
              oldPos := s.oldPos + hs.len
              newPos := s.newPos + p.bytes.length
              jmpDest := p.jmpDest
              ips := s.ips ++ [(s.oldPos, s.newPos)] }, p.finished)

/-- The loop, in so many turns at most, and whether it came to its end. -/
def copyTurns (ct : TRAMPOLINE w) : Nat → Turning w → Bool × Turning w
  | 0, s => (false, s)
  | n + 1, s =>
    match turn ct s with
    | none => (false, s)
    | some (s', finished) => if finished then (true, s') else copyTurns ct n s'

def IsCodePadding (m : Space w.bits) (pInst : HANDLE w) (size : Nat) : Bool :=
  match m.read pInst size with
  | [] => true
  | b :: rest => (b == 0x00 || b == 0x90 || b == 0xCC) && rest.all (· == b)

/-- After the loop: whether the function can be overwritten, and `patchAbove`. -/
def patchable (IsExecutableAddress : HANDLE w → Bool) (m : Space w.bits) (pTarget : HANDLE w)
    (oldPos : Nat) : Option Bool :=
  let behind (size : Nat) : Bool :=
    oldPos ≥ size || IsCodePadding m (pTarget + BitVec.ofNat w.bits oldPos) (size - oldPos)
  if behind sizeof_JMP_REL then some false
  else if !behind sizeof_JMP_REL_SHORT then none
  else if !IsExecutableAddress (pTarget - 5) then none
  else if !IsCodePadding m (pTarget - 5) sizeof_JMP_REL then none
  else some true

/-- The relay function, which x64 has. -/
def relay (ct : TRAMPOLINE w) (s : Turning w) : TRAMPOLINE w × Space w.bits :=
  if w = .x64 then
    let pRelay := ct.pTrampoline + BitVec.ofNat w.bits s.newPos
    ({ ct with pRelay := pRelay }, s.mem.write pRelay (jmp w pRelay ct.pDetour))
  else (ct, s.mem)

/-- The turns are enough: each but the last moves `oldPos`, and at 5 it is the last. -/
def CreateTrampolineFunction (IsExecutableAddress : HANDLE w → Bool) (m : Space w.bits)
    (ct : TRAMPOLINE w) : Bool × TRAMPOLINE w × Space w.bits :=
  let (finished, s) := copyTurns ct 6 { mem := m }
  let ct := { ct with ips := s.ips }
  if !finished then (false, ct, s.mem)
  else
    match patchable IsExecutableAddress s.mem ct.pTarget s.oldPos with
    | none => (false, ct, s.mem)
    | some patchAbove => (true, relay { ct with patchAbove := patchAbove } s)

end

end RemotePrinter
