-- The disassembler that MinHook takes the instructions of a function apart
-- with (HDE). Both versions are one program here, with the few places where
-- that for x64 differs. It is a program that reads, so it depends on the bytes
-- of the instruction only.
import RemotePrinter.AddressSpace
import RemotePrinter.ByteMemory
import RemotePrinter.Handles

open Interactive

namespace RemotePrinter

namespace HDE

/-! ## The tables -/

def C_MODRM : UInt8 := 0x01
def C_IMM8 : UInt8 := 0x02
def C_IMM16 : UInt8 := 0x04
def C_IMM_P66 : UInt8 := 0x10
def C_REL8 : UInt8 := 0x20
def C_REL32 : UInt8 := 0x40
def C_GROUP : UInt8 := 0x80
def C_ERROR : UInt8 := 0xff

def PRE_NONE : UInt8 := 0x01
def PRE_F2 : UInt8 := 0x02
def PRE_F3 : UInt8 := 0x04
def PRE_66 : UInt8 := 0x08
def PRE_67 : UInt8 := 0x10
def PRE_LOCK : UInt8 := 0x20
def PRE_SEG : UInt8 := 0x40

abbrev Flags := BitVec 32

def F_MODRM : Flags := 0x1
def F_SIB : Flags := 0x2
def F_IMM8 : Flags := 0x4
def F_IMM16 : Flags := 0x8
def F_IMM32 : Flags := 0x10
def F_IMM64 : Flags := 0x20
def F_2IMM16 : Flags := 0x800
def F_ERROR : Flags := 0x1000
def F_ERROR_OPCODE : Flags := 0x2000
def F_ERROR_LENGTH : Flags := 0x4000
def F_ERROR_LOCK : Flags := 0x8000
def F_ERROR_OPERAND : Flags := 0x10000
def F_PREFIX_REX : Flags := 0x40000000

def F_DISP8 : PtrWidth → Flags
  | .x86 => 0x20
  | .x64 => 0x40

def F_DISP16 : PtrWidth → Flags
  | .x86 => 0x40
  | .x64 => 0x80

def F_DISP32 : PtrWidth → Flags
  | .x86 => 0x80
  | .x64 => 0x100

def F_RELATIVE : PtrWidth → Flags
  | .x86 => 0x100
  | .x64 => 0x200

def hde32_table : List UInt8 :=
  [0xa3, 0xa8, 0xa3, 0xa8, 0xa3, 0xa8, 0xa3, 0xa8, 0xa3, 0xa8, 0xa3, 0xa8, 0xa3, 0xa8, 0xa3,
    0xa8, 0xaa, 0xaa, 0xaa, 0xaa, 0xaa, 0xaa, 0xaa, 0xaa, 0xac, 0xaa, 0xb2, 0xaa, 0x9f, 0x9f,
    0x9f, 0x9f, 0xb5, 0xa3, 0xa3, 0xa4, 0xaa, 0xaa, 0xba, 0xaa, 0x96, 0xaa, 0xa8, 0xaa, 0xc3,
    0xc3, 0x96, 0x96, 0xb7, 0xae, 0xd6, 0xbd, 0xa3, 0xc5, 0xa3, 0xa3, 0x9f, 0xc3, 0x9c, 0xaa,
    0xaa, 0xac, 0xaa, 0xbf, 0x03, 0x7f, 0x11, 0x7f, 0x01, 0x7f, 0x01, 0x3f, 0x01, 0x01, 0x90,
    0x82, 0x7d, 0x97, 0x59, 0x59, 0x59, 0x59, 0x59, 0x7f, 0x59, 0x59, 0x60, 0x7d, 0x7f, 0x7f,
    0x59, 0x59, 0x59, 0x59, 0x59, 0x59, 0x59, 0x59, 0x59, 0x59, 0x59, 0x59, 0x9a, 0x88, 0x7d,
    0x59, 0x50, 0x50, 0x50, 0x50, 0x59, 0x59, 0x59, 0x59, 0x61, 0x94, 0x61, 0x9e, 0x59, 0x59,
    0x85, 0x59, 0x92, 0xa3, 0x60, 0x60, 0x59, 0x59, 0x59, 0x59, 0x59, 0x59, 0x59, 0x59, 0x59,
    0x59, 0x59, 0x9f, 0x01, 0x03, 0x01, 0x04, 0x03, 0xd5, 0x03, 0xcc, 0x01, 0xbc, 0x03, 0xf0,
    0x10, 0x10, 0x10, 0x10, 0x50, 0x50, 0x50, 0x50, 0x14, 0x20, 0x20, 0x20, 0x20, 0x01, 0x01,
    0x01, 0x01, 0xc4, 0x02, 0x10, 0x00, 0x00, 0x00, 0x00, 0x01, 0x01, 0xc0, 0xc2, 0x10, 0x11,
    0x02, 0x03, 0x11, 0x03, 0x03, 0x04, 0x00, 0x00, 0x14, 0x00, 0x02, 0x00, 0x00, 0xc6, 0xc8,
    0x02, 0x02, 0x02, 0x02, 0x00, 0x00, 0xff, 0xff, 0xff, 0xff, 0x00, 0x00, 0x00, 0xff, 0xca,
    0x01, 0x01, 0x01, 0x00, 0x06, 0x00, 0x04, 0x00, 0xc0, 0xc2, 0x01, 0x01, 0x03, 0x01, 0xff,
    0xff, 0x01, 0x00, 0x03, 0xc4, 0xc4, 0xc6, 0x03, 0x01, 0x01, 0x01, 0xff, 0x03, 0x03, 0x03,
    0xc8, 0x40, 0x00, 0x0a, 0x00, 0x04, 0x00, 0x00, 0x00, 0x00, 0x7f, 0x00, 0x33, 0x01, 0x00,
    0x00, 0x00, 0x00, 0x00, 0x00, 0xff, 0xbf, 0xff, 0xff, 0x00, 0x00, 0x00, 0x00, 0x07, 0x00,
    0x00, 0xff, 0x00, 0x00, 0x00, 0x00, 0x00, 0x00, 0x00, 0x00, 0x00, 0x00, 0x00, 0x00, 0x00,
    0x00, 0xff, 0xff, 0x00, 0x00, 0x00, 0xbf, 0x00, 0x00, 0x00, 0x00, 0x00, 0x00, 0x00, 0x00,
    0x7f, 0x00, 0x00, 0xff, 0x4a, 0x4a, 0x4a, 0x4a, 0x4b, 0x52, 0x4a, 0x4a, 0x4a, 0x4a, 0x4f,
    0x4c, 0x4a, 0x4a, 0x4a, 0x4a, 0x4a, 0x4a, 0x4a, 0x4a, 0x55, 0x45, 0x40, 0x4a, 0x4a, 0x4a,
    0x45, 0x59, 0x4d, 0x46, 0x4a, 0x5d, 0x4a, 0x4a, 0x4a, 0x4a, 0x4a, 0x4a, 0x4a, 0x4a, 0x4a,
    0x4a, 0x4a, 0x4a, 0x4a, 0x4a, 0x61, 0x63, 0x67, 0x4e, 0x4a, 0x4a, 0x6b, 0x6d, 0x4a, 0x4a,
    0x45, 0x6d, 0x4a, 0x4a, 0x44, 0x45, 0x4a, 0x4a, 0x00, 0x00, 0x00, 0x02, 0x0d, 0x06, 0x06,
    0x06, 0x06, 0x0e, 0x00, 0x00, 0x00, 0x00, 0x06, 0x06, 0x06, 0x00, 0x06, 0x06, 0x02, 0x06,
    0x00, 0x0a, 0x0a, 0x07, 0x07, 0x06, 0x02, 0x05, 0x05, 0x02, 0x02, 0x00, 0x00, 0x04, 0x04,
    0x04, 0x04, 0x00, 0x00, 0x00, 0x0e, 0x05, 0x06, 0x06, 0x06, 0x01, 0x06, 0x00, 0x00, 0x08,
    0x00, 0x10, 0x00, 0x18, 0x00, 0x20, 0x00, 0x28, 0x00, 0x30, 0x00, 0x80, 0x01, 0x82, 0x01,
    0x86, 0x00, 0xf6, 0xcf, 0xfe, 0x3f, 0xab, 0x00, 0xb0, 0x00, 0xb1, 0x00, 0xb3, 0x00, 0xba,
    0xf8, 0xbb, 0x00, 0xc0, 0x00, 0xc1, 0x00, 0xc7, 0xbf, 0x62, 0xff, 0x00, 0x8d, 0xff, 0x00,
    0xc4, 0xff, 0x00, 0xc5, 0xff, 0x00, 0xff, 0xff, 0xeb, 0x01, 0xff, 0x0e, 0x12, 0x08, 0x00,
    0x13, 0x09, 0x00, 0x16, 0x08, 0x00, 0x17, 0x09, 0x00, 0x2b, 0x09, 0x00, 0xae, 0xff, 0x07,
    0xb2, 0xff, 0x00, 0xb4, 0xff, 0x00, 0xb5, 0xff, 0x00, 0xc3, 0x01, 0x00, 0xc7, 0xff, 0xbf,
    0xe7, 0x08, 0x00, 0xf0, 0x02, 0x00]

def hde64_table : List UInt8 :=
  [0xa5, 0xaa, 0xa5, 0xb8, 0xa5, 0xaa, 0xa5, 0xaa, 0xa5, 0xb8, 0xa5, 0xb8, 0xa5, 0xb8, 0xa5,
    0xb8, 0xc0, 0xc0, 0xc0, 0xc0, 0xc0, 0xc0, 0xc0, 0xc0, 0xac, 0xc0, 0xcc, 0xc0, 0xa1, 0xa1,
    0xa1, 0xa1, 0xb1, 0xa5, 0xa5, 0xa6, 0xc0, 0xc0, 0xd7, 0xda, 0xe0, 0xc0, 0xe4, 0xc0, 0xea,
    0xea, 0xe0, 0xe0, 0x98, 0xc8, 0xee, 0xf1, 0xa5, 0xd3, 0xa5, 0xa5, 0xa1, 0xea, 0x9e, 0xc0,
    0xc0, 0xc2, 0xc0, 0xe6, 0x03, 0x7f, 0x11, 0x7f, 0x01, 0x7f, 0x01, 0x3f, 0x01, 0x01, 0xab,
    0x8b, 0x90, 0x64, 0x5b, 0x5b, 0x5b, 0x5b, 0x5b, 0x92, 0x5b, 0x5b, 0x76, 0x90, 0x92, 0x92,
    0x5b, 0x5b, 0x5b, 0x5b, 0x5b, 0x5b, 0x5b, 0x5b, 0x5b, 0x5b, 0x5b, 0x5b, 0x6a, 0x73, 0x90,
    0x5b, 0x52, 0x52, 0x52, 0x52, 0x5b, 0x5b, 0x5b, 0x5b, 0x77, 0x7c, 0x77, 0x85, 0x5b, 0x5b,
    0x70, 0x5b, 0x7a, 0xaf, 0x76, 0x76, 0x5b, 0x5b, 0x5b, 0x5b, 0x5b, 0x5b, 0x5b, 0x5b, 0x5b,
    0x5b, 0x5b, 0x86, 0x01, 0x03, 0x01, 0x04, 0x03, 0xd5, 0x03, 0xd5, 0x03, 0xcc, 0x01, 0xbc,
    0x03, 0xf0, 0x03, 0x03, 0x04, 0x00, 0x50, 0x50, 0x50, 0x50, 0xff, 0x20, 0x20, 0x20, 0x20,
    0x01, 0x01, 0x01, 0x01, 0xc4, 0x02, 0x10, 0xff, 0xff, 0xff, 0x01, 0x00, 0x03, 0x11, 0xff,
    0x03, 0xc4, 0xc6, 0xc8, 0x02, 0x10, 0x00, 0xff, 0xcc, 0x01, 0x01, 0x01, 0x00, 0x00, 0x00,
    0x00, 0x01, 0x01, 0x03, 0x01, 0xff, 0xff, 0xc0, 0xc2, 0x10, 0x11, 0x02, 0x03, 0x01, 0x01,
    0x01, 0xff, 0xff, 0xff, 0x00, 0x00, 0x00, 0xff, 0x00, 0x00, 0xff, 0xff, 0xff, 0xff, 0x10,
    0x10, 0x10, 0x10, 0x02, 0x10, 0x00, 0x00, 0xc6, 0xc8, 0x02, 0x02, 0x02, 0x02, 0x06, 0x00,
    0x04, 0x00, 0x02, 0xff, 0x00, 0xc0, 0xc2, 0x01, 0x01, 0x03, 0x03, 0x03, 0xca, 0x40, 0x00,
    0x0a, 0x00, 0x04, 0x00, 0x00, 0x00, 0x00, 0x7f, 0x00, 0x33, 0x01, 0x00, 0x00, 0x00, 0x00,
    0x00, 0x00, 0xff, 0xbf, 0xff, 0xff, 0x00, 0x00, 0x00, 0x00, 0x07, 0x00, 0x00, 0xff, 0x00,
    0x00, 0x00, 0x00, 0x00, 0x00, 0x00, 0x00, 0x00, 0x00, 0x00, 0x00, 0x00, 0x00, 0xff, 0xff,
    0x00, 0x00, 0x00, 0xbf, 0x00, 0x00, 0x00, 0x00, 0x00, 0x00, 0x00, 0x00, 0x7f, 0x00, 0x00,
    0xff, 0x40, 0x40, 0x40, 0x40, 0x41, 0x49, 0x40, 0x40, 0x40, 0x40, 0x4c, 0x42, 0x40, 0x40,
    0x40, 0x40, 0x40, 0x40, 0x40, 0x40, 0x4f, 0x44, 0x53, 0x40, 0x40, 0x40, 0x44, 0x57, 0x43,
    0x5c, 0x40, 0x60, 0x40, 0x40, 0x40, 0x40, 0x40, 0x40, 0x40, 0x40, 0x40, 0x40, 0x40, 0x40,
    0x40, 0x40, 0x64, 0x66, 0x6e, 0x6b, 0x40, 0x40, 0x6a, 0x46, 0x40, 0x40, 0x44, 0x46, 0x40,
    0x40, 0x5b, 0x44, 0x40, 0x40, 0x00, 0x00, 0x00, 0x00, 0x06, 0x06, 0x06, 0x06, 0x01, 0x06,
    0x06, 0x02, 0x06, 0x06, 0x00, 0x06, 0x00, 0x0a, 0x0a, 0x00, 0x00, 0x00, 0x02, 0x07, 0x07,
    0x06, 0x02, 0x0d, 0x06, 0x06, 0x06, 0x0e, 0x05, 0x05, 0x02, 0x02, 0x00, 0x00, 0x04, 0x04,
    0x04, 0x04, 0x05, 0x06, 0x06, 0x06, 0x00, 0x00, 0x00, 0x0e, 0x00, 0x00, 0x08, 0x00, 0x10,
    0x00, 0x18, 0x00, 0x20, 0x00, 0x28, 0x00, 0x30, 0x00, 0x80, 0x01, 0x82, 0x01, 0x86, 0x00,
    0xf6, 0xcf, 0xfe, 0x3f, 0xab, 0x00, 0xb0, 0x00, 0xb1, 0x00, 0xb3, 0x00, 0xba, 0xf8, 0xbb,
    0x00, 0xc0, 0x00, 0xc1, 0x00, 0xc7, 0xbf, 0x62, 0xff, 0x00, 0x8d, 0xff, 0x00, 0xc4, 0xff,
    0x00, 0xc5, 0xff, 0x00, 0xff, 0xff, 0xeb, 0x01, 0xff, 0x0e, 0x12, 0x08, 0x00, 0x13, 0x09,
    0x00, 0x16, 0x08, 0x00, 0x17, 0x09, 0x00, 0x2b, 0x09, 0x00, 0xae, 0xff, 0x07, 0xb2, 0xff,
    0x00, 0xb4, 0xff, 0x00, 0xb5, 0xff, 0x00, 0xc3, 0x01, 0x00, 0xc7, 0xff, 0xbf, 0xe7, 0x08,
    0x00, 0xf0, 0x02, 0x00]

def hde_table : PtrWidth → List UInt8
  | .x86 => hde32_table
  | .x64 => hde64_table

def DELTA_OPCODES : Nat := 0x4a

def DELTA_FPU_REG : PtrWidth → Nat
  | .x86 => 0xf1
  | .x64 => 0xfd

def DELTA_FPU_MODRM : PtrWidth → Nat
  | .x86 => 0xf8
  | .x64 => 0x104

def DELTA_PREFIXES : PtrWidth → Nat
  | .x86 => 0x130
  | .x64 => 0x13c

def DELTA_OP_LOCK_OK : PtrWidth → Nat
  | .x86 => 0x1a1
  | .x64 => 0x1ae

def DELTA_OP2_LOCK_OK : PtrWidth → Nat
  | .x86 => 0x1b9
  | .x64 => 0x1c6

def DELTA_OP_ONLY_MEM : PtrWidth → Nat
  | .x86 => 0x1cb
  | .x64 => 0x1d8

def DELTA_OP2_ONLY_MEM : PtrWidth → Nat
  | .x86 => 0x1da
  | .x64 => 0x1e7

/-- `ht[i]`, with `ht` at the offset of the table. -/
def entry (w : PtrWidth) (ht i : Nat) : UInt8 := (hde_table w).getD (ht + i) 0

/-- `ht[ht[opcode / 4] + (opcode % 4)]`. -/
def lookup (w : PtrWidth) (ht : Nat) (opcode : UInt8) : UInt8 :=
  entry w ht ((entry w ht (opcode.toNat / 4)).toNat + opcode.toNat % 4)

end HDE

/-! ## What is known of an instruction -/

/-- The structure of both versions; that for x86 has no `rex` fields. Both unions are kept as
their widest member. -/
structure HDE where
  len : Nat := 0
  p_rep : UInt8 := 0
  p_lock : UInt8 := 0
  p_seg : UInt8 := 0
  p_66 : UInt8 := 0
  p_67 : UInt8 := 0
  rex_w : UInt8 := 0
  rex_r : UInt8 := 0
  rex_x : UInt8 := 0
  rex_b : UInt8 := 0
  opcode : UInt8 := 0
  opcode2 : UInt8 := 0
  modrm : UInt8 := 0
  modrm_mod : UInt8 := 0
  modrm_rm : UInt8 := 0
  modrm_reg : UInt8 := 0
  sib : UInt8 := 0
  sib_scale : UInt8 := 0
  sib_index : UInt8 := 0
  sib_base : UInt8 := 0
  imm : Nat := 0
  disp : Nat := 0
  flags : HDE.Flags := 0
  deriving DecidableEq

namespace HDE

abbrev Scanner := Reader UInt8 Empty

/-- `*p++`. -/
def next : Scanner UInt8 := do
  let b ← Prog.perform 1
  return b.headD 0

/-- The `k` bytes at `p` as a number, with `p` moved behind them. -/
def number (k : Nat) : Scanner Nat := do
  let b ← Prog.perform k
  return ByteMemory.leNat b

/-- A store of `k` bytes at the beginning of a union. -/
def stored (k union value : Nat) : Nat := union / 256 ^ k * 256 ^ k + value

/-- The loop over the prefixes: the first byte behind them (or the last of 16 prefixes). -/
def prefixes : Nat → UInt8 → HDE → UInt8 → Scanner (UInt8 × HDE × UInt8)
  | 0, c, hs, pref => return (c, hs, pref)
  | x + 1, _, hs, pref => do
    let c ← next
    if c = 0xf3 then prefixes x c { hs with p_rep := c } (pref ||| PRE_F3)
    else if c = 0xf2 then prefixes x c { hs with p_rep := c } (pref ||| PRE_F2)
    else if c = 0xf0 then prefixes x c { hs with p_lock := c } (pref ||| PRE_LOCK)
    else if c = 0x26 ∨ c = 0x2e ∨ c = 0x36 ∨ c = 0x3e ∨ c = 0x64 ∨ c = 0x65 then
      prefixes x c { hs with p_seg := c } (pref ||| PRE_SEG)
    else if c = 0x66 then prefixes x c { hs with p_66 := c } (pref ||| PRE_66)
    else if c = 0x67 then prefixes x c { hs with p_67 := c } (pref ||| PRE_67)
    else return (c, hs, pref)

/-- The local variables between the parts of the function. -/
structure Vars where
  hs : HDE
  pref : UInt8
  op64 : Bool := false
  opcode : UInt8 := 0
  ht : Nat := 0
  cflags : UInt8 := 0
  disp_size : Nat := 0
  deriving DecidableEq

def Vars.error (v : Vars) (e : Flags) : Vars :=
  { v with hs := { v.hs with flags := v.hs.flags ||| F_ERROR ||| e } }

/-- `error_opcode`. -/
def Vars.error_opcode (v : Vars) : Vars :=
  let v := v.error F_ERROR_OPCODE
  { v with cflags := if v.opcode &&& 0xfd = 0x24 then 1 else 0 }

/-- The opcode, of one byte or of two. -/
def opcode_bytes (w : PtrWidth) (c : UInt8) (v : Vars) : Scanner Vars := do
  let v := { v with hs := { v.hs with opcode := c }, opcode := c }
  if c = 0x0f then
    let c ← next
    return { v with hs := { v.hs with opcode2 := c }, opcode := c, ht := DELTA_OPCODES }
  else if 0xa0 ≤ c ∧ c ≤ 0xa3 then
    return { v with
      op64 := v.op64 || w == .x64
      pref := if v.pref &&& PRE_67 ≠ 0 then v.pref ||| PRE_66 else v.pref &&& ~~~PRE_66 }
  else return v

/-- The opcode with its entry of the table. -/
def opcodes (w : PtrWidth) (c : UInt8) (v : Vars) : Scanner Vars := do
  let v ← opcode_bytes w c v
  let cflags := lookup w v.ht v.opcode
  if cflags = C_ERROR then return v.error_opcode
  else return { v with cflags := cflags }

/-- The REX prefix of x64. `op64` is set for a move of eight bytes. -/
def rex (c : UInt8) (v : Vars) : Scanner Vars := do
  let c' ← next
  let hs := { v.hs with
    flags := v.hs.flags ||| F_PREFIX_REX
    rex_w := (c &&& 0xf) >>> 3
    rex_r := (c &&& 7) >>> 2
    rex_x := (c &&& 3) >>> 1
    rex_b := c &&& 1 }
  let v := { v with hs := hs, op64 := hs.rex_w ≠ 0 && c' &&& 0xf8 == 0xb8 }
  if c' &&& 0xf0 = 0x40 then
    let v := { v with opcode := c' }
    return v.error_opcode
  else opcodes .x64 c' v

/-- An opcode that has further ones in the `reg` field of its ModR/M byte: its own entry of the
table, and which of them there are not (`x`). -/
def group (w : PtrWidth) (v : Vars) : UInt8 × UInt8 :=
  if v.cflags &&& C_GROUP ≠ 0 then
    let t := (v.cflags &&& 0x7f).toNat
    (entry w v.ht t, entry w v.ht (t + 1))
  else (v.cflags, 0)

/-- A bit of a byte, counted from the high one. -/
def bit (mask i : UInt8) : Bool := (mask <<< i) &&& 0x80 ≠ 0

/-- The floating point instructions that there are not. -/
def fpu_error (w : PtrWidth) (opcode m_mod m_reg m_rm : UInt8) : Bool :=
  let t := (opcode - 0xd9).toNat
  if m_mod = 3 then bit (entry w (DELTA_FPU_MODRM w + t * 8) m_reg.toNat) m_rm
  else bit (entry w (DELTA_FPU_REG w) t) m_reg

/-- The loop over a table of the instructions that can be locked. -/
def lock_ok (op m_reg : UInt8) : List UInt8 → Bool
  | op' :: mask :: ht => if op' = op then !bit mask m_reg else lock_ok op m_reg ht
  | _ => false

def lock_error (w : PtrWidth) (hs : HDE) (opcode m_mod m_reg : UInt8) : Bool :=
  if m_mod = 3 then true
  else if hs.opcode2 ≠ 0 then
    !lock_ok opcode m_reg (((hde_table w).take (DELTA_OP_ONLY_MEM w)).drop (DELTA_OP2_LOCK_OK w))
  else
    !lock_ok (opcode &&& 0xfe) m_reg
      (((hde_table w).take (DELTA_OP2_LOCK_OK w)).drop (DELTA_OP_LOCK_OK w))

/-- The loop over a table of the instructions with an operand in memory only. -/
def only_mem (opcode pref m_reg : UInt8) : List UInt8 → Bool
  | op :: pre :: mask :: ht =>
    if op = opcode then pre &&& pref ≠ 0 && !bit mask m_reg else only_mem opcode pref m_reg ht
  | _ => false

/-- The moves from and to the control and debug registers, for which `m_mod` is set to 3. -/
def is_mov_cr (hs : HDE) (opcode : UInt8) : Bool :=
  hs.opcode2 ≠ 0 && (opcode == 0x20 || opcode == 0x22 || opcode == 0x21 || opcode == 0x23)

/-- Whether the function gets to `error_operand`. -/
def operand_error (w : PtrWidth) (hs : HDE) (opcode pref m_mod m_reg : UInt8) : Bool :=
  if is_mov_cr hs opcode then
    if opcode = 0x20 ∨ opcode = 0x22 then m_reg > 4 || m_reg == 1 else m_reg == 4 || m_reg == 5
  else if hs.opcode2 = 0 ∧ opcode = 0x8c then m_reg > 5
  else if hs.opcode2 = 0 ∧ opcode = 0x8e then m_reg == 1 || m_reg > 5
  else if m_mod = 3 then
    if hs.opcode2 ≠ 0 then
      only_mem opcode pref m_reg ((hde_table w).drop (DELTA_OP2_ONLY_MEM w))
    else
      only_mem opcode pref m_reg
        (((hde_table w).take (DELTA_OP2_ONLY_MEM w)).drop (DELTA_OP_ONLY_MEM w))
  else if hs.opcode2 ≠ 0 then
    if opcode = 0x50 ∨ opcode = 0xd7 ∨ opcode = 0xf7 then pref &&& (PRE_NONE ||| PRE_66) ≠ 0
    else if opcode = 0xd6 then pref &&& (PRE_F2 ||| PRE_F3) ≠ 0
    else opcode == 0xc5
  else false

/-- The size of the displacement, as the ModR/M byte has it. -/
def modrm_disp_size (pref m_mod m_rm : UInt8) : Nat :=
  if m_mod = 0 then
    if pref &&& PRE_67 ≠ 0 then (if m_rm = 6 then 2 else 0) else if m_rm = 5 then 4 else 0
  else if m_mod = 1 then 1
  else if m_mod = 2 then (if pref &&& PRE_67 ≠ 0 then 2 else 4)
  else 0

/-- The ModR/M byte with its fields. -/
def with_modrm (hs : HDE) (c : UInt8) : HDE :=
  { hs with
    flags := hs.flags ||| F_MODRM
    modrm := c
    modrm_mod := c >>> 6
    modrm_rm := c &&& 7
    modrm_reg := (c &&& 0x3f) >>> 3 }

/-- The errors that the ModR/M byte shows. -/
def modrm_errors (w : PtrWidth) (x : UInt8) (v : Vars) : Vars :=
  let m_mod := v.hs.modrm_mod
  let m_reg := v.hs.modrm_reg
  let fpu := v.hs.opcode2 = 0 ∧ 0xd9 ≤ v.opcode ∧ v.opcode ≤ 0xdf
  let v := if bit x m_reg then v.error F_ERROR_OPCODE else v
  let v :=
    if fpu ∧ fpu_error w v.opcode m_mod m_reg v.hs.modrm_rm then v.error F_ERROR_OPCODE else v
  let v :=
    if v.pref &&& PRE_LOCK ≠ 0 ∧ lock_error w v.hs v.opcode m_mod m_reg then v.error F_ERROR_LOCK
    else v
  if operand_error w v.hs v.opcode v.pref m_mod m_reg then v.error F_ERROR_OPERAND else v

/-- The instructions that have an immediate value by their `reg` field. -/
def modrm_cflags (cflags opcode m_reg : UInt8) : UInt8 :=
  if m_reg ≤ 1 then
    if opcode = 0xf6 then cflags ||| C_IMM8
    else if opcode = 0xf7 then cflags ||| C_IMM_P66 else cflags
  else cflags

/-- The SIB byte with its fields. -/
def with_sib (hs : HDE) (c : UInt8) : HDE :=
  { hs with
    flags := hs.flags ||| F_SIB
    sib := c
    sib_scale := c >>> 6
    sib_index := (c &&& 0x3f) >>> 3
    sib_base := c &&& 7 }

/-- The ModR/M byte, and the SIB byte where there is one. The source reads a byte behind the
ModR/M byte in any case; it is used for the SIB byte only. -/
def mod_rm (w : PtrWidth) (x : UInt8) (v : Vars) : Scanner Vars := do
  let c ← next
  let v := modrm_errors w x { v with hs := with_modrm v.hs c }
  let m_mod := if is_mov_cr v.hs v.opcode then 3 else v.hs.modrm_mod
  let v := { v with
    cflags := modrm_cflags v.cflags v.opcode v.hs.modrm_reg
    disp_size := modrm_disp_size v.pref m_mod v.hs.modrm_rm }
  if m_mod ≠ 3 ∧ v.hs.modrm_rm = 4 ∧ (w = .x64 ∨ v.pref &&& PRE_67 = 0) then
    let c ← next
    return { v with
      hs := with_sib v.hs c
      disp_size := if c &&& 7 = 5 ∧ m_mod &&& 1 = 0 then 4 else v.disp_size }
  else return v

/-- What is behind the opcode, by its entry of the table: the ModR/M byte and the SIB byte. -/
def operands (w : PtrWidth) (v : Vars) : Scanner Vars :=
  let g := group w v
  let v := { v with cflags := g.1 }
  let v :=
    if v.hs.opcode2 ≠ 0 ∧ lookup w (DELTA_PREFIXES w) v.opcode &&& v.pref ≠ 0 then
      v.error F_ERROR_OPCODE
    else v
  if v.cflags &&& C_MODRM ≠ 0 then mod_rm w g.2 v
  else if v.pref &&& PRE_LOCK ≠ 0 then return v.error F_ERROR_LOCK
  else return v

/-- The prefixes, the opcode, the ModR/M byte and the SIB byte. -/
def head (w : PtrWidth) : Scanner Vars := do
  let (c, hs, pref) ← prefixes 16 0 {} 0
  let hs := { hs with flags := pref.toBitVec.setWidth 32 <<< 23 }
  let v : Vars := { hs := hs, pref := if pref = 0 then PRE_NONE else pref }
  let v ← if w = .x64 ∧ c &&& 0xf0 = 0x40 then rex c v else opcodes w c v
  operands w v

def disp_flags (w : PtrWidth) (disp_size : Nat) : Flags :=
  if disp_size = 1 then F_DISP8 w else if disp_size = 2 then F_DISP16 w
  else if disp_size = 4 then F_DISP32 w else 0

/-- The displacement. -/
def displacement (w : PtrWidth) (v : Vars) : Scanner HDE := do
  let disp ← number v.disp_size
  return { v.hs with flags := v.hs.flags ||| disp_flags w v.disp_size, disp := disp }

/-- An immediate value of `k` bytes. -/
def immediate (k : Nat) (flags : Flags) (hs : HDE) : Scanner HDE := do
  let value ← number k
  return { hs with flags := hs.flags ||| flags, imm := stored k hs.imm value }

/-- The second of two immediate values of x86 is stored in the displacement. -/
def immediate16 (w : PtrWidth) (hs : HDE) : Scanner HDE :=
  if w = .x86 ∧ hs.flags &&& (F_IMM32 ||| F_IMM16) ≠ 0 then do
    let value ← number 2
    let flags := if hs.flags &&& F_IMM32 ≠ 0 then F_IMM16 else F_2IMM16
    return { hs with flags := hs.flags ||| flags, disp := stored 2 hs.disp value }
  else immediate 2 F_IMM16 hs

/-- `rel32_ok`, and the immediate values of eight bits before it. -/
def immediates8 (w : PtrWidth) (cflags : UInt8) (hs : HDE) : Scanner HDE := do
  let hs ← if cflags &&& C_IMM8 ≠ 0 then immediate 1 F_IMM8 hs else pure hs
  if cflags &&& C_REL32 ≠ 0 then immediate 4 (F_IMM32 ||| F_RELATIVE w) hs
  else if cflags &&& C_REL8 ≠ 0 then immediate 1 (F_IMM8 ||| F_RELATIVE w) hs
  else return hs

def immediates16 (w : PtrWidth) (cflags : UInt8) (hs : HDE) : Scanner HDE := do
  let hs ← if cflags &&& C_IMM16 ≠ 0 then immediate16 w hs else pure hs
  immediates8 w cflags hs

/-- The immediate values. -/
def immediates (w : PtrWidth) (cflags pref : UInt8) (op64 : Bool) (hs : HDE) : Scanner HDE := do
  if cflags &&& C_IMM_P66 ≠ 0 then
    if cflags &&& C_REL32 ≠ 0 then
      if pref &&& PRE_66 ≠ 0 then immediate 2 (F_IMM16 ||| F_RELATIVE w) hs
      else immediate 4 (F_IMM32 ||| F_RELATIVE w) hs
    else if op64 then
      let hs ← immediate 8 F_IMM64 hs
      immediates16 w cflags hs
    else if pref &&& PRE_66 = 0 then
      let hs ← immediate 4 F_IMM32 hs
      immediates16 w cflags hs
    else
      let hs ← immediate 2 F_IMM16 hs
      -- That for x64 goes on behind the test of `C_IMM16`.
      if w = .x64 then immediates8 w cflags hs else immediates16 w cflags hs
  else immediates16 w cflags hs

/-- The function without its last step, the length. -/
def scan (w : PtrWidth) : Scanner HDE := do
  let v ← head w
  let hs ← if v.cflags &&& C_MODRM ≠ 0 then displacement w v else pure v.hs
  immediates w v.cflags v.pref v.op64 hs

end HDE

open HDE

/-- The instruction at an address. -/
def HDE_DISASM {w : PtrWidth} (m : Space w.bits) (code : HANDLE w) : HDE :=
  let (hs, len) := (scan w).fetch m code
  if len > 15 then
    { hs with len := 15, flags := hs.flags ||| F_ERROR ||| F_ERROR_LENGTH }
  else { hs with len := len }

/-- The versions of the disassembler. -/
def hde32_disasm (m : Space 32) (code : BitVec 32) : HDE := HDE_DISASM (w := .x86) m code

def hde64_disasm (m : Space 64) (code : BitVec 64) : HDE := HDE_DISASM (w := .x64) m code

end RemotePrinter
