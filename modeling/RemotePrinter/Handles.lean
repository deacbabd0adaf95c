-- Printer handles of the two programs, and the casts a handle goes through on
-- its way from the server to the client and back.
import Mathlib.Data.BitVec

namespace RemotePrinter

/-- The pointer width a program is built for. -/
inductive PtrWidth where
  | x86
  | x64
  deriving DecidableEq, Repr

def PtrWidth.bits : PtrWidth → Nat
  | x86 => 32
  | x64 => 64

abbrev HANDLE (w : PtrWidth) := BitVec w.bits

/-- The Thrift types `i64` and `i32`. -/
abbrev I64 := BitVec 64

abbrev I32 := BitVec 32

/-- `(int64_t)localPrinter`: a 32-bit pointer is sign-extended. -/
def int64OfHandle {w : PtrWidth} (h : HANDLE w) : I64 := h.signExtend 64

/-- `(HANDLE)hPrinter`: the cast keeps the low bits. -/
def handleOfInt64 (w : PtrWidth) (i : I64) : HANDLE w := i.setWidth w.bits

/-- The macro `SAFE_HANDLE` of the client. -/
def SAFE_HANDLE {w : PtrWidth} (h : HANDLE w) : I64 :=
  match w with
  | .x64 => h.signExtend 64
  | .x86 => h.signExtend 64 &&& 0x00000000FFFFFFFF

/-- The pointer widths of the client and of the server it talks to. -/
structure Deployment where
  client : PtrWidth
  server : PtrWidth

/-- What a handle of the server is on the client: `(HANDLE)` of the `i64` in the reply. -/
def Deployment.clientHandle (d : Deployment) (h : HANDLE d.server) : HANDLE d.client :=
  handleOfInt64 d.client (int64OfHandle h)

/-- What a handle of the client is on the server: `(HANDLE)` of its `SAFE_HANDLE`. -/
def Deployment.serverHandle (d : Deployment) (h : HANDLE d.client) : HANDLE d.server :=
  handleOfInt64 d.server (SAFE_HANDLE h)

/-- The `int64_t` of a handle has the bits of the handle at its low end. -/
theorem setWidth_int64OfHandle {w : PtrWidth} {m : Nat} (h : HANDLE w) (hm : m ≤ w.bits) :
    (int64OfHandle h).setWidth m = h.setWidth m := by
  have hw : w.bits ≤ 64 := by cases w <;> decide
  apply BitVec.eq_of_getLsbD_eq
  intro i hi
  have hlow : i < w.bits := Nat.lt_of_lt_of_le hi hm
  have h64 : i < 64 := Nat.lt_of_lt_of_le hlow hw
  unfold int64OfHandle
  rw [BitVec.getLsbD_setWidth, BitVec.getLsbD_signExtend, BitVec.getLsbD_setWidth, if_pos hlow,
    decide_eq_true h64, Bool.true_and]

/-- So has its `SAFE_HANDLE`. -/
theorem setWidth_SAFE_HANDLE {w : PtrWidth} {m : Nat} (h : HANDLE w) (hm : m ≤ w.bits) :
    (SAFE_HANDLE h).setWidth m = h.setWidth m := by
  rw [← setWidth_int64OfHandle h hm]
  cases w with
  | x64 => rfl
  | x86 =>
    apply BitVec.eq_of_getLsbD_eq
    intro i hi
    have h32 : i < 32 := Nat.lt_of_lt_of_le hi hm
    have hmask : (0x00000000FFFFFFFF : BitVec 64).getLsbD i = true := by
      have : ∀ j < 32, (0x00000000FFFFFFFF : BitVec 64).getLsbD j = true := by decide
      exact this i h32
    simp only [SAFE_HANDLE, int64OfHandle, BitVec.getLsbD_setWidth, BitVec.getLsbD_and, hmask,
      Bool.and_true]

/-- Two handles of the client are two handles on the wire. -/
theorem SAFE_HANDLE_inj {w : PtrWidth} {h h' : HANDLE w} (he : SAFE_HANDLE h = SAFE_HANDLE h') :
    h = h' := by
  have hbits := congrArg (fun i : I64 => i.setWidth w.bits) he
  simpa only [setWidth_SAFE_HANDLE _ (Nat.le_refl _), BitVec.setWidth_eq] using hbits

/-- The client can hold the handle: it comes back to the server as it was. -/
def Deployment.Holds (d : Deployment) (h : HANDLE d.server) : Prop :=
  d.serverHandle (d.clientHandle h) = h

/-- A client with pointers as wide as the server's holds every handle. -/
theorem Deployment.holds_of_le {d : Deployment} (hd : d.server.bits ≤ d.client.bits)
    (h : HANDLE d.server) : d.Holds h := by
  unfold Holds serverHandle clientHandle handleOfInt64
  rw [setWidth_SAFE_HANDLE _ hd, BitVec.setWidth_setWidth_of_le _ hd,
    setWidth_int64OfHandle h (Nat.le_refl _), BitVec.setWidth_eq]

/-- A server with pointers as wide as the client's gives each value of the client back. -/
theorem Deployment.clientHandle_serverHandle {d : Deployment}
    (hd : d.client.bits ≤ d.server.bits) (x : HANDLE d.client) :
    d.clientHandle (d.serverHandle x) = x := by
  unfold clientHandle serverHandle handleOfInt64
  rw [setWidth_int64OfHandle _ hd, BitVec.setWidth_setWidth_of_le _ hd,
    setWidth_SAFE_HANDLE _ (Nat.le_refl _), BitVec.setWidth_eq]

/-- What the client sends for a value is a handle that it can hold. -/
theorem Deployment.holds_serverHandle {d : Deployment} (x : HANDLE d.client) :
    d.Holds (d.serverHandle x) := by
  rcases Nat.le_total d.server.bits d.client.bits with hd | hd
  · exact Deployment.holds_of_le hd _
  · unfold Holds
    rw [clientHandle_serverHandle hd]

/-- The handle that the client sends for the value of a handle has this value, too. -/
theorem Deployment.clientHandle_sent {d : Deployment} (h : HANDLE d.server) :
    d.clientHandle (d.serverHandle (d.clientHandle h)) = d.clientHandle h := by
  rcases Nat.le_total d.server.bits d.client.bits with hd | hd
  · exact congrArg d.clientHandle (Deployment.holds_of_le hd h)
  · exact clientHandle_serverHandle hd _

/-- Two handles that the client can hold never become one value on it. -/
theorem Deployment.Holds.inj {d : Deployment} {h h' : HANDLE d.server} (hh : d.Holds h)
    (hh' : d.Holds h') (he : d.clientHandle h = d.clientHandle h') : h = h' := by
  rw [← hh, he, hh']

end RemotePrinter
