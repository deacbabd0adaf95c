-- The functions of winspool that the client hooks and the server calls: their
-- arguments, what they answer, and the handles that one spooler has open.
import RemotePrinter.Handles
import RemotePrinter.Program

open Interactive

namespace RemotePrinter

abbrev Bytes := List UInt8

abbrev BOOL := BitVec 32

abbrev DWORD := BitVec 32

def BOOL.toBool (b : BOOL) : Bool := b != 0

def BOOL.ofBool (b : Bool) : BOOL := if b then 1 else 0

@[simp] theorem BOOL.toBool_eq_true (b : BOOL) : b.toBool = true ↔ b ≠ 0 := by
  simp [toBool]

@[simp] theorem BOOL.toBool_eq_false (b : BOOL) : b.toBool = false ↔ b = 0 := by
  simp [toBool]

/-- The entry points that the client hooks or could hook, and that the constructor of
the server looks up. -/
inductive Proc where
  | OpenPrinterA | OpenPrinterW | StartPagePrinter | StartDocPrinterW | WritePrinter
  | EndPagePrinter | EndDocPrinter | ClosePrinter
  | CloseSpoolFileHandle | CommitSpoolData | DocumentEvent | DocumentPropertiesW | EnumFormsW
  | EnumPrintersW | FindClosePrinterChangeNotification | FindFirstPrinterChangeNotification
  | FindNextPrinterChangeNotification | FreePrinterNotifyInfo | GetDefaultPrinterW
  | GetPrinterDataW | GetPrinterDataExW | GetPrinterW | GetSpoolFileHandle | IsValidDevmodeW
  | OpenPrinter2W | OpenPrinter2A
  | OpenUsbPort | CloseUsbPort | WriteUSB | ReadUSB | PrintBitmap | Print1DBarcode
  | PrintPDF417 | PrintQRCode
  deriving DecidableEq, Repr

/-! ## Calls and answers

A pointer argument is `none` for NULL, or the memory from the pointer on. -/

/-- `PRINTER_DEFAULTSA` and `PRINTER_DEFAULTSW`. -/
structure PRINTER_DEFAULTS where
  pDatatype : Option Bytes
  pDevMode : Option Bytes
  DesiredAccess : DWORD

/-- `DOC_INFO_1W`; a `DOC_INFO_3W` has the flags as well. -/
structure DOC_INFO where
  pDocName : Option Bytes
  pOutputFile : Option Bytes
  pDatatype : Option Bytes
  dwFlags : Option DWORD := none

/-- One call of a spooler function. `phPrinter` and `pcWritten` say whether the caller
gave a pointer for the result. -/
inductive SpoolCall (H : Type) where
  | OpenPrinterA (pPrinterName : Option Bytes) (phPrinter : Bool)
      (pDefault : Option PRINTER_DEFAULTS)
  | OpenPrinterW (pPrinterName : Option Bytes) (phPrinter : Bool)
      (pDefault : Option PRINTER_DEFAULTS)
  | StartPagePrinter (hPrinter : H)
  | StartDocPrinterW (hPrinter : H) (Level : DWORD) (pDocInfo : Option DOC_INFO)
  | WritePrinter (hPrinter : H) (pBuf : Option Bytes) (cbBuf : DWORD) (pcWritten : Bool)
  | EndPagePrinter (hPrinter : H)
  | EndDocPrinter (hPrinter : H)
  | ClosePrinter (hPrinter : H)

/-- The answer to an open: the `BOOL`, and the handle stored in `*phPrinter`, if any. -/
structure OpenRet (H : Type) where
  ret : BOOL
  phPrinter : Option H

/-- The answer to a write: the `BOOL`, and what `*pcWritten` holds afterwards. -/
structure WriteRet where
  ret : BOOL
  pcWritten : DWORD

namespace SpoolCall
variable {H : Type}

@[reducible] def Ret : SpoolCall H → Type
  | OpenPrinterA .. => OpenRet H
  | OpenPrinterW .. => OpenRet H
  | StartPagePrinter _ => BOOL
  | StartDocPrinterW .. => DWORD
  | WritePrinter .. => WriteRet
  | EndPagePrinter _ => BOOL
  | EndDocPrinter _ => BOOL
  | ClosePrinter _ => BOOL

@[simp] def proc : SpoolCall H → Proc
  | OpenPrinterA .. => .OpenPrinterA
  | OpenPrinterW .. => .OpenPrinterW
  | StartPagePrinter _ => .StartPagePrinter
  | StartDocPrinterW .. => .StartDocPrinterW
  | WritePrinter .. => .WritePrinter
  | EndPagePrinter _ => .EndPagePrinter
  | EndDocPrinter _ => .EndDocPrinter
  | ClosePrinter _ => .ClosePrinter

/-- The handle that a call is made on. An open has none. -/
@[simp] def handle : SpoolCall H → Option H
  | OpenPrinterA .. => none
  | OpenPrinterW .. => none
  | StartPagePrinter h => some h
  | StartDocPrinterW h .. => some h
  | WritePrinter h .. => some h
  | EndPagePrinter h => some h
  | EndDocPrinter h => some h
  | ClosePrinter h => some h

/-- The handle that a `ClosePrinter` is to close. -/
def closes : SpoolCall H → Option H
  | ClosePrinter h => some h
  | _ => none

/-- The handle that an open gave out. -/
def opened : (c : SpoolCall H) → c.Ret → Option H
  | OpenPrinterA .., r => if r.ret.toBool then r.phPrinter else none
  | OpenPrinterW .., r => if r.ret.toBool then r.phPrinter else none
  | _, _ => none

/-- The handle that a call closed: a close that answered TRUE. -/
def closed : (c : SpoolCall H) → c.Ret → Option H
  | ClosePrinter h, r => if BOOL.toBool r then some h else none
  | _, _ => none

theorem closes_eq_none {c : SpoolCall H} (h : c.proc ≠ .ClosePrinter) : c.closes = none := by
  cases c <;> first | rfl | exact absurd rfl h

theorem closes_of_no_handle {c : SpoolCall H} (h : c.handle = none) : c.closes = none := by
  cases c <;> first | rfl | cases h

theorem handle_of_closes {c : SpoolCall H} {h : H} (hc : c.closes = some h) :
    c.handle = some h := by
  cases c <;> cases hc
  rfl

theorem handle_of_EndDocPrinter {c : SpoolCall H} (h : c.proc = .EndDocPrinter) :
    ∃ x, c.handle = some x := by
  cases c <;> first | exact ⟨_, rfl⟩ | cases h

theorem closed_eq_none {c : SpoolCall H} (h : c.proc ≠ .ClosePrinter) (r : c.Ret) :
    c.closed r = none := by
  cases c <;> first | rfl | exact absurd rfl h

theorem closed_of_no_handle {c : SpoolCall H} (h : c.handle = none) (r : c.Ret) :
    c.closed r = none := by
  cases c <;> first | rfl | cases h

/-- A call that closes a handle opens none. -/
theorem opened_eq_none {c : SpoolCall H} {h : H} (hc : c.handle = some h) (r : c.Ret) :
    c.opened r = none := by
  cases c <;> first | rfl | cases hc

end SpoolCall

/-! ## One spooler -/

/-- The handles that a spooler has open, and all it has given out. -/
structure Spooler (H : Type) where
  openHandles : List H := []
  issued : List H := []

namespace Spooler
variable {H : Type} [DecidableEq H]

/-- A call on the spooler. An open gives out a handle that is not open, or fails; only a
close that answers TRUE closes a handle; every other call leaves the handles alone. -/
def Answers (s : Spooler H) (c : SpoolCall H) (r : c.Ret) (s' : Spooler H) : Prop :=
  match c, r with
  | .OpenPrinterA _ ph _, r => Opens s ph r s'
  | .OpenPrinterW _ ph _, r => Opens s ph r s'
  | .ClosePrinter h, r => Closes s h r s'
  | _, _ => s' = s
where
  Opens (s : Spooler H) (phPrinter : Bool) (r : OpenRet H) (s' : Spooler H) : Prop :=
    (r.ret = 0 ∧ r.phPrinter = none ∧ s' = s) ∨
    ∃ h, phPrinter = true ∧ r.ret ≠ 0 ∧ r.phPrinter = some h ∧ h ∉ s.openHandles ∧
      s' = { openHandles := h :: s.openHandles, issued := h :: s.issued }
  Closes (s : Spooler H) (h : H) (r : BOOL) (s' : Spooler H) : Prop :=
    (r = 0 ∧ s' = s) ∨
    r ≠ 0 ∧ h ∈ s.openHandles ∧ s' = { s with openHandles := s.openHandles.filter (· ≠ h) }

/-- The spooler as the environment of the programs that call it. -/
def env : Env (SpoolCall H) SpoolCall.Ret Unit (Spooler H) := fun s c r _ s' => s.Answers c r s'

omit [DecidableEq H] in
theorem Answers.of_opens {s s' : Spooler H} {ph : Bool} {r : OpenRet H}
    (h : Answers.Opens s ph r s') (x : H) :
    x ∈ s'.openHandles ↔ (if r.ret.toBool then r.phPrinter else none) = some x ∨
      x ∈ s.openHandles := by
  rcases h with ⟨h0, -, rfl⟩ | ⟨g, -, h1, hg, -, rfl⟩
  · simp [h0]
  · have hret : r.ret.toBool = true := by simpa using h1
    rw [hret, if_pos rfl, hg, List.mem_cons, Option.some.injEq, eq_comm (a := x)]

/-- What a call does to the open handles, for all calls at once. -/
theorem Answers.mem_open {s s' : Spooler H} {c : SpoolCall H} {r : c.Ret}
    (h : s.Answers c r s') (x : H) :
    x ∈ s'.openHandles ↔ c.opened r = some x ∨ (x ∈ s.openHandles ∧ c.closed r ≠ some x) := by
  cases c with
  | OpenPrinterA n ph pd => simpa [SpoolCall.opened, SpoolCall.closed] using of_opens h x
  | OpenPrinterW n ph pd => simpa [SpoolCall.opened, SpoolCall.closed] using of_opens h x
  | ClosePrinter g =>
    rcases h with ⟨h0, rfl⟩ | ⟨h1, -, rfl⟩
    · simp [SpoolCall.opened, SpoolCall.closed, h0]
    · have hret : BOOL.toBool r = true := by simpa using h1
      simp only [SpoolCall.opened, SpoolCall.closed, hret, if_true, reduceCtorEq, false_or,
        List.mem_filter, decide_not, Bool.not_eq_true', decide_eq_false_iff_not, ne_eq,
        Option.some.injEq, eq_comm (a := x)]
  | StartPagePrinter g | EndPagePrinter g | EndDocPrinter g =>
    obtain rfl : s' = s := h
    simp [SpoolCall.opened, SpoolCall.closed]
  | StartDocPrinterW g l di | WritePrinter g b n p =>
    obtain rfl : s' = s := h
    simp [SpoolCall.opened, SpoolCall.closed]

/-- A handle that a call gives out was not open. -/
theorem Answers.fresh {s s' : Spooler H} {c : SpoolCall H} {r : c.Ret} (h : s.Answers c r s')
    {x : H} (hx : c.opened r = some x) : x ∉ s.openHandles := by
  have key : ∀ {ph : Bool} {o : OpenRet H}, Answers.Opens s ph o s' →
      (if o.ret.toBool then o.phPrinter else none) = some x → x ∉ s.openHandles := by
    intro ph o ho hox
    rcases ho with ⟨h0, -, -⟩ | ⟨g, -, -, hg, hfresh, -⟩
    · simp [h0] at hox
    · rw [hg, Option.ite_none_right_eq_some] at hox
      rw [← Option.some.inj hox.2]
      exact hfresh
  cases c with
  | OpenPrinterA n ph pd => exact key h hx
  | OpenPrinterW n ph pd => exact key h hx
  | ClosePrinter g | StartPagePrinter g | EndPagePrinter g | EndDocPrinter g => cases hx
  | StartDocPrinterW g l di | WritePrinter g b n p => cases hx

end Spooler

end RemotePrinter
