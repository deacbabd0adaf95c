-- What the server hands to the functions it calls, beside what it has received: a
-- buffer with a length in another field, and wide strings that should end in the
-- bytes of the message.
import Mathlib.Data.List.GetD
import RemotePrinter.UsbHandlers
import RemotePrinter.QueryWorld

open Interactive

namespace RemotePrinter

/-! ## Wide strings -/

/-- A wide string ends in a memory: a 16-bit zero lies in it. -/
def EndsWide (m : Bytes) : Prop :=
  ∃ k, 2 * k + 1 < m.length ∧ m.getD (2 * k) 1 = 0 ∧ m.getD (2 * k + 1) 1 = 0

/-- A received string that is no string of its own (NULL stands for it), has a 16-bit zero, or has
an odd size and a zero at its end, which the NUL behind it completes. -/
def WideOrEmpty (str : Bytes) : Prop :=
  str = [] ∨ EndsWide str ∨ str.length % 2 = 1 ∧ str.getD (str.length - 1) 1 = 0

theorem getD_cStr {str : Bytes} {i : Nat} (hi : i < str.length) :
    (cStr str).getD i 1 = str.getD i 1 := by
  unfold cStr
  rw [List.getD_append _ _ _ _ hi]

theorem lt_length_cStr {n : Nat} {str : Bytes} : n < (cStr str).length ↔ n ≤ str.length := by
  unfold cStr
  rw [List.length_append, List.length_singleton]
  exact Nat.lt_succ_iff

theorem int_lt_length_cStr {n : Int} {str : Bytes} : n < (cStr str).length ↔ n ≤ str.length := by
  unfold cStr
  rw [List.length_append, List.length_singleton]
  omega

theorem getD_cStr_length (str : Bytes) : (cStr str).getD str.length 1 = 0 := by
  unfold cStr
  rw [List.getD_append_right _ _ _ _ (Nat.le_refl _), Nat.sub_self]
  rfl

/-- Every non-NULL pointer that stands for a received string points to a wide string that ends
just if the string is empty or has a terminator. -/
theorem endsWide_iff {str : Bytes} :
    (∀ m ∈ THRIFT_ZERO_SIZE_STRING_TO_NULL str, EndsWide m) ↔ WideOrEmpty str := by
  have hlength : (cStr str).length = str.length + 1 := by simp [cStr]
  unfold THRIFT_ZERO_SIZE_STRING_TO_NULL WideOrEmpty
  by_cases hpos : str.length > 0
  · have hne : str ≠ [] := List.length_pos_iff.mp hpos
    rw [if_pos hpos]
    simp only [Option.mem_some_iff, forall_eq', hne, false_or]
    constructor
    · rintro ⟨k, hk, hlo, hhi⟩
      rw [hlength] at hk
      by_cases hin : 2 * k + 1 < str.length
      · rw [getD_cStr (by omega)] at hlo
        rw [getD_cStr hin] at hhi
        exact Or.inl ⟨k, hin, hlo, hhi⟩
      · rw [getD_cStr (by omega)] at hlo
        refine Or.inr ⟨by omega, ?_⟩
        rwa [show str.length - 1 = 2 * k by omega]
    · rintro (⟨k, hk, hlo, hhi⟩ | ⟨hodd, hlast⟩)
      · exact ⟨k, by omega, by rwa [getD_cStr (by omega)], by rwa [getD_cStr hk]⟩
      · refine ⟨str.length / 2, by omega, ?_, ?_⟩
        · rw [getD_cStr (by omega)]
          rwa [show 2 * (str.length / 2) = str.length - 1 by omega]
        · rw [show 2 * (str.length / 2) + 1 = str.length by omega]
          exact getD_cStr_length str
  · rw [if_neg hpos]
    have hnil : str = [] := List.length_eq_zero_iff.mp (by omega)
    simp [hnil]

/-! ## The calls -/

/-- Every wide string of the call ends, and no buffer is handed out with more bytes than the
received string has: the memory behind it is the string and one NUL. -/
def SpoolCall.Covered {H : Type} : SpoolCall H → Prop
  | OpenPrinterW pPrinterName _ pDefault =>
    (∀ m ∈ pPrinterName, EndsWide m) ∧ ∀ d ∈ pDefault, ∀ m ∈ d.pDatatype, EndsWide m
  | StartDocPrinterW _ _ pDocInfo =>
    ∀ d ∈ pDocInfo, (∀ m ∈ d.pDocName, EndsWide m) ∧ (∀ m ∈ d.pOutputFile, EndsWide m) ∧
      ∀ m ∈ d.pDatatype, EndsWide m
  | WritePrinter _ pBuf cbBuf _ => ∀ m ∈ pBuf, cbBuf.toNat < m.length
  | _ => True

/-- The lengths of the vendor functions are signed. -/
def UsbCall.Covered : UsbCall → Prop
  | WriteUSB pBuffer n => ∀ m ∈ pBuffer, n.toInt < m.length
  | ReadUSB pBuffer n => ∀ m ∈ pBuffer, n.toInt < m.length
  | _ => True

def UsbOp.Covered : UsbOp → Prop
  | original c => c.Covered
  | _ => True

def QueryCall.Covered {w : PtrWidth} : QueryCall w → Prop
  | DocumentPropertiesW _ _ pDeviceName _ _ _ => ∀ m ∈ pDeviceName, EndsWide m
  | EnumPrintersW _ Name _ _ _ _ _ => ∀ m ∈ Name, EndsWide m
  | _ => True

def QueryOp.Covered {w : PtrWidth} : QueryOp w → Prop
  | original c => c.Covered
  | _ => True

/-- The answers that a vector can give: it reserves no more than it can hold. -/
def QueryOp.Possible {w : PtrWidth} : (op : QueryOp w) → op.Answer → Prop
  | reserve n, some _ => n ≤ maxReserve w
  | _, _ => True

/-- A handler hands out what it has received: whatever it is answered, its calls are covered. -/
def SpoolCovered {w : PtrWidth} {α : Type} (p : Handler w α) : Prop :=
  p.Only (fun _ _ => True) SpoolCall.Covered

def UsbCovered {α : Type} (p : UsbHandler α) : Prop := p.Only (fun _ _ => True) UsbOp.Covered

def QueryCovered {w : PtrWidth} {α : Type} (p : QueryHandler w α) : Prop :=
  p.Only QueryOp.Possible QueryOp.Covered

/-! ## The handlers -/

section
variable {w : PtrWidth} {fp : Proc → Bool} {α β : Type}

open ApiForwardHandler

theorem spool_answered (c : SpoolCall (HANDLE w)) : ∃ _ : c.Ret, True := by
  cases c with
  | OpenPrinterA | OpenPrinterW => exact ⟨⟨0, none⟩, trivial⟩
  | WritePrinter => exact ⟨⟨0, 0⟩, trivial⟩
  | StartPagePrinter | StartDocPrinterW | EndPagePrinter | EndDocPrinter | ClosePrinter =>
    exact ⟨(0 : BitVec 32), trivial⟩

theorem usb_answered (op : UsbOp) : ∃ _ : op.Answer, True := by
  cases op with
  | GetTempPathA | GetTempFileNameA => exact ⟨((0 : DWORD), []), trivial⟩
  | openFile | writeFile | closeFile | DeleteFileA => exact ⟨false, trivial⟩
  | original => exact ⟨⟨0, []⟩, trivial⟩

theorem query_answered (op : QueryOp w) : ∃ a, op.Possible a := by
  cases op with
  | GetLastError => exact ⟨(0 : DWORD), trivial⟩
  | GetDesktopWindow => exact ⟨(0 : HANDLE w), trivial⟩
  | reserve n => exact ⟨none, trivial⟩
  | original c => exact ⟨⟨0, 0, 0, fun _ => 0⟩, trivial⟩

/-- A handler of the spooler makes its call if the pointer it tests and the one it calls are not
NULL. -/
theorem guarded_covered {tested : Proc} {failure : α} {c : SpoolCall (HANDLE w)}
    {pack : c.Ret → α} :
    SpoolCovered (guarded fp tested failure c pack) ↔
      (fp tested = true → fp c.proc = true → c.Covered) := by
  unfold SpoolCovered guarded callOriginal
  by_cases ht : fp tested = true
  · rw [if_pos ht]
    by_cases hc : fp c.proc = true
    · rw [if_pos hc, Prog.perform_bind, Prog.only_call spool_answered]
      exact ⟨fun h _ _ => h.1, fun h => ⟨h ht hc, fun _ _ => Prog.only_done _⟩⟩
    · rw [if_neg hc]
      exact iff_of_true (Prog.only_fail _) fun _ h => absurd h hc
  · rw [if_neg ht]
    exact iff_of_true (Prog.only_done _) fun h => absurd h ht

theorem forwarded_covered {c : UsbCall} :
    UsbCovered (forwarded fp c) ↔ (fp c.proc = true → c.Covered) := by
  unfold UsbCovered forwarded callVendor
  by_cases hc : fp c.proc = true
  · rw [if_pos hc, if_pos hc, Prog.perform_bind, Prog.only_call usb_answered]
    exact ⟨fun h _ => h.1, fun h => ⟨h hc, fun _ _ => Prog.only_done _⟩⟩
  · rw [if_neg hc]
    exact iff_of_true (Prog.only_done _) fun h => absurd h hc

/-- An operation that is no call of a spooler function. -/
theorem query_step {op : QueryOp w} (hop : op.Covered) {f : op.Answer → QueryHandler w α} :
    QueryCovered (Prog.call op f) ↔ ∀ a, op.Possible a → QueryCovered (f a) := by
  unfold QueryCovered
  rw [Prog.only_call query_answered]
  exact and_iff_right hop

theorem reserve_covered {n : Nat} {f : Option (Buffer w) → QueryHandler w α} :
    QueryCovered (reserve n >>= f) ↔ (n ≤ maxReserve w → ∀ data, QueryCovered (f data)) := by
  have hop : (QueryOp.reserve n : QueryOp w).Covered := trivial
  unfold reserve
  rw [Prog.call_bind, query_step hop]
  constructor
  · intro h hn data
    exact h (some data) hn
  · intro h a ha
    cases a with
    | none => exact Prog.only_fail _
    | some data => exact h ha data

/-- The call, if what comes after it makes none. -/
theorem callQuery_covered {c : QueryCall w} {f : QueryRet → QueryHandler w α}
    (hf : ∀ r, QueryCovered (f r)) :
    QueryCovered (callQuery fp c >>= f) ↔ (fp c.proc = true → c.Covered) := by
  unfold callQuery
  by_cases hc : fp c.proc = true
  · rw [if_pos hc, Prog.perform_bind]
    unfold QueryCovered at hf ⊢
    rw [Prog.only_call query_answered]
    exact ⟨fun h _ => h.1, fun h => ⟨h hc, fun r _ => hf r⟩⟩
  · rw [if_neg hc]
    exact iff_of_true (Prog.only_fail _) fun h => absurd h hc

/-- `DocumentPropertiesW` hands out the name of the device. -/
theorem document_covered (arg : ArgDocumentPropertiesW) :
    QueryCovered (DocumentPropertiesW fp arg : QueryHandler w ArgDocumentPropertiesW) ↔
      (fp .DocumentPropertiesW = true → arg.pDevModeOutput.length ≤ maxReserve w →
        WideOrEmpty arg.pDeviceName) := by
  have herror : (QueryOp.GetLastError : QueryOp w).Covered := trivial
  have hdesktop : (QueryOp.GetDesktopWindow : QueryOp w).Covered := trivial
  unfold DocumentPropertiesW ApiForwardHandler.GetLastError
  rw [Prog.perform_bind, query_step herror]
  cases hfp : fp .DocumentPropertiesW with
  | false => exact iff_of_true (fun a _ => Prog.only_done _) (by simp)
  | true =>
    simp only [Bool.not_true, Bool.false_eq_true, if_false, reserve_covered, Prog.perform_bind,
      query_step hdesktop]
    rw [← endsWide_iff]
    constructor
    · intro h _ hsize
      have hcall := h (0 : DWORD) trivial hsize none (0 : HANDLE w) trivial
      rw [callQuery_covered fun r => ?_] at hcall
      · exact hcall hfp
      · exact (query_step herror).mpr fun _ _ => Prog.only_done _
    · intro h _ _ hsize data _ _
      rw [callQuery_covered fun r => ?_]
      · exact fun _ => h trivial hsize
      · exact (query_step herror).mpr fun _ _ => Prog.only_done _

/-- `EnumPrintersW` hands out the name, if the size of the buffer is not negative. -/
theorem printers_covered (arg : ArgEnumPrintersW) :
    QueryCovered (EnumPrintersW fp arg : QueryHandler w ArgEnumPrintersW) ↔
      (fp .EnumPrintersW = true → 0 ≤ arg.cbBuf.toInt → WideOrEmpty arg.Name) := by
  have hsize : 0 ≤ arg.cbBuf.toInt ↔ sizeOfInt w arg.cbBuf ≤ maxReserve w := by
    rw [sizeOfInt_le_iff, BitVec.toInt_eq_toNat_cond]
    have hlt := arg.cbBuf.isLt
    split <;> omega
  unfold EnumPrintersW
  cases hfp : fp .EnumPrintersW with
  | false => exact iff_of_true (Prog.only_done _) (by simp)
  | true =>
    simp only [Bool.not_true, Bool.false_eq_true, if_false, reserve_covered]
    rw [← endsWide_iff, hsize]
    refine (imp_congr_right fun _ => forall_congr' fun data => callQuery_covered fun r => ?_).trans
      ⟨fun h _ hn => h hn none hfp, fun h hn _ _ => h trivial hn⟩
    -- what comes after the call is no call
    split
    · split
      · exact Prog.only_done _
      · exact Prog.only_done _
    · exact Prog.only_done _

end

/-- The server hands out what it has received just if, for the functions it has found, the sizes
in a request are no larger than the strings they are about, and its wide strings end. -/
theorem handlers_hand_out_what_they_received_just_if (w : PtrWidth) (fp : Proc → Bool) :
    (∀ (hPrinter : I64) (pBuf : Bytes) (cbBuf : I32),
      SpoolCovered (ApiForwardHandler.WritePrinter fp hPrinter pBuf cbBuf :
          Handler w (StdMap I32)) ↔
        (fp .OpenPrinterW = true → fp .WritePrinter = true → cbBuf.toNat ≤ pBuf.length)) ∧
    (∀ (pBuffer : Bytes) (n : I32),
      UsbCovered (ApiForwardHandler.WriteUSB fp pBuffer n) ↔
        (fp .WriteUSB = true → n.toInt ≤ pBuffer.length)) ∧
    (∀ (pBuffer : Bytes) (n : I32),
      UsbCovered (ApiForwardHandler.ReadUSB fp pBuffer n) ↔
        (fp .ReadUSB = true → n.toInt ≤ pBuffer.length)) ∧
    (∀ (pPrinterName : Bytes) (pDefaultExist : Bool) (pDatatype pDevMode : Bytes)
      (DesiredAccess : I32),
      SpoolCovered (ApiForwardHandler.OpenPrinterW fp pPrinterName pDefaultExist pDatatype
          pDevMode DesiredAccess : Handler w (StdMap I64)) ↔
        (fp .OpenPrinterW = true →
          WideOrEmpty pPrinterName ∧ (pDefaultExist = true → WideOrEmpty pDatatype))) ∧
    (∀ (hPrinter : I64) (Level : I32) (pDocName pOutputFile pDatatype : Bytes),
      SpoolCovered (ApiForwardHandler.StartDocPrinterW fp hPrinter Level pDocName pOutputFile
          pDatatype : Handler w I32) ↔
        (fp .StartDocPrinterW = true →
          WideOrEmpty pDocName ∧ WideOrEmpty pOutputFile ∧ WideOrEmpty pDatatype)) ∧
    (∀ arg : ArgDocumentPropertiesW,
      QueryCovered (ApiForwardHandler.DocumentPropertiesW fp arg :
          QueryHandler w ArgDocumentPropertiesW) ↔
        (fp .DocumentPropertiesW = true → arg.pDevModeOutput.length ≤ maxReserve w →
          WideOrEmpty arg.pDeviceName)) ∧
    ∀ arg : ArgEnumPrintersW,
      QueryCovered (ApiForwardHandler.EnumPrintersW fp arg : QueryHandler w ArgEnumPrintersW) ↔
        (fp .EnumPrintersW = true → 0 ≤ arg.cbBuf.toInt → WideOrEmpty arg.Name) := by
  refine ⟨?_, ?_, ?_, ?_, ?_, document_covered, printers_covered⟩
  · intro hPrinter pBuf cbBuf
    unfold ApiForwardHandler.WritePrinter
    rw [guarded_covered]
    simp [SpoolCall.Covered, lt_length_cStr]
  · intro pBuffer n
    unfold ApiForwardHandler.WriteUSB
    rw [forwarded_covered]
    simp [UsbCall.Covered, UsbCall.proc, int_lt_length_cStr]
  · intro pBuffer n
    unfold ApiForwardHandler.ReadUSB
    rw [forwarded_covered]
    simp [UsbCall.Covered, UsbCall.proc, int_lt_length_cStr]
  · intro pPrinterName pDefaultExist pDatatype pDevMode DesiredAccess
    unfold ApiForwardHandler.OpenPrinterW
    rw [guarded_covered, ← endsWide_iff, ← endsWide_iff]
    cases pDefaultExist with
    | false => simp [SpoolCall.Covered, ApiForwardHandler.localDefault]
    | true => simp [SpoolCall.Covered, ApiForwardHandler.localDefault]
  · intro hPrinter Level pDocName pOutputFile pDatatype
    unfold ApiForwardHandler.StartDocPrinterW
    rw [guarded_covered, ← endsWide_iff, ← endsWide_iff, ← endsWide_iff]
    simp [SpoolCall.Covered]

/-- A request to write one byte of an empty string reads behind it. -/
theorem a_byte_that_was_not_sent_is_written :
    ¬ SpoolCovered (ApiForwardHandler.WritePrinter (fun _ => true) 1 [] 1 :
      Handler .x64 (StdMap I32)) := by
  unfold ApiForwardHandler.WritePrinter
  rw [guarded_covered]
  intro h
  exact absurd (h rfl rfl (cStr []) rfl) (by decide)

end RemotePrinter
