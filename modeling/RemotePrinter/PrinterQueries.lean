-- The detours of `EnumPrintersW` and `GetPrinterW` over a server: the runs of each,
-- branch by branch.
import RemotePrinter.QueryRuns

open Interactive ByteMemory

namespace RemotePrinter

/-- The bytes of the stores of pointers. -/
def storeBytes {w : PtrWidth} (stores : List (Nat × HANDLE w)) : List (Nat × Bytes) :=
  stores.map fun s => (s.1, pointerBytes s.2)

/-- The operations of the stores of pointers. -/
def storeObs {w : PtrWidth} (stores : List (Nat × HANDLE w)) :
    List (Obs (QueryClientOp w) QueryClientOp.Answer Unit) :=
  stores.map fun s => ⟨.storePointer s.1 s.2, (), ()⟩

section
variable {w w' : PtrWidth} {srv : Server w'} {lossy : Prop} {fp : Proc → Bool}
  {hPrinter : HANDLE w} {Flags Level cbBuf : DWORD} {Name : Option Bytes}
  {pcbNeeded pcReturned : Bool} {S S' : QueryState w'} {t : ServerThread w'}
  {tr : List (Obs (QueryClientOp w) QueryClientOp.Answer Unit)}
  {r : Except QueryAbnormal QueryResult}

open QueryDetour

theorem storeFields_runsIn {b : Buffer w} {stores : HANDLE w → List (Nat × HANDLE w)}
    {f : Unit → QueryClient w QueryResult} :
    (storeFields (some b) stores >>= f).RunsIn (QueryState.env srv lossy) S tr r S' ↔
      ∃ tr', (f ()).RunsIn (QueryState.env srv lossy)
          { S with memory := S.memory.writeAll (storeBytes (stores b.address)) } tr' r S' ∧
        tr = storeObs (stores b.address) ++ tr' :=
  storeAll_runsIn

/-! ## `GetPrinterW` -/

/-- The stores of `DetourGetPrinterW` into a structure. -/
def printerStores (a : ArgGetPrinterW) (address : HANDLE w) : List (Nat × HANDLE w) :=
  relocations address PRINTER_INFO_2 getPrinterFields a.int32Args ++
    [(offsetOf w PRINTER_INFO_2 .pSecurityDescriptor, 0)]

theorem DetourGetPrinterW_unhooked {pPrinter : Option (Buffer w)} (hfp : fp .GetPrinterW = false) :
    (DetourGetPrinterW fp hPrinter Level pPrinter cbBuf pcbNeeded).RunsIn
        (QueryState.env srv lossy) S tr r S' ∧ Forwarded tr ↔
      r = .ok { ret := 0 } ∧ S' = S ∧ tr = [⟨.ensure_connection, true, ()⟩] := by
  unfold DetourGetPrinterW forwardGetPrinterW
  rw [orBypass_forwarded, if_pos (by simp [hfp])]
  simp only [Prog.pure_eq, done_runsIn, and_assoc, exists_eq_left]

/-- The server has refused. -/
theorem DetourGetPrinterW_refused {pPrinter : Option (Buffer w)} {a : ArgGetPrinterW}
    (hfp : fp .GetPrinterW = true)
    (hans : srv.answers (.GetPrinterW (printerArg hPrinter Level cbBuf)) S.server =
      (some (.ok a), t)) (hret : a.ret = false) :
    (DetourGetPrinterW fp hPrinter Level pPrinter cbBuf pcbNeeded).RunsIn
        (QueryState.env srv lossy) S tr r S' ∧ Forwarded tr ↔
      lossy ∧ Thrown (.GetPrinterW (printerArg hPrinter Level cbBuf)) S tr r S' ∨
      r = .ok { ret := 0, count := if pcbNeeded then some a.pcbNeeded else none } ∧
      S' = { S with lastError := a.lasterror, server := t } ∧
      tr = [⟨.ensure_connection, true, ()⟩,
        ⟨.api (.GetPrinterW (printerArg hPrinter Level cbBuf)), .ok a, ()⟩,
        ⟨.SetLastError a.lasterror, (), ()⟩] := by
  unfold DetourGetPrinterW forwardGetPrinterW
  rw [if_neg (by simp [hfp]), forwarded_of_answer hans]
  simp only [SetLastError_runsIn, hret, Bool.false_eq_true, if_false, Prog.pure_eq, done_runsIn,
    and_assoc, exists_and_left, exists_eq_left, BOOL.ofBool]

/-- The server has answered with a printer. -/
theorem DetourGetPrinterW_filled {b : Buffer w} {a : ArgGetPrinterW} (hfp : fp .GetPrinterW = true)
    (hans : srv.answers (.GetPrinterW (printerArg hPrinter 2 cbBuf)) S.server = (some (.ok a), t))
    (hret : a.ret = true)
    (hlen : ApiForwardHandler.sizeOfInt w a.pcbNeeded ≤ a.pPrinter.length) :
    (DetourGetPrinterW fp hPrinter 2 (some b) cbBuf pcbNeeded).RunsIn
        (QueryState.env srv lossy) S tr r S' ∧ Forwarded tr ↔
      lossy ∧ Thrown (.GetPrinterW (printerArg hPrinter 2 cbBuf)) S tr r S' ∨
      r = .ok { ret := 1, count := if pcbNeeded then some a.pcbNeeded else none } ∧
      S' = { memory := (S.memory.write 0
               (a.pPrinter.take (ApiForwardHandler.sizeOfInt w a.pcbNeeded))).writeAll
               (storeBytes (printerStores a b.address))
             lastError := a.lasterror
             server := t } ∧
      tr = [⟨.ensure_connection, true, ()⟩,
        ⟨.api (.GetPrinterW (printerArg hPrinter 2 cbBuf)), .ok a, ()⟩,
        ⟨.SetLastError a.lasterror, (), ()⟩,
        ⟨.memcpy a.pPrinter (ApiForwardHandler.sizeOfInt w a.pcbNeeded), (), ()⟩] ++
        storeObs (printerStores a b.address) := by
  unfold DetourGetPrinterW forwardGetPrinterW
  rw [if_neg (by simp [hfp]), forwarded_of_answer hans]
  simp only [SetLastError_runsIn, hret, if_true, memcpy_runsIn hlen, storeFields_runsIn,
    Prog.pure_eq, done_runsIn, and_assoc, exists_and_left, exists_eq_left, BOOL.ofBool,
    List.append_nil, List.cons_append, List.nil_append]
  rfl

/-! ## `EnumPrintersW` -/

/-- What `DetourEnumPrintersW` returns after an answer of the server. -/
def printersResult (a : ArgEnumPrintersW) (pcbNeeded pcReturned : Bool) (ret : BOOL) :
    QueryResult where
  ret := ret
  count := if pcbNeeded then some a.pcbNeeded else none
  returned := if pcReturned then some a.pcReturned else none

theorem DetourEnumPrintersW_unhooked {pPrinterEnum : Option (Buffer w)}
    (hfp : fp .EnumPrintersW = false) :
    (DetourEnumPrintersW fp Flags Name Level pPrinterEnum cbBuf pcbNeeded pcReturned).RunsIn
        (QueryState.env srv lossy) S tr r S' ∧ Forwarded tr ↔
      r = .ok { ret := 0 } ∧ S' = S ∧ tr = [⟨.ensure_connection, true, ()⟩] := by
  unfold DetourEnumPrintersW forwardEnumPrintersW
  rw [orBypass_forwarded, if_pos (by simp [hfp])]
  simp only [Prog.pure_eq, done_runsIn, and_assoc, exists_eq_left]

/-- The server has refused, or there is no buffer. -/
theorem DetourEnumPrintersW_refused {pPrinterEnum : Option (Buffer w)} {a : ArgEnumPrintersW}
    (hfp : fp .EnumPrintersW = true)
    (hans : srv.answers (.EnumPrintersW (printersArg Flags Name Level cbBuf)) S.server =
      (some (.ok a), t)) (hret : ¬ (a.ret = true ∧ pPrinterEnum.isSome = true)) :
    (DetourEnumPrintersW fp Flags Name Level pPrinterEnum cbBuf pcbNeeded pcReturned).RunsIn
        (QueryState.env srv lossy) S tr r S' ∧ Forwarded tr ↔
      lossy ∧ Thrown (.EnumPrintersW (printersArg Flags Name Level cbBuf)) S tr r S' ∨
      r = .ok (printersResult a pcbNeeded pcReturned (BOOL.ofBool a.ret)) ∧
      S' = { S with server := t } ∧
      tr = [⟨.ensure_connection, true, ()⟩,
        ⟨.api (.EnumPrintersW (printersArg Flags Name Level cbBuf)), .ok a, ()⟩] := by
  unfold DetourEnumPrintersW forwardEnumPrintersW
  rw [if_neg (by simp [hfp]), forwarded_of_answer hans]
  simp only [hret, if_false, Prog.pure_eq, done_runsIn, and_assoc, exists_eq_left]
  rfl

/-- The server has answered with printers. -/
theorem DetourEnumPrintersW_filled {b : Buffer w} {a : ArgEnumPrintersW}
    {info : List (InfoField × FieldType)} (hfp : fp .EnumPrintersW = true)
    (hans : srv.answers (.EnumPrintersW (printersArg Flags Name Level cbBuf)) S.server =
      (some (.ok a), t)) (hret : a.ret = true) (hinfo : printerInfo Level = some info)
    (hlen : cbBuf.toNat ≤ a.pPrinterEnum.length) :
    (DetourEnumPrintersW fp Flags Name Level (some b) cbBuf pcbNeeded pcReturned).RunsIn
        (QueryState.env srv lossy) S tr r S' ∧ Forwarded tr ↔
      lossy ∧ Thrown (.EnumPrintersW (printersArg Flags Name Level cbBuf)) S tr r S' ∨
      r = .ok (printersResult a pcbNeeded pcReturned 1) ∧
      S' = { S with
        memory := (S.memory.write 0 (a.pPrinterEnum.take cbBuf.toNat)).writeAll
          (storeBytes (relocations b.address info (enumPrintersFields Level) a.int32PrinterEnum))
        server := t } ∧
      tr = [⟨.ensure_connection, true, ()⟩,
        ⟨.api (.EnumPrintersW (printersArg Flags Name Level cbBuf)), .ok a, ()⟩,
        ⟨.memcpy a.pPrinterEnum cbBuf.toNat, (), ()⟩] ++
        storeObs (relocations b.address info (enumPrintersFields Level) a.int32PrinterEnum) := by
  unfold DetourEnumPrintersW forwardEnumPrintersW
  rw [if_neg (by simp [hfp]), forwarded_of_answer hans]
  simp only [hret, Option.isSome_some, and_self, if_true, memcpy_runsIn hlen, hinfo,
    storeFields_runsIn, Prog.pure_eq, done_runsIn, and_assoc, exists_and_left, exists_eq_left,
    BOOL.ofBool, List.append_nil, List.cons_append, List.nil_append]
  rfl

/-- The server has answered with no printers of a level that the client does not know. The bytes
are copied, and the detour answers FALSE. -/
theorem DetourEnumPrintersW_unknown {b : Buffer w} {a : ArgEnumPrintersW}
    (hfp : fp .EnumPrintersW = true)
    (hans : srv.answers (.EnumPrintersW (printersArg Flags Name Level cbBuf)) S.server =
      (some (.ok a), t)) (hret : a.ret = true) (hinfo : printerInfo Level = none)
    (hlen : cbBuf.toNat ≤ a.pPrinterEnum.length) :
    (DetourEnumPrintersW fp Flags Name Level (some b) cbBuf pcbNeeded pcReturned).RunsIn
        (QueryState.env srv lossy) S tr r S' ∧ Forwarded tr ↔
      lossy ∧ Thrown (.EnumPrintersW (printersArg Flags Name Level cbBuf)) S tr r S' ∨
      r = .ok (printersResult a pcbNeeded pcReturned 0) ∧
      S' = { S with
        memory := S.memory.write 0 (a.pPrinterEnum.take cbBuf.toNat)
        server := t } ∧
      tr = [⟨.ensure_connection, true, ()⟩,
        ⟨.api (.EnumPrintersW (printersArg Flags Name Level cbBuf)), .ok a, ()⟩,
        ⟨.memcpy a.pPrinterEnum cbBuf.toNat, (), ()⟩] := by
  unfold DetourEnumPrintersW forwardEnumPrintersW
  rw [if_neg (by simp [hfp]), forwarded_of_answer hans]
  simp only [hret, Option.isSome_some, and_self, if_true, memcpy_runsIn hlen, hinfo,
    Prog.pure_eq, done_runsIn, and_assoc, exists_and_left, exists_eq_left]
  rfl

end

end RemotePrinter
