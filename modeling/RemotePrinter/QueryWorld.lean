-- A server with its spooler and its heap, as the handlers of the queries see it:
-- what a handler answers to a request, and the calls that it makes on the way.
import RemotePrinter.Queries

open Interactive ByteMemory

namespace RemotePrinter

/-! ## The server -/

/-- The largest size that a `std::vector<char>` can reserve. Memory does not run out below it. -/
def maxReserve (w : PtrWidth) : Nat := 2 ^ (w.bits - 1) - 1

/-- A server in some state of its heap and of its spooler: the buffer that it would lend for a
size, and what its spooler would answer to a call. -/
structure Server (w : PtrWidth) where
  fp : Proc → Bool
  desktop : HANDLE w
  heap : Nat → Buffer w
  spool : QueryCall w → QueryRet
  lastError : QueryCall w → DWORD
  lends : ∀ n, 0 < n → n ≤ maxReserve w → (heap n).lent = n

/-- The thread of the server that answers: its last error, and the calls it has made. -/
structure ServerThread (w : PtrWidth) where
  lastError : DWORD
  calls : List (QueryCall w)

namespace Server
variable {w : PtrWidth}

/-- `data()` of a vector that has reserved `n` bytes. -/
def data (srv : Server w) (n : Nat) : Option (Buffer w) := if n = 0 then none else some (srv.heap n)

/-- The thread after a call of the spooler. -/
def after (srv : Server w) (t : ServerThread w) (c : QueryCall w) : ServerThread w where
  lastError := srv.lastError c
  calls := t.calls ++ [c]

/-- One operation of a handler. -/
def act (srv : Server w) : (op : QueryOp w) → ServerThread w → Option op.Answer × ServerThread w
  | .GetLastError, t => (some t.lastError, t)
  | .GetDesktopWindow, t => (some srv.desktop, t)
  | .reserve n, t => (some (if n ≤ maxReserve w then some (srv.data n) else none), t)
  | .original c, t => (some (srv.spool c), srv.after t c)

/-- What the handler of a request answers. -/
def answers (srv : Server w) (q : QueryRequest) (t : ServerThread w) :
    Option (Except HandlerAbort q.Result) × ServerThread w :=
  (ApiForwardHandler.handleQuery srv.fp q).exec srv.act t

end Server

/-- A server that lends every buffer at one address and whose spooler answers by `spool`. -/
def Server.plain (w : PtrWidth) (spool : QueryCall w → QueryRet) : Server w where
  fp := fun _ => true
  desktop := 0
  heap := fun n =>
    { address := 4096
      lent := min n (maxReserve w)
      bytes := fun _ => 0
      nonnull := by cases w <;> decide
      fits := by
        cases w with
        | x86 => exact Nat.le_trans (Nat.add_le_add_left (Nat.min_le_right n _) _) (by decide)
        | x64 => exact Nat.le_trans (Nat.add_le_add_left (Nat.min_le_right n _) _) (by decide) }
  spool := spool
  lastError := fun _ => 0
  lends := fun _ _ hn => Nat.min_eq_left hn

/-! ## Sizes -/

/-- A negative `int32_t` is a large `size_t`. -/
theorem sizeOfInt_eq (w : PtrWidth) (n : I32) :
    ApiForwardHandler.sizeOfInt w n =
      n.toNat + if n.toNat < 2 ^ 31 then 0 else 2 ^ w.bits - 2 ^ 32 := by
  have hlt := n.isLt
  have hmsb : n.msb = decide (2 ^ 31 ≤ n.toNat) := by rw [BitVec.msb_eq_decide]
  have hset : (n.setWidth w.bits).toNat = n.toNat := by
    rw [BitVec.toNat_setWidth]
    cases w with
    | x86 => exact Nat.mod_eq_of_lt hlt
    | x64 => exact Nat.mod_eq_of_lt (Nat.lt_trans hlt (by decide))
  unfold ApiForwardHandler.sizeOfInt
  rw [BitVec.toNat_signExtend, hset, hmsb]
  by_cases hn : n.toNat < 2 ^ 31
  · simp only [hn, Nat.not_le.mpr hn, decide_false, Bool.false_eq_true, if_false, if_true]
  · simp only [hn, Nat.le_of_not_lt hn, decide_true, if_true, if_false]

theorem sizeOfInt_of_lt {w : PtrWidth} {n : I32} (h : n.toNat < 2 ^ 31) :
    ApiForwardHandler.sizeOfInt w n = n.toNat := by
  rw [sizeOfInt_eq, if_pos h, Nat.add_zero]

/-- Just the sizes that are not negative can be reserved. -/
theorem sizeOfInt_le_iff {w : PtrWidth} {n : I32} :
    ApiForwardHandler.sizeOfInt w n ≤ maxReserve w ↔ n.toNat < 2 ^ 31 := by
  rw [sizeOfInt_eq]
  cases w with
  | x86 =>
    change (n.toNat + if n.toNat < 2 ^ 31 then 0 else 2 ^ 32 - 2 ^ 32) ≤ 2 ^ 31 - 1 ↔ _
    split <;> omega
  | x64 =>
    change (n.toNat + if n.toNat < 2 ^ 31 then 0 else 2 ^ 64 - 2 ^ 32) ≤ 2 ^ 63 - 1 ↔ _
    split <;> omega

/-- A size below 2^31 fits every server. -/
theorem le_maxReserve {w : PtrWidth} {n : Nat} (h : n < 2 ^ 31) : n ≤ maxReserve w := by
  cases w with
  | x86 => exact Nat.le_sub_one_of_lt h
  | x64 =>
    have hle : (2 : Nat) ^ 31 ≤ 2 ^ 63 - 1 := by decide
    exact Nat.le_trans (Nat.le_of_lt h) hle

theorem Server.data_of_pos {w : PtrWidth} (srv : Server w) {n : Nat} (hn : 0 < n) :
    srv.data n = some (srv.heap n) := by
  unfold Server.data
  rw [if_neg (by omega)]

theorem Server.lends_data {w : PtrWidth} (srv : Server w) {n : Nat} {b : Buffer w}
    (hn : n ≤ maxReserve w) (hb : srv.data n = some b) : b.lent = n := by
  unfold Server.data at hb
  split at hb
  · cases hb
  · cases hb
    exact srv.lends n (by omega) hn

theorem lendIfPositive_data {w : PtrWidth} (srv : Server w) {n : I32} (h : n.toNat < 2 ^ 31) :
    ApiForwardHandler.lendIfPositive n (srv.data n.toNat) = srv.data n.toNat := by
  have hint : n.toInt = n.toNat := BitVec.toInt_eq_toNat_of_lt (by omega)
  unfold ApiForwardHandler.lendIfPositive Server.data
  rw [hint]
  by_cases h0 : n.toNat = 0
  · simp [h0]
  · rw [if_pos (by omega)]

/-- The bytes of a lent buffer are as many as were asked for. -/
theorem lentBytes_data {w : PtrWidth} (srv : Server w) (m : Mem) (n : Nat) :
    ApiForwardHandler.lentBytes (srv.data n) m n = m.read 0 n := by
  unfold Server.data
  by_cases h0 : n = 0
  · rw [if_pos h0, h0]
    rfl
  · rw [if_neg h0]
    rfl

section
variable {w : PtrWidth} {srv : Server w} {α : Type}

/-! ## The operations of a handler -/

theorem exec_done (a : α) (t : ServerThread w) :
    (Prog.done a : QueryHandler w α).exec srv.act t = (some (.ok a), t) := by
  rw [Prog.exec]

theorem exec_GetLastError (f : DWORD → QueryHandler w α) (t : ServerThread w) :
    (ApiForwardHandler.GetLastError >>= f).exec srv.act t = (f t.lastError).exec srv.act t := by
  unfold ApiForwardHandler.GetLastError
  rw [Prog.perform_bind, Prog.exec_call]
  rfl

theorem exec_GetDesktopWindow (f : HANDLE w → QueryHandler w α) (t : ServerThread w) :
    (Prog.perform QueryOp.GetDesktopWindow >>= f).exec srv.act t =
      (f srv.desktop).exec srv.act t := by
  rw [Prog.perform_bind, Prog.exec_call]
  rfl

theorem exec_reserve {n : Nat} (hn : n ≤ maxReserve w) (f : Option (Buffer w) → QueryHandler w α)
    (t : ServerThread w) :
    (ApiForwardHandler.reserve n >>= f).exec srv.act t = (f (srv.data n)).exec srv.act t := by
  unfold ApiForwardHandler.reserve
  rw [Prog.call_bind, Prog.exec_call]
  simp [Server.act, hn]

theorem exec_reserve_throws {n : Nat} (hn : ¬ n ≤ maxReserve w)
    (f : Option (Buffer w) → QueryHandler w α) (t : ServerThread w) :
    (ApiForwardHandler.reserve n >>= f).exec srv.act t = (some (.error .length_error), t) := by
  unfold ApiForwardHandler.reserve
  rw [Prog.call_bind, Prog.exec_call]
  simp [Server.act, hn, Prog.exec]

theorem exec_callQuery {fp : Proc → Bool} {c : QueryCall w} (hfp : fp c.proc = true)
    (f : QueryRet → QueryHandler w α) (t : ServerThread w) :
    (ApiForwardHandler.callQuery fp c >>= f).exec srv.act t =
      (f (srv.spool c)).exec srv.act (srv.after t c) := by
  unfold ApiForwardHandler.callQuery
  rw [if_pos hfp, Prog.perform_bind, Prog.exec_call]
  rfl

/-! ## `GetPrinterW` -/

/-- The buffer that the server lends for `cbBuf` bytes, as the address of a structure. -/
def Server.infoAddress (srv : Server w) (cbBuf : DWORD) : HANDLE w :=
  ApiForwardHandler.infoAddress (srv.data cbBuf.toNat)

theorem Server.infoAddress_ne_zero (srv : Server w) {cbBuf : DWORD} (h : 0 < cbBuf.toNat) :
    srv.infoAddress cbBuf ≠ 0 := by
  unfold Server.infoAddress
  rw [srv.data_of_pos h]
  exact (srv.heap cbBuf.toNat).nonnull

/-- The call that the handler of `GetPrinterW` makes. -/
def Server.printerCall (srv : Server w) (arg : ArgGetPrinterW) : QueryCall w :=
  .GetPrinterW (handleOfInt64 w arg.hPrinter) arg.Level (srv.data arg.cbBuf.toNat) arg.cbBuf true

/-- What the handler of `GetPrinterW` makes of the answer `r` to its call. -/
def Server.printerReply (srv : Server w) (arg : ArgGetPrinterW) (r : QueryRet) (lasterror : DWORD) :
    ArgGetPrinterW :=
  if BOOL.toBool r.ret then
    { ret := decide (arg.Level = 2)
      pPrinter := r.memory.read 0 arg.cbBuf.toNat
      pcbNeeded := r.count
      int32Args :=
        if arg.Level = 2 then
          offsetMap PRINTER_INFO_2 getPrinterFields (srv.infoAddress arg.cbBuf) r.memory
        else []
      lasterror }
  else { ret := false, pcbNeeded := r.count, lasterror }

theorem answers_GetPrinterW (hfp : srv.fp .GetPrinterW = true) (arg : ArgGetPrinterW)
    (t : ServerThread w) :
    srv.answers (.GetPrinterW arg) t =
      if arg.cbBuf.toNat < 2 ^ 31 then
        (some (.ok (srv.printerReply arg (srv.spool (srv.printerCall arg))
          (srv.lastError (srv.printerCall arg)))), srv.after t (srv.printerCall arg))
      else (some (.error .length_error), t) := by
  change (ApiForwardHandler.GetPrinterW srv.fp arg).exec srv.act t = _
  unfold ApiForwardHandler.GetPrinterW
  have hcall : QueryCall.GetPrinterW (handleOfInt64 w arg.hPrinter) arg.Level
      (srv.data arg.cbBuf.toNat) arg.cbBuf true = srv.printerCall arg := rfl
  rw [exec_GetLastError, if_neg (by simp [hfp])]
  by_cases hn : arg.cbBuf.toNat < 2 ^ 31
  · rw [if_pos hn, exec_reserve (sizeOfInt_le_iff.mpr hn), exec_callQuery hfp, exec_GetLastError,
      sizeOfInt_of_lt hn, lendIfPositive_data srv hn, hcall, lentBytes_data]
    unfold Server.printerReply Server.infoAddress
    generalize srv.spool (srv.printerCall arg) = r
    by_cases hret : BOOL.toBool r.ret = true
    · rw [if_pos hret, if_pos hret]
      by_cases hl : arg.Level = 2
      · rw [if_pos hl, if_pos hl, decide_eq_true hl, hret]
        exact exec_done _ _
      · rw [if_neg hl, if_neg hl, decide_eq_false hl]
        exact exec_done _ _
    · rw [if_neg hret, if_neg hret, Bool.eq_false_iff.mpr hret]
      exact exec_done _ _
  · rw [if_neg hn, exec_reserve_throws (sizeOfInt_le_iff.not.mpr hn)]

/-! ## `EnumPrintersW` -/

/-- The call that the handler of `EnumPrintersW` makes. -/
def Server.printersCall (srv : Server w) (arg : ArgEnumPrintersW) : QueryCall w :=
  .EnumPrintersW arg.Flags (THRIFT_ZERO_SIZE_STRING_TO_NULL arg.Name) arg.Level
    (srv.data arg.cbBuf.toNat) arg.cbBuf true true

/-- What the handler of `EnumPrintersW` makes of the answer `r` to its call. -/
def Server.printersReply (srv : Server w) (arg : ArgEnumPrintersW) (r : QueryRet) :
    ArgEnumPrintersW where
  ret := BOOL.toBool r.ret && (decide (r.returned.toNat = 0) || (printerInfo arg.Level).isSome)
  pPrinterEnum := r.memory.read 0 arg.cbBuf.toNat
  pcbNeeded := r.count
  pcReturned := r.returned
  int32PrinterEnum :=
    match printerInfo arg.Level with
    | some info =>
      if BOOL.toBool r.ret ∧ 0 < r.returned.toNat then
        offsetMap info (enumPrintersFields arg.Level) (srv.infoAddress arg.cbBuf) r.memory
      else []
    | none => []

/-- The reply is TRUE with printers of a level that the handler knows, or with none. -/
theorem Server.printersReply_ret {srv : Server w} {arg : ArgEnumPrintersW} {r : QueryRet} :
    (srv.printersReply arg r).ret = true ↔
      r.ret ≠ 0 ∧ (r.returned = 0 ∨ (printerInfo arg.Level).isSome = true) := by
  have hzero : r.returned.toNat = 0 ↔ r.returned = 0 := by
    rw [← BitVec.toNat_inj]
    rfl
  unfold Server.printersReply
  rw [Bool.and_eq_true, Bool.or_eq_true, decide_eq_true_iff, BOOL.toBool_eq_true, hzero]

theorem answers_EnumPrintersW (hfp : srv.fp .EnumPrintersW = true) (arg : ArgEnumPrintersW)
    (t : ServerThread w) :
    srv.answers (.EnumPrintersW arg) t =
      if arg.cbBuf.toNat < 2 ^ 31 then
        (some (.ok (srv.printersReply arg (srv.spool (srv.printersCall arg)))),
          srv.after t (srv.printersCall arg))
      else (some (.error .length_error), t) := by
  change (ApiForwardHandler.EnumPrintersW srv.fp arg).exec srv.act t = _
  unfold ApiForwardHandler.EnumPrintersW
  have hcall : QueryCall.EnumPrintersW arg.Flags (THRIFT_ZERO_SIZE_STRING_TO_NULL arg.Name)
      arg.Level (srv.data arg.cbBuf.toNat) arg.cbBuf true true = srv.printersCall arg := rfl
  rw [if_neg (by simp [hfp])]
  by_cases hn : arg.cbBuf.toNat < 2 ^ 31
  · rw [if_pos hn, exec_reserve (sizeOfInt_le_iff.mpr hn), exec_callQuery hfp,
      sizeOfInt_of_lt hn, lendIfPositive_data srv hn, hcall, lentBytes_data]
    unfold Server.printersReply Server.infoAddress
    generalize srv.spool (srv.printersCall arg) = r
    by_cases hret : BOOL.toBool r.ret = true ∧ 0 < r.returned.toNat
    · have hpos : r.returned.toNat ≠ 0 := Nat.pos_iff_ne_zero.mp hret.2
      rw [if_pos hret, hret.1]
      cases printerInfo arg.Level with
      | some info => simp [exec_done, hret.2]
      | none => simp [exec_done, hpos]
    · rw [if_neg hret]
      have hany : (BOOL.toBool r.ret &&
          (decide (r.returned.toNat = 0) || (printerInfo arg.Level).isSome)) =
            BOOL.toBool r.ret := by
        cases hb : BOOL.toBool r.ret with
        | false => rfl
        | true =>
          have h0 : r.returned.toNat = 0 := by
            rw [hb] at hret
            simpa using hret
          simp [h0]
      rw [hany]
      cases printerInfo arg.Level with
      | some info => simp only [if_neg hret]; exact exec_done _ _
      | none => exact exec_done _ _
  · rw [if_neg hn, exec_reserve_throws (sizeOfInt_le_iff.not.mpr hn)]

/-! ## `GetDefaultPrinterW` -/

/-- The call that the handler of `GetDefaultPrinterW` makes. Its size counts characters, and the
buffer has as many bytes. -/
def Server.defaultCall (srv : Server w) (size : DWORD) : QueryCall w :=
  .GetDefaultPrinterW (srv.data size.toNat) (some size)

/-- What the handler of `GetDefaultPrinterW` makes of the answer `r` to its call. -/
def Server.defaultReply (r : QueryRet) : ArgGetDefaultPrinterW :=
  if BOOL.toBool r.ret then
    { pcchBuffer := r.count, ret := true, pszBuffer := r.memory.read 0 r.count.toNat }
  else { pcchBuffer := r.count, ret := false }

theorem answers_GetDefaultPrinterW (hfp : srv.fp .GetDefaultPrinterW = true)
    (arg : ArgGetDefaultPrinterW) (hsize : arg.pcchBuffer.toNat ≤ maxReserve w)
    (hpos : BOOL.toBool (srv.spool (srv.defaultCall arg.pcchBuffer)).ret = true →
      arg.pcchBuffer.toNat ≠ 0) (t : ServerThread w) :
    srv.answers (.GetDefaultPrinterW arg) t =
      (some (.ok (Server.defaultReply (srv.spool (srv.defaultCall arg.pcchBuffer)))),
        srv.after t (srv.defaultCall arg.pcchBuffer)) := by
  change (ApiForwardHandler.GetDefaultPrinterW srv.fp arg).exec srv.act t = _
  unfold ApiForwardHandler.GetDefaultPrinterW
  have hcall : QueryCall.GetDefaultPrinterW (srv.data arg.pcchBuffer.toNat)
      (some arg.pcchBuffer) = srv.defaultCall arg.pcchBuffer := rfl
  rw [if_neg (by simp [hfp]), exec_reserve hsize, exec_callQuery hfp, hcall]
  unfold Server.defaultReply
  generalize srv.spool (srv.defaultCall arg.pcchBuffer) = r at hpos ⊢
  by_cases hret : BOOL.toBool r.ret = true
  · rw [if_pos hret, if_pos hret]
    unfold Server.data
    rw [if_neg (hpos hret)]
    exact exec_done _ _
  · rw [if_neg hret, if_neg hret]
    exact exec_done _ _

theorem answers_GetDefaultPrinterW_throws (hfp : srv.fp .GetDefaultPrinterW = true)
    (arg : ArgGetDefaultPrinterW) (hsize : ¬ arg.pcchBuffer.toNat ≤ maxReserve w)
    (t : ServerThread w) :
    srv.answers (.GetDefaultPrinterW arg) t = (some (.error .length_error), t) := by
  change (ApiForwardHandler.GetDefaultPrinterW srv.fp arg).exec srv.act t = _
  unfold ApiForwardHandler.GetDefaultPrinterW
  rw [if_neg (by simp [hfp]), exec_reserve_throws hsize]

/-! ## `DocumentPropertiesW` -/

/-- The call that the handler of `DocumentPropertiesW` makes. -/
def Server.documentCall (srv : Server w) (arg : ArgDocumentPropertiesW) : QueryCall w :=
  .DocumentPropertiesW srv.desktop (handleOfInt64 w arg.hPrinter)
    (THRIFT_ZERO_SIZE_STRING_TO_NULL arg.pDeviceName) (srv.data arg.pDevModeOutput.length)
    (THRIFT_ZERO_SIZE_STRING_TO_NULL arg.pDevModeInput) arg.fMode

/-- What the handler of `DocumentPropertiesW` makes of the answer `r` to its call. -/
def Server.documentReply (arg : ArgDocumentPropertiesW) (r : QueryRet) (lasterror : DWORD) :
    ArgDocumentPropertiesW where
  ret := r.ret
  lasterror := lasterror
  pDevModeOutput := r.memory.read 0 arg.pDevModeOutput.length

theorem answers_DocumentPropertiesW (hfp : srv.fp .DocumentPropertiesW = true)
    {arg : ArgDocumentPropertiesW} (hsize : arg.pDevModeOutput.length ≤ maxReserve w)
    (t : ServerThread w) :
    srv.answers (.DocumentPropertiesW arg) t =
      (some (.ok (Server.documentReply arg (srv.spool (srv.documentCall arg))
        (srv.lastError (srv.documentCall arg)))), srv.after t (srv.documentCall arg)) := by
  change (ApiForwardHandler.DocumentPropertiesW srv.fp arg).exec srv.act t = _
  unfold ApiForwardHandler.DocumentPropertiesW
  have hlent : (if arg.pDevModeOutput.length > 0 then srv.data arg.pDevModeOutput.length
      else none) = srv.data arg.pDevModeOutput.length := by
    unfold Server.data
    by_cases h0 : arg.pDevModeOutput.length = 0
    · simp [h0]
    · rw [if_pos (Nat.pos_of_ne_zero h0)]
  rw [exec_GetLastError, if_neg (by simp [hfp]), exec_reserve hsize, exec_GetDesktopWindow, hlent,
    exec_callQuery hfp, exec_GetLastError, lentBytes_data]
  exact exec_done _ _

/-! ## Without the function -/

/-- What a handler answers that finds its function pointer NULL. -/
def QueryRequest.failure (lasterror : DWORD) : (q : QueryRequest) → q.Result
  | .DocumentPropertiesW _ => { ret := -1, lasterror }
  | .EnumPrintersW _ => { ret := false }
  | .GetDefaultPrinterW _ => { ret := false }
  | .GetPrinterW _ => { ret := false, lasterror }

/-- The function that a request asks for. -/
def QueryRequest.proc : QueryRequest → Proc
  | .DocumentPropertiesW _ => .DocumentPropertiesW
  | .EnumPrintersW _ => .EnumPrintersW
  | .GetDefaultPrinterW _ => .GetDefaultPrinterW
  | .GetPrinterW _ => .GetPrinterW

theorem answers_of_missing {q : QueryRequest} (hfp : srv.fp q.proc = false) (t : ServerThread w) :
    srv.answers q t = (some (.ok (q.failure t.lastError)), t) := by
  cases q with
  | DocumentPropertiesW arg =>
    change (ApiForwardHandler.DocumentPropertiesW srv.fp arg).exec srv.act t = _
    unfold ApiForwardHandler.DocumentPropertiesW
    rw [exec_GetLastError, if_pos (by simpa [QueryRequest.proc] using hfp)]
    exact exec_done _ _
  | EnumPrintersW arg =>
    change (ApiForwardHandler.EnumPrintersW srv.fp arg).exec srv.act t = _
    unfold ApiForwardHandler.EnumPrintersW
    rw [if_pos (by simpa [QueryRequest.proc] using hfp)]
    exact exec_done _ _
  | GetDefaultPrinterW arg =>
    change (ApiForwardHandler.GetDefaultPrinterW srv.fp arg).exec srv.act t = _
    unfold ApiForwardHandler.GetDefaultPrinterW
    rw [if_pos (by simpa [QueryRequest.proc] using hfp)]
    exact exec_done _ _
  | GetPrinterW arg =>
    change (ApiForwardHandler.GetPrinterW srv.fp arg).exec srv.act t = _
    unfold ApiForwardHandler.GetPrinterW
    rw [exec_GetLastError, if_pos (by simpa [QueryRequest.proc] using hfp)]
    exact exec_done _ _

end

end RemotePrinter
