-- The queries of winspool that answer through a buffer of the caller: their
-- calls, their requests and the handlers of the server, which lend the spooler a
-- buffer of their own and send its bytes back.
import RemotePrinter.PrinterInfo
import RemotePrinter.ServerHandlers

open Interactive ByteMemory

namespace RemotePrinter

/-! ## Calls and answers -/

/-- A buffer at an address, of which `lent` bytes belong to it. `bytes` is the memory from the
address on before a call, or after it. -/
structure Buffer (w : PtrWidth) where
  address : HANDLE w
  lent : Nat
  bytes : Mem
  nonnull : address ≠ 0
  fits : address.toNat + lent ≤ 2 ^ w.bits

/-- One call of a query. A pointer is `none` for NULL; `pcbNeeded` and `pcReturned` say whether
the caller gave a pointer for the count. -/
inductive QueryCall (w : PtrWidth) where
  | DocumentPropertiesW (hWnd hPrinter : HANDLE w) (pDeviceName : Option Bytes)
      (pDevModeOutput : Option (Buffer w)) (pDevModeInput : Option Bytes) (fMode : DWORD)
  | EnumPrintersW (Flags : DWORD) (Name : Option Bytes) (Level : DWORD)
      (pPrinterEnum : Option (Buffer w)) (cbBuf : DWORD) (pcbNeeded pcReturned : Bool)
  | GetDefaultPrinterW (pszBuffer : Option (Buffer w)) (pcchBuffer : Option DWORD)
  | GetPrinterW (hPrinter : HANDLE w) (Level : DWORD) (pPrinter : Option (Buffer w))
      (cbBuf : DWORD) (pcbNeeded : Bool)

def QueryCall.proc {w : PtrWidth} : QueryCall w → Proc
  | DocumentPropertiesW .. => .DocumentPropertiesW
  | EnumPrintersW .. => .EnumPrintersW
  | GetDefaultPrinterW .. => .GetDefaultPrinterW
  | GetPrinterW .. => .GetPrinterW

/-- The buffer that a call is given to write to. -/
def QueryCall.buffer {w : PtrWidth} : QueryCall w → Option (Buffer w)
  | DocumentPropertiesW _ _ _ b _ _ => b
  | EnumPrintersW _ _ _ b _ _ _ => b
  | GetDefaultPrinterW b _ => b
  | GetPrinterW _ _ b _ _ => b

/-- The answer to a query: the `BOOL` or `LONG`, what `*pcbNeeded` or `*pcchBuffer` and
`*pcReturned` hold afterwards, and the memory from the buffer's address on. -/
structure QueryRet where
  ret : BitVec 32
  count : DWORD := 0
  returned : DWORD := 0
  memory : Mem

/-! ## Requests -/

structure ArgDocumentPropertiesW where
  ret : I32 := 0
  hHwnd : I64 := 0
  hPrinter : I64 := 0
  pDeviceName : Bytes := []
  pDevModeOutput : Bytes := []
  pDevModeInput : Bytes := []
  fMode : I32 := 0
  lasterror : I32 := 0

structure ArgEnumPrintersW where
  ret : Bool := false
  Flags : I32 := 0
  Name : Bytes := []
  Level : I32 := 0
  pPrinterEnum : Bytes := []
  cbBuf : I32 := 0
  pcbNeeded : I32 := 0
  pcReturned : I32 := 0
  int32PrinterEnum : StdMap I32 := []

structure ArgGetDefaultPrinterW where
  ret : Bool := false
  pszBuffer : Bytes := []
  pcchBuffer : I32 := 0

structure ArgGetPrinterW where
  ret : Bool := false
  hPrinter : I64 := 0
  Level : I32 := 0
  pPrinter : Bytes := []
  cbBuf : I32 := 0
  pcbNeeded : I32 := 0
  int32Args : StdMap I32 := []
  lasterror : I32 := 0

/-- The requests for the queries. A result has the type of its argument. -/
inductive QueryRequest where
  | DocumentPropertiesW (arg : ArgDocumentPropertiesW)
  | EnumPrintersW (arg : ArgEnumPrintersW)
  | GetDefaultPrinterW (arg : ArgGetDefaultPrinterW)
  | GetPrinterW (arg : ArgGetPrinterW)

@[reducible] def QueryRequest.Result : QueryRequest → Type
  | DocumentPropertiesW _ => ArgDocumentPropertiesW
  | EnumPrintersW _ => ArgEnumPrintersW
  | GetDefaultPrinterW _ => ArgGetDefaultPrinterW
  | GetPrinterW _ => ArgGetPrinterW

/-! ## The handlers -/

/-- The ways in which a handler ends without a result: it calls a function pointer that is NULL,
it reads through a NULL pointer, or a `std::vector` throws `std::length_error`. -/
inductive HandlerAbort where
  | nullCall (proc : Proc)
  | nullRead
  | length_error

/-- `reserve n` is `localBuffer->reserve(n)` on a new vector. -/
inductive QueryOp (w : PtrWidth) where
  | GetLastError
  | GetDesktopWindow
  | reserve (n : Nat)
  | original (c : QueryCall w)

/-- A vector that has reserved its bytes answers with `data()`. -/
@[reducible] def QueryOp.Answer {w : PtrWidth} : QueryOp w → Type
  | GetLastError => DWORD
  | GetDesktopWindow => HANDLE w
  | reserve _ => Option (Option (Buffer w))
  | original _ => QueryRet

abbrev QueryHandler (w : PtrWidth) (α : Type) := Prog (QueryOp w) QueryOp.Answer HandlerAbort α

namespace ApiForwardHandler
variable {w : PtrWidth}

def GetLastError : QueryHandler w DWORD := Prog.perform QueryOp.GetLastError

/-- `localBuffer->reserve(n)` and then `localBuffer->data()`. -/
def reserve (n : Nat) : QueryHandler w (Option (Buffer w)) :=
  .call (QueryOp.reserve n) fun
    | some data => .done data
    | none => .fail .length_error

/-- The call through a function pointer. -/
def callQuery (fp : Proc → Bool) (c : QueryCall w) : QueryHandler w QueryRet :=
  if fp c.proc then Prog.perform (QueryOp.original c) else .fail (.nullCall c.proc)

/-- An `int32_t` as a `size_t`. -/
def sizeOfInt (w : PtrWidth) (n : I32) : Nat := (n.signExtend w.bits).toNat

/-- The pointer that a handler hands to the spooler: NULL for a size that is not positive. -/
def lendIfPositive (cbBuf : I32) (localBuffer : Option (Buffer w)) : Option (Buffer w) :=
  if 0 < cbBuf.toInt then localBuffer else none

/-- The bytes of the lent buffer, as `THRIFT_B_TO_STRING` takes them. -/
def lentBytes (lent : Option (Buffer w)) (memory : Mem) (n : Nat) : Bytes :=
  match lent with
  | some _ => memory.read 0 n
  | none => []

/-- `std::string(localBuffer->data(), n)`. -/
def stringAt (localBuffer : Option (Buffer w)) (memory : Mem) (n : Nat) : QueryHandler w Bytes :=
  match localBuffer with
  | some _ => return memory.read 0 n
  | none => if n = 0 then return [] else .fail .nullRead

/-- `localBuffer->data()` as the address of a structure. -/
def infoAddress (localBuffer : Option (Buffer w)) : HANDLE w :=
  match localBuffer with
  | some b => b.address
  | none => 0

def DocumentPropertiesW (fp : Proc → Bool) (arg : ArgDocumentPropertiesW) :
    QueryHandler w ArgDocumentPropertiesW := do
  let lasterror ← GetLastError
  if !fp .DocumentPropertiesW then return { ret := -1, lasterror }
  let localpDevModeOutput ← reserve arg.pDevModeOutput.length
  let hWnd ← Prog.perform QueryOp.GetDesktopWindow
  let lent := if arg.pDevModeOutput.length > 0 then localpDevModeOutput else none
  let r ← callQuery fp (.DocumentPropertiesW hWnd (handleOfInt64 w arg.hPrinter)
    (THRIFT_ZERO_SIZE_STRING_TO_NULL arg.pDeviceName) lent
    (THRIFT_ZERO_SIZE_STRING_TO_NULL arg.pDevModeInput) arg.fMode)
  let lasterror ← GetLastError
  return { ret := r.ret, lasterror
           pDevModeOutput := lentBytes lent r.memory arg.pDevModeOutput.length }

def EnumPrintersW (fp : Proc → Bool) (arg : ArgEnumPrintersW) :
    QueryHandler w ArgEnumPrintersW := do
  if !fp .EnumPrintersW then return { ret := false }
  let localBuffer ← reserve (sizeOfInt w arg.cbBuf)
  let lent := lendIfPositive arg.cbBuf localBuffer
  let r ← callQuery fp (.EnumPrintersW arg.Flags (THRIFT_ZERO_SIZE_STRING_TO_NULL arg.Name)
    arg.Level lent arg.cbBuf true true)
  let answer : ArgEnumPrintersW :=
    { pPrinterEnum := lentBytes lent r.memory arg.cbBuf.toNat
      pcbNeeded := r.count
      pcReturned := r.returned
      ret := BOOL.toBool r.ret }
  if BOOL.toBool r.ret ∧ 0 < r.returned.toNat then
    match printerInfo arg.Level with
    | some info =>
      return { answer with
        int32PrinterEnum :=
          offsetMap info (enumPrintersFields arg.Level) (infoAddress localBuffer) r.memory }
    | none => return { answer with ret := false }
  else
    return answer

def GetDefaultPrinterW (fp : Proc → Bool) (arg : ArgGetDefaultPrinterW) :
    QueryHandler w ArgGetDefaultPrinterW := do
  if !fp .GetDefaultPrinterW then return { ret := false }
  let local_cchBuffer : DWORD := arg.pcchBuffer
  let localBuffer ← reserve local_cchBuffer.toNat
  let r ← callQuery fp (.GetDefaultPrinterW localBuffer (some local_cchBuffer))
  if BOOL.toBool r.ret then
    let pszBuffer ← stringAt localBuffer r.memory r.count.toNat
    return { pcchBuffer := r.count, ret := true, pszBuffer }
  else
    return { pcchBuffer := r.count, ret := false }

def GetPrinterW (fp : Proc → Bool) (arg : ArgGetPrinterW) : QueryHandler w ArgGetPrinterW := do
  let lasterror ← GetLastError
  if !fp .GetPrinterW then return { ret := false, lasterror }
  let localBuffer ← reserve (sizeOfInt w arg.cbBuf)
  let lent := lendIfPositive arg.cbBuf localBuffer
  let r ← callQuery fp (.GetPrinterW (handleOfInt64 w arg.hPrinter) arg.Level lent arg.cbBuf true)
  let answer : ArgGetPrinterW := { pcbNeeded := r.count, ret := BOOL.toBool r.ret }
  let lasterror ← GetLastError
  if BOOL.toBool r.ret then
    let pPrinter := lentBytes lent r.memory arg.cbBuf.toNat
    if arg.Level = 2 then
      return { answer with
        pPrinter, lasterror
        int32Args :=
          offsetMap PRINTER_INFO_2 getPrinterFields (infoAddress localBuffer) r.memory }
    else
      return { answer with pPrinter, lasterror, ret := false }
  else
    return { answer with lasterror }

/-- The processor hands a request to the handler of its method. -/
def handleQuery (fp : Proc → Bool) : (q : QueryRequest) → QueryHandler w q.Result
  | .DocumentPropertiesW arg => DocumentPropertiesW fp arg
  | .EnumPrintersW arg => EnumPrintersW fp arg
  | .GetDefaultPrinterW arg => GetDefaultPrinterW fp arg
  | .GetPrinterW arg => GetPrinterW fp arg

end ApiForwardHandler

end RemotePrinter
