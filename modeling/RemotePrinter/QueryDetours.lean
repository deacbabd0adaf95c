-- The detours of the queries. Each sends what the caller asks for and puts the
-- answer into the caller's buffer: the bytes of the reply first, and then the
-- pointers in them.
import RemotePrinter.Queries
import RemotePrinter.Detours

open Interactive ByteMemory

namespace RemotePrinter

/-! ## The operations of these detours -/

/-- `memcpy` and `storePointer` write to the caller's buffer, from its start and at an offset. -/
inductive QueryClientOp (w : PtrWidth) where
  | ensure_connection
  | original (c : QueryCall w)
  | api (q : QueryRequest)
  | memcpy (src : Bytes) (n : Nat)
  | storePointer (offset : Nat) (value : HANDLE w)
  | SetLastError (error : DWORD)

@[reducible] def QueryClientOp.Answer {w : PtrWidth} : QueryClientOp w → Type
  | ensure_connection => Bool
  | original _ => QueryRet
  | api q => Except TException q.Result
  | memcpy .. => Unit
  | storePointer .. => Unit
  | SetLastError _ => Unit

/-- An exception leaves the detour, or it writes through a NULL pointer. -/
inductive QueryAbnormal where
  | thrown (x : TException)
  | nullWrite

abbrev QueryClient (w : PtrWidth) (α : Type) :=
  Prog (QueryClientOp w) QueryClientOp.Answer QueryAbnormal α

/-- What a detour returns: the `BOOL` or `LONG`, and what it stored through the pointers to the
counts. -/
structure QueryResult where
  ret : BitVec 32
  count : Option DWORD := none
  returned : Option DWORD := none

namespace QueryDetour
variable {w : PtrWidth}

def ensure_connection : QueryClient w Bool := Prog.perform QueryClientOp.ensure_connection

/-- The call of the local function, which stores into the caller's variables itself. -/
def fpOriginal (c : QueryCall w) : QueryClient w QueryResult := do
  let r ← Prog.perform (QueryClientOp.original c)
  return { ret := r.ret, count := some r.count, returned := some r.returned }

/-- `_api->...`. No detour catches what the call throws. -/
def api (q : QueryRequest) : QueryClient w q.Result :=
  .call (QueryClientOp.api q) fun
    | .ok a => .done a
    | .error x => .fail (.thrown x)

/-- `memcpy(dst, src.c_str(), n)`. -/
def memcpy (dst : Option (Buffer w)) (src : Bytes) (n : Nat) : QueryClient w Unit :=
  match dst with
  | some _ => Prog.perform (QueryClientOp.memcpy src n)
  | none => if n = 0 then return () else .fail .nullWrite

def SetLastError (error : DWORD) : QueryClient w Unit :=
  Prog.perform (QueryClientOp.SetLastError error)

/-- The stores of pointers into the fields of a structure, in order. -/
def storeAll (stores : List (Nat × HANDLE w)) : QueryClient w Unit :=
  match stores with
  | [] => return ()
  | (offset, value) :: rest => do
    let _ ← Prog.perform (QueryClientOp.storePointer offset value)
    storeAll rest

/-- `info->field = RP_SET_OFFSET(info, map["field"])`, for the given fields. A key that the map
does not have gives 0. -/
def relocations (info : HANDLE w) (struct : List (InfoField × FieldType))
    (fields : List InfoField) (map : StdMap I32) : List (Nat × HANDLE w) :=
  fields.map fun f => (offsetOf w struct f, RP_SET_OFFSET info ((map.lookup f.key).getD 0))

/-- The stores of the fields of the structure that `dst` points to. -/
def storeFields (dst : Option (Buffer w)) (stores : HANDLE w → List (Nat × HANDLE w)) :
    QueryClient w Unit :=
  match dst with
  | some b => storeAll (stores b.address)
  | none => .fail .nullWrite

/-- How the detour of a query begins: without a connection it calls the local function. -/
def orBypass (c : QueryCall w) (forward : QueryClient w QueryResult) :
    QueryClient w QueryResult := do
  if !(← ensure_connection) then return ← fpOriginal c
  forward

/-- What `DetourDocumentPropertiesW` asks the server for. The sizes of both structures are read
from them, also that of the output. -/
def documentArg (hWnd hPrinter : HANDLE w) (pDeviceName : Option Bytes)
    (pDevModeOutput : Option (Buffer w)) (pDevModeInput : Option Bytes) (fMode : DWORD) :
    ArgDocumentPropertiesW where
  hHwnd := SAFE_HANDLE hWnd
  hPrinter := SAFE_HANDLE hPrinter
  pDeviceName := THRIFT_W_TO_STRING pDeviceName
  pDevModeInput := THRIFT_B_TO_STRING pDevModeInput dmSizeW
  pDevModeOutput :=
    match pDevModeOutput with
    | some b => b.bytes.read 0 (dmSizeW (b.bytes.read 0 70))
    | none => []
  fMode := fMode

/-- `DetourDocumentPropertiesW` with a connection. -/
def forwardDocumentPropertiesW (fp : Proc → Bool) (hWnd hPrinter : HANDLE w)
    (pDeviceName : Option Bytes) (pDevModeOutput : Option (Buffer w))
    (pDevModeInput : Option Bytes) (fMode : DWORD) : QueryClient w QueryResult := do
  if !fp .DocumentPropertiesW then return { ret := 0 }
  let result ← api (.DocumentPropertiesW
    (documentArg hWnd hPrinter pDeviceName pDevModeOutput pDevModeInput fMode))
  if 0 ≤ result.ret.toInt ∧ pDevModeOutput.isSome then
    memcpy pDevModeOutput result.pDevModeOutput result.pDevModeOutput.length
  SetLastError result.lasterror
  return { ret := result.ret }

def DetourDocumentPropertiesW (fp : Proc → Bool) (hWnd hPrinter : HANDLE w)
    (pDeviceName : Option Bytes) (pDevModeOutput : Option (Buffer w))
    (pDevModeInput : Option Bytes) (fMode : DWORD) : QueryClient w QueryResult :=
  orBypass (.DocumentPropertiesW hWnd hPrinter pDeviceName pDevModeOutput pDevModeInput fMode)
    (forwardDocumentPropertiesW fp hWnd hPrinter pDeviceName pDevModeOutput pDevModeInput fMode)

/-- What `DetourEnumPrintersW` asks the server for. -/
def printersArg (Flags : DWORD) (Name : Option Bytes) (Level cbBuf : DWORD) : ArgEnumPrintersW where
  Flags := Flags
  Name := THRIFT_W_TO_STRING Name
  Level := Level
  cbBuf := cbBuf

/-- `DetourEnumPrintersW` with a connection. -/
def forwardEnumPrintersW (fp : Proc → Bool) (Flags : DWORD) (Name : Option Bytes) (Level : DWORD)
    (pPrinterEnum : Option (Buffer w)) (cbBuf : DWORD) (pcbNeeded pcReturned : Bool) :
    QueryClient w QueryResult := do
  if !fp .EnumPrintersW then return { ret := 0 }
  let result ← api (.EnumPrintersW (printersArg Flags Name Level cbBuf))
  let counts : QueryResult :=
    { ret := BOOL.ofBool result.ret
      count := if pcbNeeded then some result.pcbNeeded else none
      returned := if pcReturned then some result.pcReturned else none }
  if result.ret ∧ pPrinterEnum.isSome then
    memcpy pPrinterEnum result.pPrinterEnum cbBuf.toNat
    match printerInfo Level with
    | some info =>
      storeFields pPrinterEnum fun address =>
        relocations address info (enumPrintersFields Level) result.int32PrinterEnum
      return counts
    | none => return { counts with ret := 0 }
  else
    return counts

def DetourEnumPrintersW (fp : Proc → Bool) (Flags : DWORD) (Name : Option Bytes) (Level : DWORD)
    (pPrinterEnum : Option (Buffer w)) (cbBuf : DWORD) (pcbNeeded pcReturned : Bool) :
    QueryClient w QueryResult :=
  orBypass (.EnumPrintersW Flags Name Level pPrinterEnum cbBuf pcbNeeded pcReturned)
    (forwardEnumPrintersW fp Flags Name Level pPrinterEnum cbBuf pcbNeeded pcReturned)

/-- `DetourGetDefaultPrinterW` with a connection. No function pointer is tested here. -/
def forwardGetDefaultPrinterW (pszBuffer : Option (Buffer w)) (pcchBuffer : Option DWORD) :
    QueryClient w QueryResult := do
  match pcchBuffer with
  | none => return { ret := 0 }
  | some size =>
    let result ← api (.GetDefaultPrinterW { pcchBuffer := size })
    if result.ret then
      memcpy pszBuffer result.pszBuffer (ApiForwardHandler.sizeOfInt w result.pcchBuffer)
    return { ret := BOOL.ofBool result.ret, count := some result.pcchBuffer }

def DetourGetDefaultPrinterW (pszBuffer : Option (Buffer w)) (pcchBuffer : Option DWORD) :
    QueryClient w QueryResult :=
  orBypass (.GetDefaultPrinterW pszBuffer pcchBuffer)
    (forwardGetDefaultPrinterW pszBuffer pcchBuffer)

/-- What `DetourGetPrinterW` asks the server for. -/
def printerArg (hPrinter : HANDLE w) (Level cbBuf : DWORD) : ArgGetPrinterW where
  hPrinter := SAFE_HANDLE hPrinter
  Level := Level
  cbBuf := cbBuf

/-- `DetourGetPrinterW` with a connection. -/
def forwardGetPrinterW (fp : Proc → Bool) (hPrinter : HANDLE w) (Level : DWORD)
    (pPrinter : Option (Buffer w)) (cbBuf : DWORD) (pcbNeeded : Bool) :
    QueryClient w QueryResult := do
  if !fp .GetPrinterW then return { ret := 0 }
  let result ← api (.GetPrinterW (printerArg hPrinter Level cbBuf))
  SetLastError result.lasterror
  let counts : QueryResult :=
    { ret := BOOL.ofBool result.ret
      count := if pcbNeeded then some result.pcbNeeded else none }
  if result.ret then
    memcpy pPrinter result.pPrinter (ApiForwardHandler.sizeOfInt w result.pcbNeeded)
    if Level = 2 then
      storeFields pPrinter fun address =>
        relocations address PRINTER_INFO_2 getPrinterFields result.int32Args ++
          [(offsetOf w PRINTER_INFO_2 .pSecurityDescriptor, 0)]
      return counts
    else
      return { counts with ret := 0 }
  else
    return counts

def DetourGetPrinterW (fp : Proc → Bool) (hPrinter : HANDLE w) (Level : DWORD)
    (pPrinter : Option (Buffer w)) (cbBuf : DWORD) (pcbNeeded : Bool) :
    QueryClient w QueryResult :=
  orBypass (.GetPrinterW hPrinter Level pPrinter cbBuf pcbNeeded)
    (forwardGetPrinterW fp hPrinter Level pPrinter cbBuf pcbNeeded)

end QueryDetour

end RemotePrinter
