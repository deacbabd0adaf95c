-- The detours of the client, `userdef_client.cpp`. A detour is a program over
-- the operations below, so that other threads of the host can run between
-- two operations of one detour.
import RemotePrinter.Service

open Interactive

namespace RemotePrinter

/-! ## The operations of a detour -/

inductive TTransportExceptionType where
  | UNKNOWN | NOT_OPEN | TIMED_OUT | END_OF_FILE
  deriving DecidableEq, Repr

inductive TProtocolExceptionType where
  | NEGATIVE_SIZE | SIZE_LIMIT | BAD_VERSION | DEPTH_LIMIT
  deriving DecidableEq, Repr

/-- The exceptions of Thrift that a call of `_api` can throw. A `TApplicationException`
carries the type that the server sent, or `MISSING_RESULT`. -/
inductive TException where
  | TTransportException (type : TTransportExceptionType)
  | TProtocolException (type : TProtocolExceptionType)
  | TApplicationException (type : I32)
  deriving DecidableEq

/-- The ways in which a detour does not return: an exception leaves it, or it reads through
a NULL pointer. `length_error` is what `std::string` throws at a size it cannot have. -/
inductive Abnormal where
  | thrown (x : TException)
  | length_error
  | nullRead
  deriving DecidableEq

inductive ClientOp (w : PtrWidth) where
  | ensure_connection
  | isBixolonPrinterByName (printerName : Bytes)
  | isBixolonPrinterByHandle (hHandle : HANDLE w)
  | addBixolonPrinter (hHandle : HANDLE w)
  | closeBixolonPrinter (hHandle : HANDLE w)
  | original (c : SpoolCall (HANDLE w))
  | api (q : Request)
  | read_from_file (file_path : Bytes)

@[reducible] def ClientOp.Answer {w : PtrWidth} : ClientOp w → Type
  | ensure_connection => Bool
  | isBixolonPrinterByName _ => Bool
  | isBixolonPrinterByHandle _ => Bool
  | addBixolonPrinter _ => Bool
  | closeBixolonPrinter _ => Unit
  | original c => c.Ret
  | api q => Except TException q.Result
  | read_from_file _ => Option Bytes

abbrev Client (w : PtrWidth) (α : Type) := Prog (ClientOp w) ClientOp.Answer Abnormal α

section
variable {w : PtrWidth}

def ensure_connection : Client w Bool := Prog.perform ClientOp.ensure_connection

def isBixolonPrinterByHandle (hHandle : HANDLE w) : Client w Bool :=
  Prog.perform (ClientOp.isBixolonPrinterByHandle hHandle)

/-- `isBixolonPrinterByName`: a NULL name is no Bixolon printer. -/
def isBixolonPrinterByName (printerName : Option Bytes) : Client w Bool :=
  match printerName with
  | some m => Prog.perform (ClientOp.isBixolonPrinterByName (cString m))
  | none => return false

def addBixolonPrinter (hHandle : HANDLE w) : Client w Bool :=
  Prog.perform (ClientOp.addBixolonPrinter hHandle)

def closeBixolonPrinter (hHandle : HANDLE w) : Client w Unit :=
  Prog.perform (ClientOp.closeBixolonPrinter hHandle)

/-- The call of the local function behind a hook, `fp...`. -/
def fpOriginal (c : SpoolCall (HANDLE w)) : Client w c.Ret :=
  Prog.perform (ClientOp.original c)

/-- `bool read_from_file(file_path, binary_data)`: the data of a file that can be read. -/
def read_from_file (file_path : Bytes) : Client w (Option Bytes) :=
  Prog.perform (ClientOp.read_from_file file_path)

/-- `_api->...`: the request and its result. No detour catches what the call throws. -/
def api (q : Request) : Client w q.Result :=
  .call (ClientOp.api q) fun
    | .ok a => .done a
    | .error x => .fail (.thrown x)

/-- `std::string(p)`, and the macro `THRIFT_A_TO_STRING`: a read of the NUL-terminated
bytes, also through a NULL pointer. -/
def THRIFT_A_TO_STRING (val : Option Bytes) : Client w Bytes :=
  match val with
  | some m => return cString m
  | none => Prog.fail .nullRead

/-- `std::string((char*)p, n)`: a read of `n` bytes. A negative `int` is a size that no
string has. -/
def std_string (p : Option Bytes) (n : Int) : Client w Bytes :=
  if n < 0 then Prog.fail .length_error
  else
    match p with
    | some m => return m.take n.toNat
    | none => if n = 0 then return [] else Prog.fail .nullRead

/-- At a size that is a `DWORD` or a `size_t` there is no `length_error`. -/
theorem std_string_ofNat (p : Option Bytes) (n : Nat) :
    (std_string p n : Client w Bytes) =
      match p with
      | some m => .done (m.take n)
      | none => if n = 0 then .done [] else .fail .nullRead := by
  unfold std_string
  rw [if_neg (by omega)]
  cases p with
  | some m => rfl
  | none =>
    by_cases hn : n = 0
    · simp [hn]
    · rw [if_neg hn]
      exact if_neg (by omega)

end

/-! ## The UTF-8 name of a wide printer name -/

/-- The UTF-8 bytes of one UCS-2 unit, as `std::codecvt_utf8<wchar_t>` writes them. -/
def utf8OfUnit (u : Nat) : Bytes :=
  if u < 0x80 then [UInt8.ofNat u]
  else if u < 0x800 then [UInt8.ofNat (0xC0 + u / 64), UInt8.ofNat (0x80 + u % 64)]
  else [UInt8.ofNat (0xE0 + u / 4096), UInt8.ofNat (0x80 + u / 64 % 64),
    UInt8.ofNat (0x80 + u % 64)]

/-- `ws2s(std::wstring(pPrinterName))`: the units before the 16-bit zero, in UTF-8. -/
def ws2s : Bytes → Bytes
  | lo :: hi :: rest =>
    if lo = 0 ∧ hi = 0 then [] else utf8OfUnit (lo.toNat + 256 * hi.toNat) ++ ws2s rest
  | _ => []

/-! ## The spooler detours -/

section
variable {w : PtrWidth}

/-- What both open detours do with the answer of the server. -/
def openResult (phPrinter : Bool) (ret : StdMap I64) : Client w (OpenRet (HANDLE w)) := do
  let result : BOOL := (THRIFT_SAFE_GET ret kReturn 0).setWidth 32
  if result.toBool then
    let h := handleOfInt64 w (THRIFT_SAFE_GET ret kPhPrinter 0)
    let _ ← addBixolonPrinter h
    return { ret := result, phPrinter := if phPrinter then some h else none }
  else
    return { ret := result, phPrinter := none }

def DetourOpenPrinterA (pPrinterName : Option Bytes) (phPrinter : Bool)
    (pDefault : Option PRINTER_DEFAULTS) : Client w (OpenRet (HANDLE w)) := do
  if ← ensure_connection then
    if ← isBixolonPrinterByName pPrinterName then
      let printerName := (pPrinterName.map cString).getD []
      match pDefault with
      | some def' =>
        let pDatatype ← THRIFT_A_TO_STRING def'.pDatatype
        let pDevMode := THRIFT_B_TO_STRING def'.pDevMode dmSizeA
        let ret ← api (.spool (.OpenPrinterA printerName true pDatatype pDevMode
          def'.DesiredAccess))
        openResult phPrinter ret
      | none =>
        let ret ← api (.spool (.OpenPrinterA printerName false [] [] 0))
        openResult phPrinter ret
    else
      fpOriginal (.OpenPrinterA pPrinterName phPrinter pDefault)
  else
    fpOriginal (.OpenPrinterA pPrinterName phPrinter pDefault)

def DetourOpenPrinterW (pPrinterName : Option Bytes) (phPrinter : Bool)
    (pDefault : Option PRINTER_DEFAULTS) : Client w (OpenRet (HANDLE w)) := do
  if ← ensure_connection then
    if ← isBixolonPrinterByName (pPrinterName.map fun m => cStr (ws2s m)) then
      let printerName := THRIFT_W_TO_STRING pPrinterName
      match pDefault with
      | some def' =>
        let ret ← api (.spool (.OpenPrinterW printerName true
          (THRIFT_W_TO_STRING def'.pDatatype) (THRIFT_B_TO_STRING def'.pDevMode dmSizeW)
          def'.DesiredAccess))
        openResult phPrinter ret
      | none =>
        let ret ← api (.spool (.OpenPrinterW printerName false [] [] 0))
        openResult phPrinter ret
    else
      fpOriginal (.OpenPrinterW pPrinterName phPrinter pDefault)
  else
    fpOriginal (.OpenPrinterW pPrinterName phPrinter pDefault)

/-- The test of every detour on a handle: the call is forwarded if there is a connection and
the handle is a tracked one, else it goes to the local function. -/
def forwardOr {α : Type} (hPrinter : HANDLE w) (forward bypass : Client w α) : Client w α := do
  if ← ensure_connection then
    if ← isBixolonPrinterByHandle hPrinter then forward else bypass
  else
    bypass

def DetourStartPagePrinter (hPrinter : HANDLE w) : Client w BOOL :=
  forwardOr hPrinter
    (do return BOOL.ofBool (← api (.spool (.StartPagePrinter (SAFE_HANDLE hPrinter)))))
    (fpOriginal (.StartPagePrinter hPrinter))

def DetourStartDocPrinterW (hPrinter : HANDLE w) (Level : DWORD) (pDocInfo : Option DOC_INFO) :
    Client w DWORD :=
  forwardOr hPrinter
    (match pDocInfo with
      | some doc =>
        api (.spool (.StartDocPrinterW (SAFE_HANDLE hPrinter) Level
          (THRIFT_W_TO_STRING doc.pDocName) (THRIFT_W_TO_STRING doc.pOutputFile)
          (THRIFT_W_TO_STRING doc.pDatatype)))
      | none => api (.spool (.StartDocPrinterW (SAFE_HANDLE hPrinter) Level [] [] [])))
    (fpOriginal (.StartDocPrinterW hPrinter Level pDocInfo))

def DetourWritePrinter (hPrinter : HANDLE w) (pBuf : Option Bytes) (cbBuf : DWORD)
    (pcWritten : Bool) : Client w WriteRet :=
  forwardOr hPrinter
    (do
      let data ← std_string pBuf (cbBuf.toNat : Int)
      let ret ← api (.spool (.WritePrinter (SAFE_HANDLE hPrinter) data cbBuf))
      return { ret := THRIFT_SAFE_GET ret kReturn 0
               pcWritten := if pcWritten then THRIFT_SAFE_GET ret kPcWritten 0 else 0 })
    (fpOriginal (.WritePrinter hPrinter pBuf cbBuf pcWritten))

def DetourEndPagePrinter (hPrinter : HANDLE w) : Client w BOOL :=
  forwardOr hPrinter
    (do return BOOL.ofBool (← api (.spool (.EndPagePrinter (SAFE_HANDLE hPrinter)))))
    (fpOriginal (.EndPagePrinter hPrinter))

def DetourEndDocPrinter (hPrinter : HANDLE w) : Client w BOOL :=
  forwardOr hPrinter
    (do return BOOL.ofBool (← api (.spool (.EndDocPrinter (SAFE_HANDLE hPrinter)))))
    (fpOriginal (.EndDocPrinter hPrinter))

/-- A forwarded close leaves the tracked handles before the server is asked. -/
def DetourClosePrinter (hPrinter : HANDLE w) : Client w BOOL :=
  forwardOr hPrinter
    (do
      closeBixolonPrinter hPrinter
      return BOOL.ofBool (← api (.spool (.ClosePrinter (SAFE_HANDLE hPrinter)))))
    (fpOriginal (.ClosePrinter hPrinter))

/-- The detour of a spooler function. -/
def detour : (c : SpoolCall (HANDLE w)) → Client w c.Ret
  | .OpenPrinterA n ph pd => DetourOpenPrinterA n ph pd
  | .OpenPrinterW n ph pd => DetourOpenPrinterW n ph pd
  | .StartPagePrinter h => DetourStartPagePrinter h
  | .StartDocPrinterW h l di => DetourStartDocPrinterW h l di
  | .WritePrinter h b n pw => DetourWritePrinter h b n pw
  | .EndPagePrinter h => DetourEndPagePrinter h
  | .EndDocPrinter h => DetourEndDocPrinter h
  | .ClosePrinter h => DetourClosePrinter h

end

/-! ## The request of a call -/

/-- The request that a forwarded call sends. There is none if the detour reads through a NULL
pointer first. -/
def SpoolCall.request {w : PtrWidth} : SpoolCall (HANDLE w) → Option SpoolRequest
  | OpenPrinterA name _ none => some (.OpenPrinterA ((name.map cString).getD []) false [] [] 0)
  | OpenPrinterA name _ (some pDefault) =>
    pDefault.pDatatype.map fun m => .OpenPrinterA ((name.map cString).getD []) true (cString m)
      (THRIFT_B_TO_STRING pDefault.pDevMode dmSizeA) pDefault.DesiredAccess
  | OpenPrinterW name _ none => some (.OpenPrinterW (THRIFT_W_TO_STRING name) false [] [] 0)
  | OpenPrinterW name _ (some pDefault) =>
    some (.OpenPrinterW (THRIFT_W_TO_STRING name) true (THRIFT_W_TO_STRING pDefault.pDatatype)
      (THRIFT_B_TO_STRING pDefault.pDevMode dmSizeW) pDefault.DesiredAccess)
  | StartPagePrinter h => some (.StartPagePrinter (SAFE_HANDLE h))
  | StartDocPrinterW h level none => some (.StartDocPrinterW (SAFE_HANDLE h) level [] [] [])
  | StartDocPrinterW h level (some doc) =>
    some (.StartDocPrinterW (SAFE_HANDLE h) level (THRIFT_W_TO_STRING doc.pDocName)
      (THRIFT_W_TO_STRING doc.pOutputFile) (THRIFT_W_TO_STRING doc.pDatatype))
  | WritePrinter h none n _ => if n = 0 then some (.WritePrinter (SAFE_HANDLE h) [] n) else none
  | WritePrinter h (some m) n _ => some (.WritePrinter (SAFE_HANDLE h) (m.take n.toNat) n)
  | EndPagePrinter h => some (.EndPagePrinter (SAFE_HANDLE h))
  | EndDocPrinter h => some (.EndDocPrinter (SAFE_HANDLE h))
  | ClosePrinter h => some (.ClosePrinter (SAFE_HANDLE h))

/-- The handle that the client takes from an answer. -/
def SpoolRequest.granted (w : PtrWidth) : (q : SpoolRequest) → q.Result → Option (HANDLE w)
  | OpenPrinterA .., ret =>
    if BOOL.toBool ((THRIFT_SAFE_GET ret kReturn 0).setWidth 32) then
      some (handleOfInt64 w (THRIFT_SAFE_GET ret kPhPrinter 0)) else none
  | OpenPrinterW .., ret =>
    if BOOL.toBool ((THRIFT_SAFE_GET ret kReturn 0).setWidth 32) then
      some (handleOfInt64 w (THRIFT_SAFE_GET ret kPhPrinter 0)) else none
  | _, _ => none

/-! ## The detours of the vendor library

None of them has a local function to fall back to: without a connection they answer 0. -/

/-- A call of a function of the vendor library. A pointer is `none` for NULL. -/
inductive UsbCall where
  | OpenUsbPort (dwModel : I32)
  | CloseUsbPort
  | WriteUSB (pBuffer : Option Bytes) (nNumberOfBytesToWrite : I32)
  | ReadUSB (pBuffer : Option Bytes) (nNumberOfByteToRead : I32)
  | PrintBitmap (pbmpDir : Option Bytes)
  | Print1DBarcode (nCodeType nWidth nHeight nHRI : I32) (pBuffer : Option Bytes)
  | PrintPDF417 (nColumns nRows nWidth nHeight nECLevel nModule : I32) (pBuffer : Option Bytes)
  | PrintQRCode (nModule nSize nECLevel : I32) (pBuffer : Option Bytes)

section
variable {w : PtrWidth}

def DetourOpenUsbPort (dwModel : I32) : Client w I32 := do
  if !(← ensure_connection) then return 0
  api (.usb (.OpenUsbPort dwModel))

def DetourCloseUsbPort : Client w I32 := do
  if !(← ensure_connection) then return 0
  api (.usb .CloseUsbPort)

def DetourWriteUSB (pBuffer : Option Bytes) (nNumberOfBytesToWrite : I32) : Client w I32 := do
  if !(← ensure_connection) then return 0
  let data ← std_string pBuffer nNumberOfBytesToWrite.toInt
  api (.usb (.WriteUSB data nNumberOfBytesToWrite))

/-- The `memcpy` at the end of the source copies back the bytes that were read from `pBuffer`. -/
def DetourReadUSB (pBuffer : Option Bytes) (nNumberOfByteToRead : I32) : Client w I32 := do
  if !(← ensure_connection) then return 0
  let arg0 ← std_string pBuffer nNumberOfByteToRead.toInt
  api (.usb (.ReadUSB arg0 nNumberOfByteToRead))

def DetourPrintBitmap (pbmpDir : Option Bytes) : Client w I32 := do
  if !(← ensure_connection) then return 0
  match pbmpDir with
  | none => return 0
  | some m =>
    match ← read_from_file (cString m) with
    | none => return 0
    | some bmp_data => api (.usb (.PrintBitmap (cString m) bmp_data))

def DetourPrint1DBarcode (nCodeType nWidth nHeight nHRI : I32) (pBuffer : Option Bytes) :
    Client w I32 := do
  if !(← ensure_connection) then return 0
  let data ← THRIFT_A_TO_STRING pBuffer
  api (.usb (.Print1DBarcode nCodeType nWidth nHeight nHRI data))

def DetourPrintPDF417 (nColumns nRows nWidth nHeight nECLevel nModule : I32)
    (pBuffer : Option Bytes) : Client w I32 := do
  if !(← ensure_connection) then return 0
  match pBuffer with
  | none => return 0
  | some m =>
    match ← read_from_file (cString m) with
    | none => return 0
    | some bmp_data =>
      api (.usb (.PrintPDF417 nColumns nRows nWidth nHeight nECLevel nModule (cString m) bmp_data))

def DetourPrintQRCode (nModule nSize nECLevel : I32) (pBuffer : Option Bytes) :
    Client w I32 := do
  if !(← ensure_connection) then return 0
  let data ← THRIFT_A_TO_STRING pBuffer
  api (.usb (.PrintQRCode nModule nSize nECLevel data))

/-- The detour of a function of the vendor library. -/
def usbDetour : UsbCall → Client w I32
  | .OpenUsbPort m => DetourOpenUsbPort m
  | .CloseUsbPort => DetourCloseUsbPort
  | .WriteUSB b n => DetourWriteUSB b n
  | .ReadUSB b n => DetourReadUSB b n
  | .PrintBitmap p => DetourPrintBitmap p
  | .Print1DBarcode c wi h r b => DetourPrint1DBarcode c wi h r b
  | .PrintPDF417 c r wi h e m b => DetourPrintPDF417 c r wi h e m b
  | .PrintQRCode m s e b => DetourPrintQRCode m s e b

end

/-! ## All detours -/

/-- A call of the host: of winspool, or of the vendor library. -/
inductive HostCall (w : PtrWidth) where
  | spool (c : SpoolCall (HANDLE w))
  | usb (c : UsbCall)

@[reducible] def HostCall.Ret {w : PtrWidth} : HostCall w → Type
  | spool c => c.Ret
  | usb _ => I32

/-- The detour of a hooked function. -/
def HostCall.detour {w : PtrWidth} : (c : HostCall w) → Client w c.Ret
  | spool c => RemotePrinter.detour c
  | usb c => usbDetour c

end RemotePrinter
