-- The Thrift service `SelfService` of `userdefined.thrift`: the requests and
-- results that the client and the server exchange, and the macros of both
-- sides that turn pointers into strings and back.
import RemotePrinter.Winspool

namespace RemotePrinter

/-! ## `std::map` with string keys -/

abbrev StdMap (T : Type) := List (Bytes × T)

/-- `MAP[NAME] = VALUE`. -/
def StdMap.set {T : Type} (m : StdMap T) (name : Bytes) (value : T) : StdMap T :=
  (name, value) :: m.filter (fun e => e.1 != name)

/-- The macro `THRIFT_SAFE_GET`. -/
def THRIFT_SAFE_GET {T : Type} (m : StdMap T) (name : Bytes) (dflt : T) : T :=
  (m.lookup name).getD dflt

/-- The bytes of a string literal. -/
def ascii (s : List Char) : Bytes := s.map (fun c => UInt8.ofNat c.toNat)

/-- The key `"return"`. -/
def kReturn : Bytes := ascii ['r', 'e', 't', 'u', 'r', 'n']

/-- The key `"phPrinter"`. -/
def kPhPrinter : Bytes := ascii ['p', 'h', 'P', 'r', 'i', 'n', 't', 'e', 'r']

/-- The key `"pcWritten"`. -/
def kPcWritten : Bytes := ascii ['p', 'c', 'W', 'r', 'i', 't', 't', 'e', 'n']

/-! ## Pointers and strings -/

/-- The units of a wide string before its first 16-bit zero. -/
def wcslen : Bytes → Nat
  | lo :: hi :: rest => if lo = 0 ∧ hi = 0 then 0 else wcslen rest + 1
  | _ => 0

/-- `std::string((LPSTR)VAL)` of memory: the bytes before the first NUL. -/
def cString (m : Bytes) : Bytes := m.takeWhile (· ≠ 0)

/-- The macro `THRIFT_W_TO_STRING`. -/
def THRIFT_W_TO_STRING (val : Option Bytes) : Bytes :=
  match val with
  | some m => m.take (wcslen m * 2 + 2)
  | none => []

/-- The macro `THRIFT_B_TO_STRING`, with the length as a function of the memory. -/
def THRIFT_B_TO_STRING (poi : Option Bytes) (len : Bytes → Nat) : Bytes :=
  match poi with
  | some m => m.take (len m)
  | none => []

/-- The memory behind `STR.c_str()`: the bytes and the trailing NUL. -/
def cStr (str : Bytes) : Bytes := str ++ [0]

/-- The macro `THRIFT_ZERO_SIZE_STRING_TO_NULL`. -/
def THRIFT_ZERO_SIZE_STRING_TO_NULL (str : Bytes) : Option Bytes :=
  if str.length > 0 then some (cStr str) else none

/-- A `WORD` in memory. -/
def wordAt (m : Bytes) (offset : Nat) : Nat :=
  (m.getD offset 0).toNat + 256 * (m.getD (offset + 1) 0).toNat

/-- The field `dmSize` of a `DEVMODEA`. -/
def dmSizeA (m : Bytes) : Nat := wordAt m 36

/-- The field `dmSize` of a `DEVMODEW`. -/
def dmSizeW (m : Bytes) : Nat := wordAt m 68

/-! ## Requests -/

/-- The requests for the spooler functions. -/
inductive SpoolRequest where
  | OpenPrinterA (pPrinterName : Bytes) (pDefaultExist : Bool) (pDatatype pDevMode : Bytes)
      (DesiredAccess : I32)
  | OpenPrinterW (pPrinterName : Bytes) (pDefaultExist : Bool) (pDatatype pDevMode : Bytes)
      (DesiredAccess : I32)
  | StartPagePrinter (hPrinter : I64)
  | StartDocPrinterW (hPrinter : I64) (Level : I32) (pDocName pOutputFile pDatatype : Bytes)
  | WritePrinter (hPrinter : I64) (pBuf : Bytes) (cbBuf : I32)
  | EndPagePrinter (hPrinter : I64)
  | EndDocPrinter (hPrinter : I64)
  | ClosePrinter (hPrinter : I64)

/-- The requests for the functions of the vendor library. -/
inductive UsbRequest where
  | OpenUsbPort (dwModel : I32)
  | CloseUsbPort
  | WriteUSB (pBuffer : Bytes) (nNumberOfBytesToWrite : I32)
  | ReadUSB (pBuffer : Bytes) (nNumberOfByteToRead : I32)
  | PrintBitmap (pbmpDir : Bytes) (data : Bytes)
  | Print1DBarcode (nCodeType nWidth nHeight nHRI : I32) (pBuffer : Bytes)
  | PrintPDF417 (nColumns nRows nWidth nHeight nECLevel nModule : I32) (pBuffer : Bytes)
      (data : Bytes)
  | PrintQRCode (nModule nSize nECLevel : I32) (pBuffer : Bytes)

inductive Request where
  | spool (q : SpoolRequest)
  | usb (q : UsbRequest)

@[reducible] def SpoolRequest.Result : SpoolRequest → Type
  | OpenPrinterA .. => StdMap I64
  | OpenPrinterW .. => StdMap I64
  | StartPagePrinter _ => Bool
  | StartDocPrinterW .. => I32
  | WritePrinter .. => StdMap I32
  | EndPagePrinter _ => Bool
  | EndDocPrinter _ => Bool
  | ClosePrinter _ => Bool

/-- Every function of the vendor library returns an `i32`. -/
@[reducible] def Request.Result : Request → Type
  | spool q => q.Result
  | usb _ => I32

end RemotePrinter
