-- The handlers of the server for the functions of the vendor library. Two of
-- them print a file: they write the data they got to a temporary file, hand its
-- path to the vendor function and delete it.
import RemotePrinter.ServerHandlers
import RemotePrinter.Detours

open Interactive

namespace RemotePrinter

/-! ## The operations of the handlers -/

/-- What a function of the vendor library answers: its result, and the bytes that `ReadUSB`
stored in the buffer it was given. -/
structure UsbRet where
  ret : I32
  stored : Bytes := []

/-- The file operations name the file by its path. -/
inductive UsbOp where
  | GetTempPathA
  | GetTempFileNameA (lpPathName : Bytes)
  | openFile (file_path : Bytes)
  | writeFile (file_path : Bytes) (binary_data : Bytes)
  | closeFile (file_path : Bytes)
  | DeleteFileA (file_path : Bytes)
  | original (c : UsbCall)

/-- `GetTempPathA` and `GetTempFileNameA` answer with a return value and what is in the buffer;
the operations on a file say whether they succeeded. -/
@[reducible] def UsbOp.Answer : UsbOp → Type
  | GetTempPathA => DWORD × Bytes
  | GetTempFileNameA _ => DWORD × Bytes
  | openFile _ => Bool
  | writeFile .. => Bool
  | closeFile _ => Bool
  | DeleteFileA _ => Bool
  | original _ => UsbRet

abbrev UsbHandler (α : Type) := Prog UsbOp UsbOp.Answer NullCall α

def UsbCall.proc : UsbCall → Proc
  | OpenUsbPort _ => .OpenUsbPort
  | CloseUsbPort => .CloseUsbPort
  | WriteUSB .. => .WriteUSB
  | ReadUSB .. => .ReadUSB
  | PrintBitmap _ => .PrintBitmap
  | Print1DBarcode .. => .Print1DBarcode
  | PrintPDF417 .. => .PrintPDF417
  | PrintQRCode .. => .PrintQRCode

def MAX_PATH : DWORD := 260

namespace ApiForwardHandler

/-- The call through a function pointer of the vendor library. -/
def callVendor (fp : Proc → Bool) (c : UsbCall) : UsbHandler UsbRet :=
  if fp c.proc then Prog.perform (UsbOp.original c) else .fail ⟨c.proc⟩

/-- The handlers that only test the pointer and call it. -/
def forwarded (fp : Proc → Bool) (c : UsbCall) : UsbHandler I32 :=
  if fp c.proc then do
    let r ← callVendor fp c
    return r.ret
  else
    return 0

def OpenUsbPort (fp : Proc → Bool) (dwModel : I32) : UsbHandler I32 :=
  forwarded fp (.OpenUsbPort dwModel)

def CloseUsbPort (fp : Proc → Bool) : UsbHandler I32 := forwarded fp .CloseUsbPort

def WriteUSB (fp : Proc → Bool) (pBuffer : Bytes) (nNumberOfBytesToWrite : I32) :
    UsbHandler I32 :=
  forwarded fp (.WriteUSB (some (cStr pBuffer)) nNumberOfBytesToWrite)

def ReadUSB (fp : Proc → Bool) (pBuffer : Bytes) (nNumberOfByteToRead : I32) : UsbHandler I32 :=
  forwarded fp (.ReadUSB (some (cStr pBuffer)) nNumberOfByteToRead)

def Print1DBarcode (fp : Proc → Bool) (nCodeType nWidth nHeight nHRI : I32) (pBuffer : Bytes) :
    UsbHandler I32 :=
  forwarded fp (.Print1DBarcode nCodeType nWidth nHeight nHRI (some (cStr pBuffer)))

def PrintQRCode (fp : Proc → Bool) (nModule nSize nECLevel : I32) (pBuffer : Bytes) :
    UsbHandler I32 :=
  forwarded fp (.PrintQRCode nModule nSize nECLevel (some (cStr pBuffer)))

/-- `bool getTempPath(std::string& path)`: the name of a new file, which exists then. -/
def getTempPath : UsbHandler (Option Bytes) := do
  let (dwRetVal, lpTempPathBuffer) ← Prog.perform UsbOp.GetTempPathA
  if dwRetVal > MAX_PATH ∨ dwRetVal = 0 then return none
  let (uRetVal, szTempFileName) ← Prog.perform (UsbOp.GetTempFileNameA (cString lpTempPathBuffer))
  if uRetVal = 0 then return none
  return some (cString szTempFileName)

/-- `bool write_to_file(file_path, binary_data)`. The stream throws nothing, and the states after
the write and the close are not looked at. -/
def write_to_file (file_path binary_data : Bytes) : UsbHandler Bool := do
  if !(← Prog.perform (UsbOp.openFile file_path)) then return false
  let _ ← Prog.perform (UsbOp.writeFile file_path binary_data)
  let _ ← Prog.perform (UsbOp.closeFile file_path)
  return true

/-- The handlers that print a file. `call` is the call of the vendor function on a path. -/
def printFile (fp : Proc → Bool) (data : Bytes) (tested : Proc) (call : Bytes → UsbCall) :
    UsbHandler I32 := do
  if !fp tested then return 0
  if data.length = 0 then return 0
  match ← getTempPath with
  | none => return 0
  | some temp_path =>
    if !(← write_to_file temp_path data) then return 0
    let r ← callVendor fp (call temp_path)
    let _ ← Prog.perform (UsbOp.DeleteFileA temp_path)
    return r.ret

def PrintBitmap (fp : Proc → Bool) (_pbmpDir data : Bytes) : UsbHandler I32 :=
  printFile fp data .PrintBitmap fun temp_path => .PrintBitmap (some (cStr temp_path))

def PrintPDF417 (fp : Proc → Bool) (nColumns nRows nWidth nHeight nECLevel nModule : I32)
    (_pBuffer data : Bytes) : UsbHandler I32 :=
  printFile fp data .PrintPDF417 fun temp_path =>
    .PrintPDF417 nColumns nRows nWidth nHeight nECLevel nModule (some (cStr temp_path))

/-- The processor hands a request to the handler of its method. -/
def handleUsb (fp : Proc → Bool) : UsbRequest → UsbHandler I32
  | .OpenUsbPort m => OpenUsbPort fp m
  | .CloseUsbPort => CloseUsbPort fp
  | .WriteUSB b n => WriteUSB fp b n
  | .ReadUSB b n => ReadUSB fp b n
  | .PrintBitmap p data => PrintBitmap fp p data
  | .Print1DBarcode c w h r b => Print1DBarcode fp c w h r b
  | .PrintPDF417 c r w h e m b data => PrintPDF417 fp c r w h e m b data
  | .PrintQRCode m s e b => PrintQRCode fp m s e b

end ApiForwardHandler

/-! ## The files of the server -/

/-- The files by their paths. -/
abbrev Disk := Bytes → Option Bytes

def Disk.set (D : Disk) (path : Bytes) (content : Option Bytes) : Disk :=
  fun p => if p = path then content else D p

@[simp] theorem Disk.set_same (D : Disk) (path : Bytes) (content : Option Bytes) :
    D.set path content path = content := by
  simp [Disk.set]

/-- What an operation does to the files. `GetTempFileNameA` makes an empty file with a new name.
A write or a close that fails leaves a part of the data. -/
def Disk.Acts (D : Disk) (op : UsbOp) (a : op.Answer) (D' : Disk) : Prop :=
  match op, a with
  | .GetTempPathA, _ => D' = D
  | .GetTempFileNameA _, (ret, name) =>
    if ret = 0 then D' = D
    else D (cString name) = none ∧ D' = D.set (cString name) (some [])
  | .openFile p, opened => D' = if opened then D.set p (some []) else D
  | .writeFile p data, good =>
    ∃ n, (good = true → n = data.length) ∧ D' = D.set p (some ((D p).getD [] ++ data.take n))
  | .closeFile p, good =>
    ∃ n, (good = true → D' = D) ∧ (good = false → D' = D.set p ((D p).map (List.take n)))
  | .DeleteFileA p, deleted => D' = if deleted then D.set p none else D
  | .original _, _ => D' = D

/-- The files as the environment of the handlers, with the files before an operation as its
note. -/
def Disk.env : Env UsbOp UsbOp.Answer Disk Disk := fun D op a n D' => n = D ∧ D.Acts op a D'

end RemotePrinter
