-- The handlers of the server for the spooler functions that the client does not
-- hook, and the constructor of `ApiForwardHandler`, which looks up the functions
-- of both libraries.
import RemotePrinter.HookTable
import RemotePrinter.ServerHandlers

open Interactive

namespace RemotePrinter

/-! ## Calls and requests -/

/-- The calls that these handlers make. `phPrinter` says whether there is a pointer for the
handle. -/
inductive RemainingCall (w : PtrWidth) where
  | CloseSpoolFileHandle (hPrinter hSpoolFile : HANDLE w)
  | CommitSpoolData (hPrinter hSpoolFile : HANDLE w) (cbCommit : DWORD)
  | OpenPrinter2W (pPrinterName : Option Bytes) (phPrinter : Bool)
      (pDefault : Option PRINTER_DEFAULTS) (pOptions : Option Bytes)

@[reducible] def RemainingCall.Ret {w : PtrWidth} : RemainingCall w → Type
  | CloseSpoolFileHandle .. => BOOL
  | CommitSpoolData .. => HANDLE w
  | OpenPrinter2W .. => OpenRet (HANDLE w)

def RemainingCall.proc {w : PtrWidth} : RemainingCall w → Proc
  | CloseSpoolFileHandle .. => .CloseSpoolFileHandle
  | CommitSpoolData .. => .CommitSpoolData
  | OpenPrinter2W .. => .OpenPrinter2W

inductive RemainingRequest where
  | CloseSpoolFileHandle (hPrinter hSpoolFile : I64)
  | CommitSpoolData (hPrinter hSpoolFile : I64) (cbCommit : I32)
  | DocumentEvent (hPrinter hdc : I64) (iEsc cbIn : I32) (pvIn : Bytes) (cbOut : I32)
      (pvOut : Bytes)
  | EnumFormsW (hPrinter : I64) (Level cbBuf : I32)
  | FindClosePrinterChangeNotification (hChange : I64)
  | FindFirstPrinterChangeNotification (hPrinter : I64) (fdwFilter fdwOptions : I32)
      (pPrinterNotifyOptions : Bytes)
  | FindNextPrinterChangeNotification (hChange : I64) (pPrinterNotifyOptions : Bytes)
  | FreePrinterNotifyInfo (pPrinterNotifyInfo : Bytes)
  | GetPrinterDataW (hPrinter : I64) (pValueName : Bytes) (nSize : I32)
  | GetPrinterDataExW (hPrinter : I64) (pKeyName pValueName : Bytes) (nSize : I32)
  | GetSpoolFileHandle (hPrinter : I64)
  | IsValidDevmodeW (pDevmode : Bytes) (DevmodeSize : I32)
  | OpenPrinter2W (pPrinterName : Bytes) (pDefaultExist : Bool) (pDatatype pDevMode : Bytes)
      (DesiredAccess : I32) (pOptions : Bytes)
  | OpenPrinter2A (pPrinterName : Bytes) (pDefaultExist : Bool) (pDatatype pDevMode : Bytes)
      (DesiredAccess : I32) (pOptions : Bytes)

@[reducible] def RemainingRequest.Result : RemainingRequest → Type
  | CloseSpoolFileHandle .. => Bool
  | CommitSpoolData .. => I64
  | DocumentEvent .. => StdMap Bytes
  | EnumFormsW .. => StdMap Bytes
  | FindClosePrinterChangeNotification _ => Bool
  | FindFirstPrinterChangeNotification .. => I64
  | FindNextPrinterChangeNotification .. => StdMap Bytes
  | FreePrinterNotifyInfo _ => Bool
  | GetPrinterDataW .. => StdMap Bytes
  | GetPrinterDataExW .. => StdMap Bytes
  | GetSpoolFileHandle _ => I64
  | IsValidDevmodeW .. => Bool
  | OpenPrinter2W .. => StdMap I64
  | OpenPrinter2A .. => StdMap I64

/-! ## The handlers -/

abbrev RemainingHandler (w : PtrWidth) (α : Type) :=
  Prog (RemainingCall w) RemainingCall.Ret NullCall α

namespace ApiForwardHandler
variable {w : PtrWidth} {α : Type}

/-- The call through a function pointer. -/
def callRemaining (fp : Proc → Bool) (c : RemainingCall w) : RemainingHandler w c.Ret :=
  if fp c.proc then Prog.perform c else .fail ⟨c.proc⟩

/-- The handlers that test the pointer of their call. -/
def guardedCall (fp : Proc → Bool) (failure : α) (c : RemainingCall w) (pack : c.Ret → α) :
    RemainingHandler w α :=
  if fp c.proc then do
    let ret ← callRemaining fp c
    return pack ret
  else
    return failure

/-- The handlers that test a pointer and do not call it: both ways out give the same answer. -/
def testedOnly (fp : Proc → Bool) (tested : Proc) (answer : α) : RemainingHandler w α := do
  if !fp tested then return answer
  return answer

def CloseSpoolFileHandle (fp : Proc → Bool) (hPrinter hSpoolFile : I64) :
    RemainingHandler w Bool :=
  guardedCall fp false
    (.CloseSpoolFileHandle (handleOfInt64 w hPrinter) (handleOfInt64 w hSpoolFile)) BOOL.toBool

def CommitSpoolData (fp : Proc → Bool) (hPrinter hSpoolFile : I64) (cbCommit : I32) :
    RemainingHandler w I64 :=
  guardedCall fp 0
    (.CommitSpoolData (handleOfInt64 w hPrinter) (handleOfInt64 w hSpoolFile) cbCommit)
    int64OfHandle

def DocumentEvent (fp : Proc → Bool) (_hPrinter _hdc : I64) (_iEsc _cbIn : I32) (_pvIn : Bytes)
    (_cbOut : I32) (_pvOut : Bytes) : RemainingHandler w (StdMap Bytes) :=
  testedOnly fp .DocumentEvent []

def EnumFormsW (fp : Proc → Bool) (_hPrinter : I64) (_Level _cbBuf : I32) :
    RemainingHandler w (StdMap Bytes) :=
  testedOnly fp .EnumFormsW []

def FindClosePrinterChangeNotification (fp : Proc → Bool) (_hChange : I64) :
    RemainingHandler w Bool :=
  testedOnly fp .FindClosePrinterChangeNotification false

def FindFirstPrinterChangeNotification (fp : Proc → Bool) (_hPrinter : I64)
    (_fdwFilter _fdwOptions : I32) (_pPrinterNotifyOptions : Bytes) : RemainingHandler w I64 :=
  testedOnly fp .FindFirstPrinterChangeNotification 0

def FindNextPrinterChangeNotification (fp : Proc → Bool) (_hChange : I64)
    (_pPrinterNotifyOptions : Bytes) : RemainingHandler w (StdMap Bytes) :=
  testedOnly fp .FindNextPrinterChangeNotification []

def FreePrinterNotifyInfo (fp : Proc → Bool) (_pPrinterNotifyInfo : Bytes) :
    RemainingHandler w Bool :=
  testedOnly fp .FreePrinterNotifyInfo false

def GetPrinterDataW (fp : Proc → Bool) (_hPrinter : I64) (_pValueName : Bytes) (_nSize : I32) :
    RemainingHandler w (StdMap Bytes) :=
  testedOnly fp .GetPrinterDataW []

def GetPrinterDataExW (fp : Proc → Bool) (_hPrinter : I64) (_pKeyName _pValueName : Bytes)
    (_nSize : I32) : RemainingHandler w (StdMap Bytes) :=
  testedOnly fp .GetPrinterDataExW []

def GetSpoolFileHandle (fp : Proc → Bool) (_hPrinter : I64) : RemainingHandler w I64 :=
  testedOnly fp .GetSpoolFileHandle 0

def IsValidDevmodeW (fp : Proc → Bool) (_pDevmode : Bytes) (_DevmodeSize : I32) :
    RemainingHandler w Bool :=
  testedOnly fp .IsValidDevmodeW false

/-- `pLocalDefault` of `OpenPrinter2W`, which makes no empty string NULL. -/
def localDefault2 (pDefaultExist : Bool) (pDatatype pDevMode : Bytes) (DesiredAccess : I32) :
    Option PRINTER_DEFAULTS :=
  if pDefaultExist then
    some { pDatatype := some (cStr pDatatype)
           pDevMode := some (cStr pDevMode)
           DesiredAccess := DesiredAccess }
  else none

def OpenPrinter2W (fp : Proc → Bool) (pPrinterName : Bytes) (pDefaultExist : Bool)
    (pDatatype pDevMode : Bytes) (DesiredAccess : I32) (_pOptions : Bytes) :
    RemainingHandler w (StdMap I64) :=
  guardedCall fp notOpened
    (.OpenPrinter2W (some (cStr pPrinterName)) true
      (localDefault2 pDefaultExist pDatatype pDevMode DesiredAccess) none)
    packOpen

/-- No pointer is tested here, and none is called. -/
def OpenPrinter2A (_pPrinterName : Bytes) (_pDefaultExist : Bool) (_pDatatype _pDevMode : Bytes)
    (_DesiredAccess : I32) (_pOptions : Bytes) : RemainingHandler w (StdMap I64) :=
  return []

/-- The processor hands a request to the handler of its method. -/
def handleRemaining (w : PtrWidth) (fp : Proc → Bool) :
    (q : RemainingRequest) → RemainingHandler w q.Result
  | .CloseSpoolFileHandle h f => CloseSpoolFileHandle fp h f
  | .CommitSpoolData h f n => CommitSpoolData fp h f n
  | .DocumentEvent h hdc e n i o b => DocumentEvent fp h hdc e n i o b
  | .EnumFormsW h l n => EnumFormsW fp h l n
  | .FindClosePrinterChangeNotification h => FindClosePrinterChangeNotification fp h
  | .FindFirstPrinterChangeNotification h f o b => FindFirstPrinterChangeNotification fp h f o b
  | .FindNextPrinterChangeNotification h b => FindNextPrinterChangeNotification fp h b
  | .FreePrinterNotifyInfo b => FreePrinterNotifyInfo fp b
  | .GetPrinterDataW h v n => GetPrinterDataW fp h v n
  | .GetPrinterDataExW h k v n => GetPrinterDataExW fp h k v n
  | .GetSpoolFileHandle h => GetSpoolFileHandle fp h
  | .IsValidDevmodeW d n => IsValidDevmodeW fp d n
  | .OpenPrinter2W name e dt dm acc o => OpenPrinter2W fp name e dt dm acc o
  | .OpenPrinter2A name e dt dm acc o => OpenPrinter2A name e dt dm acc o

/-! ## The constructor -/

/-- The calls of the constructor. An exported function stands for its name. -/
inductive LoadOp where
  | LoadLibraryA (lpLibFileName : Bytes)
  | GetProcAddress (hModule : HMODULE) (lpProcName : Proc)

/-- A module or NULL, and whether there is an address. -/
@[reducible] def LoadOp.Answer : LoadOp → Type
  | LoadLibraryA _ => Option HMODULE
  | GetProcAddress .. => Bool

abbrev Loading (α : Type) := Prog LoadOp LoadOp.Answer Empty α

/-- `"winspool.drv"`. -/
def winspool_drv : Bytes := ascii ['w', 'i', 'n', 's', 'p', 'o', 'o', 'l', '.', 'd', 'r', 'v']

/-- `"BXLPDIR.DLL"`. -/
def BXLPDIR_DLL : Bytes := ascii ['B', 'X', 'L', 'P', 'D', 'I', 'R', '.', 'D', 'L', 'L']

/-- The functions that are looked up in `winspool.drv`, in order. -/
def spoolerProcs : List Proc :=
  [.OpenPrinterA, .OpenPrinterW, .StartPagePrinter, .StartDocPrinterW, .WritePrinter,
    .EndPagePrinter, .EndDocPrinter, .ClosePrinter, .CloseSpoolFileHandle, .CommitSpoolData,
    .DocumentEvent, .DocumentPropertiesW, .EnumFormsW, .EnumPrintersW,
    .FindClosePrinterChangeNotification, .FindFirstPrinterChangeNotification,
    .FindNextPrinterChangeNotification, .FreePrinterNotifyInfo, .GetDefaultPrinterW,
    .GetPrinterDataW, .GetPrinterDataExW, .GetPrinterW, .GetSpoolFileHandle, .IsValidDevmodeW,
    .OpenPrinter2W, .OpenPrinter2A]

/-- The functions that are looked up in `BXLPDIR.DLL`, in order. -/
def vendorProcs : List Proc :=
  [.OpenUsbPort, .CloseUsbPort, .WriteUSB, .ReadUSB, .PrintBitmap, .Print1DBarcode, .PrintPDF417,
    .PrintQRCode]

/-- The assignments `fp... = GetProcAddress(hModule, ...)`. -/
def resolve (hModule : HMODULE) (fp : Proc → Bool) : List Proc → Loading (Proc → Bool)
  | [] => return fp
  | p :: rest => do
    let address ← Prog.perform (LoadOp.GetProcAddress hModule p)
    resolve hModule (Function.update fp p address) rest

/-- The pointers of a library that is not there keep the value that they have. -/
def resolveLibrary (lpLibFileName : Bytes) (procs : List Proc) (fp : Proc → Bool) :
    Loading (Proc → Bool) := do
  match ← Prog.perform (LoadOp.LoadLibraryA lpLibFileName) with
  | none => return fp
  | some hModule => resolve hModule fp procs

/-- The constructor, which sets all pointers to NULL first. -/
def constructor : Loading (Proc → Bool) := do
  let fp ← resolveLibrary winspool_drv spoolerProcs fun _ => false
  resolveLibrary BXLPDIR_DLL vendorProcs fp

end ApiForwardHandler

/-- The two libraries on the machine of the server: whether they load, and what they export. -/
structure Libraries where
  LoadLibraryA : Bytes → Option HMODULE
  GetProcAddress : HMODULE → Proc → Bool

namespace Libraries
variable (L : Libraries)

def answer : (op : ApiForwardHandler.LoadOp) → op.Answer
  | .LoadLibraryA lpLibFileName => L.LoadLibraryA lpLibFileName
  | .GetProcAddress hModule lpProcName => L.GetProcAddress hModule lpProcName

def act (op : ApiForwardHandler.LoadOp) (s : Unit) : Option op.Answer × Unit :=
  (some (L.answer op), s)

/-- The constructor leaves these function pointers. -/
def Constructs (fp : Proc → Bool) : Prop :=
  (ApiForwardHandler.constructor.exec L.act ()).1 = some (.ok fp)

/-- The library of an entry point is there and exports it. -/
def finds (p : Proc) : Bool :=
  let lib := if p ∈ ApiForwardHandler.spoolerProcs then ApiForwardHandler.winspool_drv
    else ApiForwardHandler.BXLPDIR_DLL
  match L.LoadLibraryA lib with
  | none => false
  | some hModule => L.GetProcAddress hModule p

open ApiForwardHandler

theorem resolve_exec (hModule : HMODULE) (fp : Proc → Bool) (procs : List Proc) :
    (resolve hModule fp procs).exec L.act () =
      (some (.ok fun p => if p ∈ procs then L.GetProcAddress hModule p else fp p), ()) := by
  induction procs generalizing fp with
  | nil => simp [resolve, Prog.exec]
  | cons q rest ih =>
    refine (ih _).trans ?_
    congr 3
    funext p
    by_cases hp : p ∈ rest
    · simp [hp]
    · by_cases hq : p = q
      · subst hq
        simp [hp, answer]
      · simp [hp, hq]

/-- The pointers of a library after its look-ups. -/
theorem resolveLibrary_exec (lib : Bytes) (procs : List Proc) (fp : Proc → Bool) :
    (resolveLibrary lib procs fp).exec L.act () =
      (some (.ok fun p => if p ∈ procs then
        match L.LoadLibraryA lib with
        | none => fp p
        | some hModule => L.GetProcAddress hModule p
        else fp p), ()) := by
  unfold resolveLibrary
  cases hl : L.LoadLibraryA lib with
  | none => simp [Prog.exec, act, answer, hl]
  | some hModule =>
    simp only [Prog.perform_bind, Prog.exec_call, act, answer, hl]
    exact L.resolve_exec hModule fp procs

theorem mem_vendorProcs (p : Proc) : p ∈ vendorProcs ↔ p ∉ spoolerProcs := by
  cases p <;> decide

/-- The constructor finds what there is, for every library that is missing and every function
that is not exported. -/
theorem constructs_iff (fp : Proc → Bool) : L.Constructs fp ↔ fp = L.finds := by
  have hexec : constructor.exec L.act () = (some (.ok L.finds), ()) := by
    unfold constructor
    rw [Prog.exec_bind_of_ok (L.resolveLibrary_exec winspool_drv spoolerProcs _),
      L.resolveLibrary_exec]
    congr 3
    funext p
    unfold finds
    by_cases hp : p ∈ spoolerProcs
    · simp [hp, mem_vendorProcs]
    · simp [hp, mem_vendorProcs]
  unfold Constructs
  rw [hexec]
  constructor
  · intro h
    cases h
    rfl
  · rintro rfl
    rfl

end Libraries

end RemotePrinter
