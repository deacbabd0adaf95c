-- The methods of `SelfService`, as the generated code of both sides has them:
-- their names, their arguments, the requests that these make, and how a result
-- is put into a reply.
import RemotePrinter.Codecs
import RemotePrinter.HookTable
import RemotePrinter.NullCalls

open Interactive

namespace RemotePrinter

open TBinaryProtocol Member

/-! ## Names -/

namespace SelfService

def methods : List Proc :=
  [.OpenPrinterA, .OpenPrinterW, .StartPagePrinter, .StartDocPrinterW, .WritePrinter,
    .EndPagePrinter, .EndDocPrinter, .ClosePrinter, .CloseSpoolFileHandle, .CommitSpoolData,
    .DocumentEvent, .DocumentPropertiesW, .EnumFormsW, .EnumPrintersW,
    .FindClosePrinterChangeNotification, .FindFirstPrinterChangeNotification,
    .FindNextPrinterChangeNotification, .FreePrinterNotifyInfo, .GetDefaultPrinterW,
    .GetPrinterDataW, .GetPrinterDataExW, .GetPrinterW, .GetSpoolFileHandle, .IsValidDevmodeW,
    .OpenPrinter2W, .OpenPrinter2A, .OpenUsbPort, .CloseUsbPort, .WriteUSB, .ReadUSB,
    .PrintBitmap, .Print1DBarcode, .PrintPDF417, .PrintQRCode]

def name (m : Proc) : Bytes := m.name

/-- `processMap_.find(fname)`. -/
def processMap_ (fname : Bytes) : Option Proc := methods.find? fun m => name m = fname

theorem processMap_name (m : Proc) : processMap_ (name m) = some m := by
  cases m <;> rfl

theorem name_length (m : Proc) : (name m).length ≤ INT32_MAX := by
  cases m <;> simp [name, Proc.name, ascii, INT32_MAX]

/-! ## Arguments -/

/-- The members of `SelfService_X_args`. -/
def args : Proc → List Member
  | .OpenPrinterA => [string, bool, string, string, i32]
  | .OpenPrinterW => [string, bool, string, string, i32]
  | .StartPagePrinter => [i64]
  | .StartDocPrinterW => [i64, i32, string, string, string]
  | .WritePrinter => [i64, string, i32]
  | .EndPagePrinter => [i64]
  | .EndDocPrinter => [i64]
  | .ClosePrinter => [i64]
  | .CloseSpoolFileHandle => [i64, i64]
  | .CommitSpoolData => [i64, i64, i32]
  | .DocumentEvent => [i64, i64, i32, i32, string, i32, string]
  | .DocumentPropertiesW => [⟨_, ArgDocumentPropertiesW.codec⟩]
  | .EnumFormsW => [i64, i32, i32]
  | .EnumPrintersW => [⟨_, ArgEnumPrintersW.codec⟩]
  | .FindClosePrinterChangeNotification => [i64]
  | .FindFirstPrinterChangeNotification => [i64, i32, i32, string]
  | .FindNextPrinterChangeNotification => [i64, string]
  | .FreePrinterNotifyInfo => [string]
  | .GetDefaultPrinterW => [⟨_, ArgGetDefaultPrinterW.codec⟩]
  | .GetPrinterDataW => [i64, string, i32]
  | .GetPrinterDataExW => [i64, string, string, i32]
  | .GetPrinterW => [⟨_, ArgGetPrinterW.codec⟩]
  | .GetSpoolFileHandle => [i64]
  | .IsValidDevmodeW => [string, i32]
  | .OpenPrinter2W => [string, bool, string, string, i32, string]
  | .OpenPrinter2A => [string, bool, string, string, i32, string]
  | .OpenUsbPort => [i32]
  | .CloseUsbPort => []
  | .WriteUSB => [string, i32]
  | .ReadUSB => [string, i32]
  | .PrintBitmap => [string, string]
  | .Print1DBarcode => [i32, i32, i32, i32, string]
  | .PrintPDF417 => [i32, i32, i32, i32, i32, i32, string, string]
  | .PrintQRCode => [i32, i32, i32, string]

/-- The call of `iface_` with the arguments. -/
def request : (m : Proc) → Members (args m) → ApiForwardRequest
  | .OpenPrinterA, (name, e, dt, dm, acc, ()) => .spool (.OpenPrinterA name e dt dm acc)
  | .OpenPrinterW, (name, e, dt, dm, acc, ()) => .spool (.OpenPrinterW name e dt dm acc)
  | .StartPagePrinter, (h, ()) => .spool (.StartPagePrinter h)
  | .StartDocPrinterW, (h, level, n, o, t, ()) => .spool (.StartDocPrinterW h level n o t)
  | .WritePrinter, (h, b, n, ()) => .spool (.WritePrinter h b n)
  | .EndPagePrinter, (h, ()) => .spool (.EndPagePrinter h)
  | .EndDocPrinter, (h, ()) => .spool (.EndDocPrinter h)
  | .ClosePrinter, (h, ()) => .spool (.ClosePrinter h)
  | .CloseSpoolFileHandle, (h, f, ()) => .remaining (.CloseSpoolFileHandle h f)
  | .CommitSpoolData, (h, f, n, ()) => .remaining (.CommitSpoolData h f n)
  | .DocumentEvent, (h, hdc, esc, cbIn, pvIn, cbOut, pvOut, ()) =>
    .remaining (.DocumentEvent h hdc esc cbIn pvIn cbOut pvOut)
  | .DocumentPropertiesW, (arg, ()) => .query (.DocumentPropertiesW arg)
  | .EnumFormsW, (h, level, n, ()) => .remaining (.EnumFormsW h level n)
  | .EnumPrintersW, (arg, ()) => .query (.EnumPrintersW arg)
  | .FindClosePrinterChangeNotification, (h, ()) =>
    .remaining (.FindClosePrinterChangeNotification h)
  | .FindFirstPrinterChangeNotification, (h, filter, options, o, ()) =>
    .remaining (.FindFirstPrinterChangeNotification h filter options o)
  | .FindNextPrinterChangeNotification, (h, o, ()) =>
    .remaining (.FindNextPrinterChangeNotification h o)
  | .FreePrinterNotifyInfo, (info, ()) => .remaining (.FreePrinterNotifyInfo info)
  | .GetDefaultPrinterW, (arg, ()) => .query (.GetDefaultPrinterW arg)
  | .GetPrinterDataW, (h, value, n, ()) => .remaining (.GetPrinterDataW h value n)
  | .GetPrinterDataExW, (h, key, value, n, ()) => .remaining (.GetPrinterDataExW h key value n)
  | .GetPrinterW, (arg, ()) => .query (.GetPrinterW arg)
  | .GetSpoolFileHandle, (h, ()) => .remaining (.GetSpoolFileHandle h)
  | .IsValidDevmodeW, (dm, n, ()) => .remaining (.IsValidDevmodeW dm n)
  | .OpenPrinter2W, (name, e, dt, dm, acc, o, ()) =>
    .remaining (.OpenPrinter2W name e dt dm acc o)
  | .OpenPrinter2A, (name, e, dt, dm, acc, o, ()) =>
    .remaining (.OpenPrinter2A name e dt dm acc o)
  | .OpenUsbPort, (m, ()) => .usb (.OpenUsbPort m)
  | .CloseUsbPort, () => .usb .CloseUsbPort
  | .WriteUSB, (b, n, ()) => .usb (.WriteUSB b n)
  | .ReadUSB, (b, n, ()) => .usb (.ReadUSB b n)
  | .PrintBitmap, (p, b, ()) => .usb (.PrintBitmap p b)
  | .Print1DBarcode, (c, w, h, r, b, ()) => .usb (.Print1DBarcode c w h r b)
  | .PrintPDF417, (c, r, w, h, e, m, p, b, ()) => .usb (.PrintPDF417 c r w h e m p b)
  | .PrintQRCode, (m, s, e, b, ()) => .usb (.PrintQRCode m s e b)

end SelfService

/-- The members that a client writes for a request. -/
def ApiForwardRequest.args : (q : ApiForwardRequest) → Members (SelfService.args q.proc)
  | .spool (.OpenPrinterA name e dt dm acc) => (name, e, dt, dm, acc, ())
  | .spool (.OpenPrinterW name e dt dm acc) => (name, e, dt, dm, acc, ())
  | .spool (.StartPagePrinter h) => (h, ())
  | .spool (.StartDocPrinterW h level n o t) => (h, level, n, o, t, ())
  | .spool (.WritePrinter h b n) => (h, b, n, ())
  | .spool (.EndPagePrinter h) => (h, ())
  | .spool (.EndDocPrinter h) => (h, ())
  | .spool (.ClosePrinter h) => (h, ())
  | .usb (.OpenUsbPort m) => (m, ())
  | .usb .CloseUsbPort => ()
  | .usb (.WriteUSB b n) => (b, n, ())
  | .usb (.ReadUSB b n) => (b, n, ())
  | .usb (.PrintBitmap p b) => (p, b, ())
  | .usb (.Print1DBarcode c w h r b) => (c, w, h, r, b, ())
  | .usb (.PrintPDF417 c r w h e m p b) => (c, r, w, h, e, m, p, b, ())
  | .usb (.PrintQRCode m s e b) => (m, s, e, b, ())
  | .query (.DocumentPropertiesW arg) => (arg, ())
  | .query (.EnumPrintersW arg) => (arg, ())
  | .query (.GetDefaultPrinterW arg) => (arg, ())
  | .query (.GetPrinterW arg) => (arg, ())
  | .remaining (.CloseSpoolFileHandle h f) => (h, f, ())
  | .remaining (.CommitSpoolData h f n) => (h, f, n, ())
  | .remaining (.DocumentEvent h hdc esc cbIn pvIn cbOut pvOut) =>
    (h, hdc, esc, cbIn, pvIn, cbOut, pvOut, ())
  | .remaining (.EnumFormsW h level n) => (h, level, n, ())
  | .remaining (.FindClosePrinterChangeNotification h) => (h, ())
  | .remaining (.FindFirstPrinterChangeNotification h filter options o) =>
    (h, filter, options, o, ())
  | .remaining (.FindNextPrinterChangeNotification h o) => (h, o, ())
  | .remaining (.FreePrinterNotifyInfo info) => (info, ())
  | .remaining (.GetPrinterDataW h value n) => (h, value, n, ())
  | .remaining (.GetPrinterDataExW h key value n) => (h, key, value, n, ())
  | .remaining (.GetSpoolFileHandle h) => (h, ())
  | .remaining (.IsValidDevmodeW dm n) => (dm, n, ())
  | .remaining (.OpenPrinter2W name e dt dm acc o) => (name, e, dt, dm, acc, o, ())
  | .remaining (.OpenPrinter2A name e dt dm acc o) => (name, e, dt, dm, acc, o, ())

theorem ApiForwardRequest.request_args (q : ApiForwardRequest) :
    SelfService.request q.proc q.args = q := by
  cases q with
  | spool q => cases q <;> rfl
  | usb q => cases q <;> rfl
  | query q => cases q <;> rfl
  | remaining q => cases q <;> rfl

theorem SelfService.proc_request (m : Proc) (vs : Members (args m)) :
    (request m vs).proc = m := by
  cases m <;> rfl

/-! ## Results -/

/-- The type of the field `success` of `SelfService_X_result`. -/
def ApiForwardRequest.success : (q : ApiForwardRequest) → Codec q.Result
  | .spool (.OpenPrinterA ..) => .map .i64
  | .spool (.OpenPrinterW ..) => .map .i64
  | .spool (.StartPagePrinter _) => .scalar .bool
  | .spool (.StartDocPrinterW ..) => .scalar .i32
  | .spool (.WritePrinter ..) => .map .i32
  | .spool (.EndPagePrinter _) => .scalar .bool
  | .spool (.EndDocPrinter _) => .scalar .bool
  | .spool (.ClosePrinter _) => .scalar .bool
  | .usb _ => .scalar .i32
  | .query (.DocumentPropertiesW _) => ArgDocumentPropertiesW.codec
  | .query (.EnumPrintersW _) => ArgEnumPrintersW.codec
  | .query (.GetDefaultPrinterW _) => ArgGetDefaultPrinterW.codec
  | .query (.GetPrinterW _) => ArgGetPrinterW.codec
  | .remaining (.CloseSpoolFileHandle ..) => .scalar .bool
  | .remaining (.CommitSpoolData ..) => .scalar .i64
  | .remaining (.DocumentEvent ..) => .map .string
  | .remaining (.EnumFormsW ..) => .map .string
  | .remaining (.FindClosePrinterChangeNotification _) => .scalar .bool
  | .remaining (.FindFirstPrinterChangeNotification ..) => .scalar .i64
  | .remaining (.FindNextPrinterChangeNotification ..) => .map .string
  | .remaining (.FreePrinterNotifyInfo _) => .scalar .bool
  | .remaining (.GetPrinterDataW ..) => .map .string
  | .remaining (.GetPrinterDataExW ..) => .map .string
  | .remaining (.GetSpoolFileHandle _) => .scalar .i64
  | .remaining (.IsValidDevmodeW ..) => .scalar .bool
  | .remaining (.OpenPrinter2W ..) => .map .i64
  | .remaining (.OpenPrinter2A ..) => .map .i64

/-- `SelfService_X_result::write` with the field `success` set. -/
def ApiForwardRequest.resultWrite (q : ApiForwardRequest) (v : q.Result) : List Piece :=
  writeStruct [⟨q.success.type, 0, q.success.write v⟩]

/-- `TApplicationException::write`. -/
def writeTApplicationException (type : I32) (message : Bytes) : List Piece :=
  writeStruct [⟨T_STRING, 1, writeString message⟩, ⟨T_I32, 2, writeI32 type⟩]

/-! ## The client's side -/

/-- The message of a call with these fields. -/
def callWrite (m : Proc) (seqid : I32) (fs : List WireField) : List Piece :=
  writeMessageBegin (SelfService.name m) T_CALL seqid ++ writeStruct fs

/-- `recv_X`, with the reading of the result of `X`. -/
def recvResult {α : Type} (fuel : Nat) (name : Bytes) (result : Decoder (Option α)) :
    Decoder α := do
  let (fname, mtype) ← readMessageBegin
  if mtype = T_EXCEPTION then
    let type ← readTApplicationException fuel
    Decoder.throw (.TApplicationException type)
  else
    if mtype ≠ T_REPLY then skip fuel T_STRUCT
    if fname ≠ name then skip fuel T_STRUCT
    match ← result with
    | some success => return success
    | none => Decoder.throw (.TApplicationException MISSING_RESULT)

/-- The same program, with the same ends for a result that is set and for one that is not. -/
theorem Request.recv_eq (fuel : Nat) (q : Request) :
    q.recv fuel = recvResult fuel q.name (q.readResult fuel) := by
  have hend : ∀ f g : Option q.Result → Decoder q.Result,
      (∀ v, f (some v) = g (some v)) → f none = g none →
      (q.readResult fuel >>= f) = q.readResult fuel >>= g := by
    intro f g hsome hnone
    congr 1
    funext r
    cases r with
    | some v => exact hsome v
    | none => exact hnone
  unfold Request.recv recvResult
  congr 1
  funext ⟨fname, mtype⟩
  simp only
  split
  · rfl
  · have hname : ∀ f g : Option q.Result → Decoder q.Result,
        (∀ v, f (some v) = g (some v)) → f none = g none →
        (if fname ≠ q.name then skip fuel T_STRUCT >>= fun _ => q.readResult fuel >>= f
          else q.readResult fuel >>= f) =
        if fname ≠ q.name then skip fuel T_STRUCT >>= fun _ => q.readResult fuel >>= g
          else q.readResult fuel >>= g := by
      intro f g hsome hnone
      rw [hend f g hsome hnone]
    split
    · congr 1
      funext _
      exact hname _ _ (fun _ => rfl) rfl
    · exact hname _ _ (fun _ => rfl) rfl

namespace ApiForwardRequest

/-- The message that `send_X` writes. The sequence id of the client is 0. -/
def messageWrite (q : ApiForwardRequest) (seqid : I32) : List Piece :=
  callWrite q.proc seqid (Members.fields 1 (SelfService.args q.proc) q.args)

/-- `presult::read`. -/
def readResult (fuel : Nat) (q : ApiForwardRequest) : Decoder (Option q.Result) :=
  TBinaryProtocol.fields (fun success ftype fid =>
    if fid = 0 ∧ ftype = q.success.type then do
      return some (← q.success.read fuel (success.getD q.success.init))
    else do
      skip fuel ftype
      return success) fuel none

/-- `recv_X`. -/
def recv (fuel : Nat) (q : ApiForwardRequest) : Decoder q.Result :=
  recvResult fuel (SelfService.name q.proc) (q.readResult fuel)

/-! The calls of the detours that the client's model has as a `Request` are among these. -/

theorem spool_messageWrite (q : SpoolRequest) :
    encoded ((spool q).messageWrite 0) = (Request.spool q).encoding := by
  cases q <;> rfl

theorem usb_messageWrite (q : UsbRequest) :
    encoded ((usb q).messageWrite 0) = (Request.usb q).encoding := by
  cases q <;> rfl

theorem spool_recv (fuel : Nat) (q : SpoolRequest) :
    (spool q).recv fuel = (Request.spool q).recv fuel := by
  rw [Request.recv_eq]
  cases q <;> rfl

theorem usb_recv (fuel : Nat) (q : UsbRequest) :
    (usb q).recv fuel = (Request.usb q).recv fuel := by
  rw [Request.recv_eq]
  cases q <;> rfl

end ApiForwardRequest

end RemotePrinter
