-- The server: one `ApiForwardHandler` with the function pointers that its
-- constructor has found, and a thread for each client. Every handler tests a
-- function pointer before it calls one, and one of them tests another's.
import RemotePrinter.QueryWorld
import RemotePrinter.RemainingHandlers
import RemotePrinter.ServerThreads
import RemotePrinter.UsbHandlers

open Interactive

namespace RemotePrinter

/-! ## All requests -/

/-- A request for any method of the service. -/
inductive ApiForwardRequest where
  | spool (q : SpoolRequest)
  | usb (q : UsbRequest)
  | query (q : QueryRequest)
  | remaining (q : RemainingRequest)

@[reducible] def ApiForwardRequest.Result : ApiForwardRequest → Type
  | spool q => q.Result
  | usb _ => I32
  | query q => q.Result
  | remaining q => q.Result

inductive ApiForwardOp (w : PtrWidth) where
  | spool (c : SpoolCall (HANDLE w))
  | usb (op : UsbOp)
  | query (op : QueryOp w)
  | remaining (c : RemainingCall w)

@[reducible] def ApiForwardOp.Answer {w : PtrWidth} : ApiForwardOp w → Type
  | spool c => c.Ret
  | usb op => op.Answer
  | query op => op.Answer
  | remaining c => c.Ret

/-- The operations of the spooler and of the vendor library, with those on temporary files. -/
def ApiForwardOp.Operates {w : PtrWidth} : ApiForwardOp w → Prop
  | query (.original _) => True
  | query _ => False
  | _ => True

def SpoolRequest.proc : SpoolRequest → Proc
  | OpenPrinterA .. => .OpenPrinterA
  | OpenPrinterW .. => .OpenPrinterW
  | StartPagePrinter _ => .StartPagePrinter
  | StartDocPrinterW .. => .StartDocPrinterW
  | WritePrinter .. => .WritePrinter
  | EndPagePrinter _ => .EndPagePrinter
  | EndDocPrinter _ => .EndDocPrinter
  | ClosePrinter _ => .ClosePrinter

def UsbRequest.proc : UsbRequest → Proc
  | OpenUsbPort _ => .OpenUsbPort
  | CloseUsbPort => .CloseUsbPort
  | WriteUSB .. => .WriteUSB
  | ReadUSB .. => .ReadUSB
  | PrintBitmap .. => .PrintBitmap
  | Print1DBarcode .. => .Print1DBarcode
  | PrintPDF417 .. => .PrintPDF417
  | PrintQRCode .. => .PrintQRCode

def RemainingRequest.proc : RemainingRequest → Proc
  | CloseSpoolFileHandle .. => .CloseSpoolFileHandle
  | CommitSpoolData .. => .CommitSpoolData
  | DocumentEvent .. => .DocumentEvent
  | EnumFormsW .. => .EnumFormsW
  | FindClosePrinterChangeNotification _ => .FindClosePrinterChangeNotification
  | FindFirstPrinterChangeNotification .. => .FindFirstPrinterChangeNotification
  | FindNextPrinterChangeNotification .. => .FindNextPrinterChangeNotification
  | FreePrinterNotifyInfo _ => .FreePrinterNotifyInfo
  | GetPrinterDataW .. => .GetPrinterDataW
  | GetPrinterDataExW .. => .GetPrinterDataExW
  | GetSpoolFileHandle _ => .GetSpoolFileHandle
  | IsValidDevmodeW .. => .IsValidDevmodeW
  | OpenPrinter2W .. => .OpenPrinter2W
  | OpenPrinter2A .. => .OpenPrinter2A

/-- The entry point of a request: the function of the method's name. -/
def ApiForwardRequest.proc : ApiForwardRequest → Proc
  | spool q => q.proc
  | usb q => q.proc
  | query q => q.proc
  | remaining q => q.proc

def RemainingRequest.failure : (q : RemainingRequest) → q.Result
  | CloseSpoolFileHandle .. => false
  | CommitSpoolData .. => 0
  | DocumentEvent .. => []
  | EnumFormsW .. => []
  | FindClosePrinterChangeNotification _ => false
  | FindFirstPrinterChangeNotification .. => 0
  | FindNextPrinterChangeNotification .. => []
  | FreePrinterNotifyInfo _ => false
  | GetPrinterDataW .. => []
  | GetPrinterDataExW .. => []
  | GetSpoolFileHandle _ => 0
  | IsValidDevmodeW .. => false
  | OpenPrinter2W .. => ApiForwardHandler.notOpened
  | OpenPrinter2A .. => []

/-- The failure results of the methods. The last error of a query can be any. -/
def ApiForwardRequest.Failed : (q : ApiForwardRequest) → q.Result → Prop
  | spool q, v => v = q.failure
  | usb _, v => v = 0
  | query q, v => ∃ lasterror, v = q.failure lasterror
  | remaining q, v => v = q.failure

/-! ## The server -/

abbrev ApiForwardProgram (w : PtrWidth) (α : Type) :=
  Prog (ApiForwardOp w) ApiForwardOp.Answer HandlerAbort α

/-- The processor hands a request to the handler of its method. -/
def serve (w : PtrWidth) (fp : Proc → Bool) : (q : ApiForwardRequest) → ApiForwardProgram w q.Result
  | .spool q =>
    (ApiForwardHandler.handle w fp q).embed .spool (fun _ a => a) (.nullCall ·.proc)
  | .usb q => (ApiForwardHandler.handleUsb fp q).embed .usb (fun _ a => a) (.nullCall ·.proc)
  | .query q => (ApiForwardHandler.handleQuery fp q).embed .query (fun _ a => a) id
  | .remaining q =>
    (ApiForwardHandler.handleRemaining w fp q).embed .remaining (fun _ a => a) (.nullCall ·.proc)

/-- Windows and the libraries may answer anything. -/
def answersAnything (w : PtrWidth) : Env (ApiForwardOp w) ApiForwardOp.Answer Unit Unit :=
  Prog.possible fun _ _ => True

abbrev ServerPool (w : PtrWidth) (ι : Type) :=
  Pool ι (ApiForwardOp w) ApiForwardOp.Answer HandlerAbort ApiForwardRequest
    ApiForwardRequest.Result Unit

abbrev ServerEvent (w : PtrWidth) (ι : Type) :=
  Event ι (ApiForwardOp w) ApiForwardOp.Answer HandlerAbort ApiForwardRequest
    ApiForwardRequest.Result Unit Empty

/-- A client's thread takes a request, performs an operation of its handler, or answers. The
threads share the function pointers. -/
def ServerPool.Step {w : PtrWidth} {ι : Type} [DecidableEq ι] (fp : Proc → Bool) :
    ServerPool w ι → ServerEvent w ι → ServerPool w ι → Prop :=
  Pool.Step (answersAnything w) (fun _ _ _ => False) (serve w fp)

/-! ## The law -/

/-- The handler did not call a function pointer that is NULL. -/
def NoNullCall {α : Type} (r : Except HandlerAbort α) : Prop :=
  ∀ p, r ≠ .error (.nullCall p)

/-- A request whose entry point was not found causes no operation. -/
def QuietIfMissing {w : PtrWidth} (fp : Proc → Bool) (q : ApiForwardRequest)
    (op : ApiForwardOp w) : Prop :=
  fp q.proc = false → ¬ op.Operates

/-- No call through NULL, and the failure result if the entry point was not found. -/
def Guarded (fp : Proc → Bool) (q : ApiForwardRequest) (r : Except HandlerAbort q.Result) : Prop :=
  NoNullCall r ∧ (fp q.proc = false → ∃ v, r = .ok v ∧ q.Failed v)

/-- The law of the server, about every event of a run. -/
def GuardedEvents {w : PtrWidth} {ι : Type} (fp : Proc → Bool) (es : List (ServerEvent w ι)) :
    Prop :=
  Along (Pool.Kept (QuietIfMissing fp) (Guarded fp)) es

/-! ## The handlers of the spooler functions -/

/-- The server has found `OpenPrinterW`, which the handler of a write tests, and not
`WritePrinter`. -/
def WritesThroughNull (fp : Proc → Bool) (q : ApiForwardRequest) : Prop :=
  fp .OpenPrinterW = true ∧ fp .WritePrinter = false ∧ q.proc = .WritePrinter

/-- What the handler of a request comes to. -/
def Outcome (fp : Proc → Bool) (q : ApiForwardRequest) (r : Except HandlerAbort q.Result) : Prop :=
  (WritesThroughNull fp q → r = .error (.nullCall .WritePrinter)) ∧
    (¬ WritesThroughNull fp q → Guarded fp q r)

theorem noNullCall_ok {α : Type} (v : α) : NoNullCall (.ok v) := by
  intro p h
  cases h

section
variable {w : PtrWidth} {fp : Proc → Bool}

theorem Guarded.outcome {q : ApiForwardRequest} {r : Except HandlerAbort q.Result}
    (h : Guarded fp q r) (hq : q.proc ≠ .WritePrinter) : Outcome fp q r :=
  ⟨fun hw => absurd hw.2.2 hq, fun _ => h⟩

/-- An answer with the entry point, or the failure without it. -/
theorem guarded_ok {q : ApiForwardRequest} {v : q.Result}
    (h : fp q.proc = false → q.Failed v) : Guarded fp q (.ok v) :=
  ⟨noNullCall_ok v, fun hfp => ⟨v, rfl, h hfp⟩⟩

theorem SpoolRequest.original_proc (q : SpoolRequest) : (q.original w).proc = q.proc := by
  cases q <;> rfl

/-- Only the handler of a write tests another pointer than that of its entry point. -/
theorem SpoolRequest.tested_eq (q : SpoolRequest) :
    q.tested = q.proc ∧ q.proc ≠ .WritePrinter ∨
      q.tested = .OpenPrinterW ∧ q.proc = .WritePrinter := by
  cases q <;> simp [tested, proc]

/-- With the entry point found nothing can go wrong with it. -/
theorem outcome_ok {q : ApiForwardRequest} {v : q.Result} (hfp : fp q.proc = true) :
    Outcome fp q (.ok v) := by
  refine ⟨fun hw => ?_, fun _ => guarded_ok fun hmissing => ?_⟩
  · rw [hw.2.2, hw.2.1] at hfp
    cases hfp
  · rw [hfp] at hmissing
    cases hmissing

theorem quiet_of_found {q : ApiForwardRequest} (hfp : fp q.proc = true) (op : ApiForwardOp w) :
    QuietIfMissing fp q op := by
  intro hmissing
  rw [hfp] at hmissing
  cases hmissing

theorem handle_ensures (q : SpoolRequest) :
    (serve w fp (.spool q)).Ensures (QuietIfMissing fp (.spool q)) (Outcome fp (.spool q)) := by
  apply Prog.Ensures.embed
  rw [ApiForwardHandler.handle_eq]
  unfold ApiForwardHandler.guarded ApiForwardHandler.callOriginal
  rw [q.original_proc]
  by_cases ht : fp q.tested = true
  · rw [if_pos ht]
    by_cases hp : fp q.proc = true
    · rw [if_pos hp, Prog.perform_bind, Prog.ensures_call]
      exact ⟨quiet_of_found hp _, fun a => outcome_ok hp⟩
    · -- The tested pointer is another one, so this is a write.
      rw [if_neg hp, Prog.fail_bind, Prog.ensures_fail]
      rcases q.tested_eq with ⟨hsame, -⟩ | ⟨htested, hwrite⟩
      · exact absurd (hsame ▸ ht) hp
      · have hnull : WritesThroughNull fp (.spool q) := by
          refine ⟨htested ▸ ht, ?_, hwrite⟩
          simpa [hwrite] using hp
        refine ⟨fun _ => ?_, fun hnot => absurd hnull hnot⟩
        simp [Except.mapError, hwrite]
  · rw [if_neg ht, Prog.pure_eq, Prog.ensures_done]
    refine ⟨fun hw => ?_, fun _ => guarded_ok fun _ => rfl⟩
    rcases q.tested_eq with ⟨-, hother⟩ | ⟨htested, -⟩
    · exact absurd hw.2.2 hother
    · rw [htested, hw.1] at ht
      exact absurd rfl ht

/-! ## The handlers of the vendor functions -/

/-- A handler that always answers, and with its failure if the function was not found. -/
def AnswersOr {α : Type} (found : Bool) (failure : α) (r : Except NullCall α) : Prop :=
  ∃ v, r = .ok v ∧ (found = false → v = failure)

theorem answersOr_of_found {α : Type} {found : Bool} {failure v : α} (h : found = true) :
    AnswersOr found failure (.ok v) := by
  refine ⟨v, rfl, fun hnot => ?_⟩
  rw [h] at hnot
  cases hnot

theorem answersOr_failure {α : Type} (found : Bool) (failure : α) :
    AnswersOr found failure (.ok failure) := ⟨failure, rfl, fun _ => rfl⟩

/-- Such a handler in the server, if it performs operations with its function found only. -/
theorem ensures_of_answers {E : Type} {A : E → Type} {q : ApiForwardRequest}
    {f : E → ApiForwardOp w} {back : ∀ e, (f e).Answer → A e} {failure : q.Result}
    {p : Prog E A NullCall q.Result}
    (h : p.Ensures (fun _ => fp q.proc = true) (AnswersOr (fp q.proc) failure))
    (hfailure : q.Failed failure) (hq : q.proc ≠ .WritePrinter) :
    (p.embed f back (.nullCall ·.proc)).Ensures (QuietIfMissing fp q) (Outcome fp q) := by
  apply Prog.Ensures.embed
  apply h.mono
  · intro e hfound
    exact quiet_of_found hfound _
  · rintro r ⟨v, rfl, hv⟩
    refine Guarded.outcome (guarded_ok fun hmissing => ?_) hq
    rw [hv hmissing]
    exact hfailure

theorem forwarded_ensures {c : UsbCall} {proc : Proc} (hc : c.proc = proc) :
    (ApiForwardHandler.forwarded fp c).Ensures (fun _ => fp proc = true)
      (AnswersOr (fp proc) 0) := by
  subst hc
  unfold ApiForwardHandler.forwarded ApiForwardHandler.callVendor
  by_cases hp : fp c.proc = true
  · rw [if_pos hp, if_pos hp, Prog.perform_bind, Prog.ensures_call]
    exact ⟨hp, fun a => answersOr_of_found hp⟩
  · rw [if_neg hp]
    exact answersOr_failure _ _

/-- To make the file fails by an answer only. -/
theorem getTempPath_ensures {P : UsbOp → Prop} (hP : ∀ op, P op) :
    ApiForwardHandler.getTempPath.Ensures P fun r => ∃ path, r = .ok path := by
  unfold ApiForwardHandler.getTempPath
  refine Prog.ensures_perform_bind.mpr ⟨hP _, fun ⟨dwRetVal, lpTempPathBuffer⟩ => ?_⟩
  dsimp only
  split
  · exact ⟨none, rfl⟩
  · refine Prog.ensures_perform_bind.mpr ⟨hP _, fun ⟨uRetVal, szTempFileName⟩ => ?_⟩
    dsimp only
    split
    · exact ⟨none, rfl⟩
    · exact ⟨_, rfl⟩

theorem write_to_file_ensures {P : UsbOp → Prop} (hP : ∀ op, P op) (path data : Bytes) :
    (ApiForwardHandler.write_to_file path data).Ensures P fun r => ∃ ok, r = .ok ok := by
  unfold ApiForwardHandler.write_to_file
  refine Prog.ensures_perform_bind.mpr ⟨hP _, fun opened => ?_⟩
  split
  · exact ⟨false, rfl⟩
  · refine Prog.ensures_perform_bind.mpr ⟨hP _, fun _ => ?_⟩
    refine Prog.ensures_perform_bind.mpr ⟨hP _, fun _ => ?_⟩
    exact ⟨true, rfl⟩

theorem printFile_ensures {tested : Proc} {call : Bytes → UsbCall} (data : Bytes)
    (htested : ∀ path, (call path).proc = tested) :
    (ApiForwardHandler.printFile fp data tested call).Ensures (fun _ => fp tested = true)
      (AnswersOr (fp tested) 0) := by
  unfold ApiForwardHandler.printFile
  by_cases hp : fp tested = true
  · have hanswer (v : I32) : AnswersOr (fp tested) 0 (.ok v) := answersOr_of_found hp
    have hnever (x : NullCall) {α : Type} : ¬ ∃ v : α, (.error x : Except NullCall α) = .ok v := by
      simp
    rw [if_neg (by simp [hp])]
    split
    · exact hanswer 0
    · refine (getTempPath_ensures fun _ => hp).bind (fun path _ => ?_)
        fun x hx => absurd hx (hnever x)
      cases path with
      | none => exact hanswer 0
      | some path =>
        refine (write_to_file_ensures (fun _ => hp) path data).bind (fun written _ => ?_)
          fun x hx => absurd hx (hnever x)
        split
        · exact hanswer 0
        · unfold ApiForwardHandler.callVendor
          rw [htested, if_pos hp]
          refine Prog.ensures_perform_bind.mpr ⟨hp, fun r => ?_⟩
          refine Prog.ensures_perform_bind.mpr ⟨hp, fun _ => ?_⟩
          exact hanswer r.ret
  · rw [if_pos (by simp [hp])]
    exact answersOr_failure _ _

theorem UsbRequest.proc_ne (q : UsbRequest) : q.proc ≠ .WritePrinter := by
  cases q <;> simp [proc]

theorem handleUsb_ensures (q : UsbRequest) :
    (serve w fp (.usb q)).Ensures (QuietIfMissing fp (.usb q)) (Outcome fp (.usb q)) := by
  have hhandler : (ApiForwardHandler.handleUsb fp q).Ensures (fun _ => fp q.proc = true)
      (AnswersOr (fp q.proc) 0) := by
    cases q with
    | PrintBitmap p data => exact printFile_ensures data fun _ => rfl
    | PrintPDF417 c r w h e m b data => exact printFile_ensures data fun _ => rfl
    | _ => exact forwarded_ensures rfl
  exact ensures_of_answers hhandler rfl q.proc_ne

/-! ## The handlers that the client does not ask for -/

theorem guardedCall_ensures {α : Type} {failure : α} {c : RemainingCall w} {pack : c.Ret → α}
    {proc : Proc} (hc : c.proc = proc) :
    (ApiForwardHandler.guardedCall fp failure c pack).Ensures (fun _ => fp proc = true)
      (AnswersOr (fp proc) failure) := by
  subst hc
  unfold ApiForwardHandler.guardedCall ApiForwardHandler.callRemaining
  by_cases hp : fp c.proc = true
  · rw [if_pos hp, if_pos hp]
    exact Prog.ensures_perform_bind.mpr ⟨hp, fun a => answersOr_of_found hp⟩
  · rw [if_neg hp]
    exact answersOr_failure _ _

theorem testedOnly_ensures {α : Type} (tested : Proc) (answer : α) :
    (ApiForwardHandler.testedOnly fp tested answer : RemainingHandler w α).Ensures
      (fun _ => fp tested = true) (AnswersOr (fp tested) answer) := by
  unfold ApiForwardHandler.testedOnly
  split
  · exact answersOr_failure _ _
  · exact answersOr_failure _ _

theorem RemainingRequest.proc_ne (q : RemainingRequest) : q.proc ≠ .WritePrinter := by
  cases q <;> simp [proc]

theorem handleRemaining_ensures (q : RemainingRequest) :
    (serve w fp (.remaining q)).Ensures (QuietIfMissing fp (.remaining q))
      (Outcome fp (.remaining q)) := by
  have hhandler : (ApiForwardHandler.handleRemaining w fp q).Ensures (fun _ => fp q.proc = true)
      (AnswersOr (fp q.proc) q.failure) := by
    cases q with
    | CloseSpoolFileHandle h f => exact guardedCall_ensures rfl
    | CommitSpoolData h f n => exact guardedCall_ensures rfl
    | OpenPrinter2W name e dt dm acc o => exact guardedCall_ensures rfl
    | OpenPrinter2A name e dt dm acc o => exact answersOr_failure _ _
    | _ => exact testedOnly_ensures _ _
  exact ensures_of_answers hhandler rfl q.proc_ne

/-! ## The handlers of the queries -/

theorem noNullCall_error {α β : Type} {x : HandlerAbort}
    (h : NoNullCall (.error x : Except HandlerAbort α)) :
    NoNullCall (.error x : Except HandlerAbort β) := by
  rintro p ⟨⟩
  exact h p rfl

/-- A part of a handler that calls no pointer that is NULL. -/
abbrev CallsNoNull {α : Type} (p : QueryHandler w α) : Prop :=
  p.Ensures (fun _ => True) NoNullCall

theorem CallsNoNull.bind {α β : Type} {p : QueryHandler w α} {f : α → QueryHandler w β}
    (hp : CallsNoNull p) (hf : ∀ a, CallsNoNull (f a)) : CallsNoNull (p >>= f) :=
  Prog.Ensures.bind hp (fun a _ => hf a) fun _ hx => noNullCall_error hx

theorem perform_callsNoNull (op : QueryOp w) :
    CallsNoNull (Prog.perform op : QueryHandler w op.Answer) :=
  (Prog.ensures_call _ _).mpr ⟨trivial, fun a => noNullCall_ok a⟩

theorem done_callsNoNull {α : Type} (a : α) : CallsNoNull (Prog.done a : QueryHandler w α) :=
  noNullCall_ok a

theorem reserve_callsNoNull (n : Nat) :
    CallsNoNull (ApiForwardHandler.reserve n : QueryHandler w _) := by
  refine (Prog.ensures_call _ _).mpr ⟨trivial, fun a => ?_⟩
  cases a with
  | none =>
    intro p h
    cases h
  | some data => exact noNullCall_ok data

theorem stringAt_callsNoNull (b : Option (Buffer w)) (m : ByteMemory.Mem) (n : Nat) :
    CallsNoNull (ApiForwardHandler.stringAt b m n) := by
  unfold ApiForwardHandler.stringAt
  cases b with
  | some b => exact noNullCall_ok _
  | none =>
    dsimp only
    split
    · exact noNullCall_ok _
    · intro p h
      cases h

theorem callQuery_callsNoNull {c : QueryCall w} (hfp : fp c.proc = true) :
    CallsNoNull (ApiForwardHandler.callQuery fp c) := by
  unfold ApiForwardHandler.callQuery
  rw [if_pos hfp]
  exact perform_callsNoNull _

/-- With its function found a query calls it, and no other. -/
theorem handleQuery_callsNoNull {q : QueryRequest} (hfp : fp q.proc = true) :
    CallsNoNull (ApiForwardHandler.handleQuery (w := w) fp q) := by
  cases q with
  | DocumentPropertiesW arg =>
    change CallsNoNull (ApiForwardHandler.DocumentPropertiesW fp arg)
    unfold ApiForwardHandler.DocumentPropertiesW
    refine (perform_callsNoNull _).bind fun lasterror => ?_
    rw [if_neg (by simpa [QueryRequest.proc] using hfp)]
    refine (reserve_callsNoNull _).bind fun localpDevModeOutput => ?_
    refine (perform_callsNoNull _).bind fun hWnd => ?_
    refine (callQuery_callsNoNull hfp).bind fun r => ?_
    exact (perform_callsNoNull _).bind fun lasterror => done_callsNoNull _
  | EnumPrintersW arg =>
    change CallsNoNull (ApiForwardHandler.EnumPrintersW fp arg)
    unfold ApiForwardHandler.EnumPrintersW
    rw [if_neg (by simpa [QueryRequest.proc] using hfp)]
    refine (reserve_callsNoNull _).bind fun localBuffer => ?_
    refine (callQuery_callsNoNull hfp).bind fun r => ?_
    split
    · split
      · exact done_callsNoNull _
      · exact done_callsNoNull _
    · exact done_callsNoNull _
  | GetDefaultPrinterW arg =>
    change CallsNoNull (ApiForwardHandler.GetDefaultPrinterW fp arg)
    unfold ApiForwardHandler.GetDefaultPrinterW
    rw [if_neg (by simpa [QueryRequest.proc] using hfp)]
    refine (reserve_callsNoNull _).bind fun localBuffer => ?_
    refine (callQuery_callsNoNull hfp).bind fun r => ?_
    split
    · exact (stringAt_callsNoNull _ _ _).bind fun pszBuffer => done_callsNoNull _
    · exact done_callsNoNull _
  | GetPrinterW arg =>
    change CallsNoNull (ApiForwardHandler.GetPrinterW fp arg)
    unfold ApiForwardHandler.GetPrinterW
    refine (perform_callsNoNull _).bind fun lasterror => ?_
    rw [if_neg (by simpa [QueryRequest.proc] using hfp)]
    refine (reserve_callsNoNull _).bind fun localBuffer => ?_
    refine (callQuery_callsNoNull hfp).bind fun r => ?_
    refine (perform_callsNoNull _).bind fun lasterror' => ?_
    split
    · split
      · exact done_callsNoNull _
      · exact done_callsNoNull _
    · exact done_callsNoNull _

/-- Without it the query asks for the last error at most, and fails. -/
theorem handleQuery_missing {q : QueryRequest} (hfp : fp q.proc = false) :
    (ApiForwardHandler.handleQuery (w := w) fp q).Ensures
      (fun op => ¬ (ApiForwardOp.query op).Operates)
      fun r => ∃ lasterror, r = .ok (q.failure lasterror) := by
  cases q with
  | DocumentPropertiesW arg =>
    change Prog.Ensures _ _ (ApiForwardHandler.DocumentPropertiesW fp arg)
    unfold ApiForwardHandler.DocumentPropertiesW
    refine Prog.ensures_perform_bind.mpr ⟨id, fun lasterror => ?_⟩
    rw [if_pos (by simpa [QueryRequest.proc] using hfp)]
    exact ⟨lasterror, rfl⟩
  | EnumPrintersW arg =>
    change Prog.Ensures _ _ (ApiForwardHandler.EnumPrintersW fp arg)
    unfold ApiForwardHandler.EnumPrintersW
    rw [if_pos (by simpa [QueryRequest.proc] using hfp)]
    exact ⟨0, rfl⟩
  | GetDefaultPrinterW arg =>
    change Prog.Ensures _ _ (ApiForwardHandler.GetDefaultPrinterW fp arg)
    unfold ApiForwardHandler.GetDefaultPrinterW
    rw [if_pos (by simpa [QueryRequest.proc] using hfp)]
    exact ⟨0, rfl⟩
  | GetPrinterW arg =>
    change Prog.Ensures _ _ (ApiForwardHandler.GetPrinterW fp arg)
    unfold ApiForwardHandler.GetPrinterW
    refine Prog.ensures_perform_bind.mpr ⟨id, fun lasterror => ?_⟩
    rw [if_pos (by simpa [QueryRequest.proc] using hfp)]
    exact ⟨lasterror, rfl⟩

theorem handleQuery_ensures (q : QueryRequest) :
    (serve w fp (.query q)).Ensures (QuietIfMissing fp (.query q)) (Outcome fp (.query q)) := by
  have hq : (ApiForwardRequest.query q).proc ≠ .WritePrinter := by
    cases q <;> simp [ApiForwardRequest.proc, QueryRequest.proc]
  apply Prog.Ensures.embed
  by_cases hfp : fp q.proc = true
  · apply (handleQuery_callsNoNull hfp).mono
    · intro op _
      exact quiet_of_found hfp _
    · intro r hr
      refine Guarded.outcome ⟨?_, fun hmissing => ?_⟩ hq
      · cases r with
        | ok v => exact noNullCall_ok v
        | error x => exact hr
      · exact absurd (hfp.symm.trans hmissing) (by simp)
  · apply (handleQuery_missing (by simpa using hfp)).mono
    · intro op hop _
      exact hop
    · rintro r ⟨lasterror, rfl⟩
      exact Guarded.outcome (guarded_ok fun _ => ⟨lasterror, rfl⟩) hq

/-! ## The server over its threads -/

theorem serve_ensures (q : ApiForwardRequest) :
    (serve w fp q).Ensures (QuietIfMissing fp q) (Outcome fp q) := by
  cases q with
  | spool q => exact handle_ensures q
  | usb q => exact handleUsb_ensures q
  | query q => exact handleQuery_ensures q
  | remaining q => exact handleRemaining_ensures q

end

section
variable {w : PtrWidth} {ι : Type} [DecidableEq ι]

/-- For every outcome of the constructor and every run of the threads: the law holds just if the
server has not found `OpenPrinterW` without `WritePrinter`, or has handled no write. -/
theorem pointers_are_tested_just_if_no_write_is_handled_without {L : Libraries}
    {fp : Proc → Bool} (hfp : L.Constructs fp) {es : List (ServerEvent w ι)} {T : ServerPool w ι}
    (run : Run (ServerPool.Step fp) (Pool.idle ()) es T) :
    GuardedEvents fp es ↔
      (L.finds .OpenPrinterW = true → L.finds .WritePrinter = false →
        ∀ i q r, .finished i q r ∈ es → q.proc ≠ .WritePrinter) := by
  obtain rfl := (L.constructs_iff fp).mp hfp
  have hall : Along (Pool.Kept (QuietIfMissing L.finds) (Outcome L.finds)) es :=
    Pool.along_of_ensures (fun q => serve_ensures q) run
  constructor
  · intro h hopen hwrite i q r hmem hq
    -- A write calls through NULL, which the law excludes.
    obtain ⟨pre, post, hes⟩ := List.append_of_mem hmem
    have hnull : r = .error (.nullCall .WritePrinter) :=
      (hall pre _ post hes).1 ⟨hopen, hwrite, hq⟩
    have hguarded : Guarded L.finds q r := h pre _ post hes
    exact hguarded.1 _ hnull
  · intro h pre e post hes
    have hkept := hall pre e post hes
    cases e with
    | started i q => trivial
    | acted i o => exact hkept
    | outside n => trivial
    | finished i q r =>
      refine hkept.2 fun hnull => ?_
      exact h hnull.1 hnull.2.1 i q r (by simp [hes]) hnull.2.2

end

/-! ### A server without `WritePrinter` -/

/-- Both libraries are there and export these functions. -/
def exporting (exported : Proc → Bool) : Libraries where
  LoadLibraryA _ := some 1
  GetProcAddress _ p := exported p

/-- One client sends one request, and its thread handles it. -/
def clientEvents (q : ApiForwardRequest)
    (tr : List (Obs (ApiForwardOp .x64) ApiForwardOp.Answer Unit))
    (r : Except HandlerAbort q.Result) : List (ServerEvent .x64 Unit) :=
  .started () q :: tr.map (Event.acted ()) ++ [.finished () q r]

def startPageEvents : List (ServerEvent .x64 Unit) :=
  clientEvents (.spool (.StartPagePrinter 5)) [⟨.spool (.StartPagePrinter 5), 1, ()⟩] (.ok true)

def nullWriteEvents : List (ServerEvent .x64 Unit) :=
  clientEvents (.spool (.WritePrinter 5 [65] 1)) [] (.error (.nullCall .WritePrinter))

theorem answersAnything_any (op : ApiForwardOp .x64) (a : op.Answer) :
    answersAnything .x64 () op a () () := trivial

theorem page_run :
    Run (ServerPool.Step (exporting fun _ => true).finds) (Pool.idle ()) startPageEvents
      (Pool.idle ()) := by
  apply Pool.run_alone rfl
  exact .next (answersAnything_any _ _) (.ended _ _)

theorem a_page_is_started_by_a_tested_pointer :
    GuardedEvents (exporting fun _ => true).finds startPageEvents := by
  refine (pointers_are_tested_just_if_no_write_is_handled_without
    ((Libraries.constructs_iff _ _).mpr rfl) page_run).mpr fun _ hmissing => ?_
  cases hmissing

theorem write_run :
    Run (ServerPool.Step (exporting (· = .OpenPrinterW)).finds) (Pool.idle ())
      nullWriteEvents (Pool.idle ()) := by
  apply Pool.run_alone rfl
  exact ⟨rfl, rfl, rfl⟩

/-- A server that has found `OpenPrinterW` only is asked to write, and calls NULL. -/
theorem a_write_can_call_NULL :
    ¬ ∀ (L : Libraries) (fp : Proc → Bool) (es : List (ServerEvent .x64 Unit))
      (T : ServerPool .x64 Unit), L.Constructs fp →
      Run (ServerPool.Step fp) (Pool.idle ()) es T → GuardedEvents fp es := by
  intro h
  have hguarded := h _ _ _ _ ((Libraries.constructs_iff _ _).mpr rfl) write_run
    [.started () (.spool (.WritePrinter 5 [65] 1))] _ [] rfl
  exact hguarded.1 .WritePrinter rfl

end RemotePrinter
