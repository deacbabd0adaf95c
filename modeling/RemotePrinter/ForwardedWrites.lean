-- The data of a job on its way to the server: what each write hands over, what the
-- host is told about it, and what a host delivers that goes on where it is told.
import RemotePrinter.ForwardedArguments
import RemotePrinter.JobTrace

open Interactive

namespace RemotePrinter

variable {d : Deployment}

/-! ## One write -/

/-- The server's spooler gets the bytes of the call for its handle, and the host gets the `BOOL`
that it answers and, if it asked for it, the count. -/
def WriteArrives (hPrinter : HANDLE d.client) (pBuf : Option Bytes) (cbBuf : DWORD)
    (pcWritten : Bool) (tr : Trace d) (r : Except Abnormal WriteRet) : Prop :=
  ∃ m o v, serverCalls tr =
      [⟨.WritePrinter (d.serverHandle hPrinter) (some m) cbBuf true, o, ()⟩] ∧
    m.take cbBuf.toNat = (pBuf.getD []).take cbBuf.toNat ∧
    r = .ok v ∧ v.ret = o.ret ∧ (pcWritten = true → v.pcWritten = o.pcWritten)

/-- An answer of the spooler that the map of the server has room for: a TRUE that is 1, or a FALSE
with nothing written, if the host asks for the count. -/
def GetsThrough (pcWritten : Bool) (x : ServerCall d) : Prop :=
  match x with
  | ⟨.WritePrinter .., o, _⟩ => o.ret = 1 ∨ o.ret = 0 ∧ (pcWritten = true → o.pcWritten = 0)
  | _ => True

/-- What the host makes of the map that the server answers to the outcome `o`. -/
def writeResult (pcWritten : Bool) (o : WriteRet) : WriteRet where
  ret := BOOL.ofBool o.ret.toBool
  pcWritten := if pcWritten ∧ o.ret.toBool then o.pcWritten else 0

/-- The result of the host is the outcome of the spooler just if the map has room for it. -/
theorem writeResult_iff (pcWritten : Bool) (o : WriteRet) :
    (writeResult pcWritten o).ret = o.ret ∧
        (pcWritten = true → (writeResult pcWritten o).pcWritten = o.pcWritten) ↔
      o.ret = 1 ∨ o.ret = 0 ∧ (pcWritten = true → o.pcWritten = 0) := by
  obtain ⟨ret, count⟩ := o
  unfold writeResult BOOL.ofBool
  by_cases h0 : ret = 0
  · subst h0
    have hfalse : BOOL.toBool 0 = false := rfl
    have hne : (0 : BOOL) ≠ 1 := by decide
    simp only [hfalse, Bool.false_eq_true, and_false, if_false, hne, false_or, true_and,
      eq_comm (a := (0 : DWORD))]
  · have htrue : BOOL.toBool ret = true := (BOOL.toBool_eq_true ret).mpr h0
    simp only [htrue, if_true, and_true, h0, false_and, or_false, eq_comm (a := (1 : BOOL))]
    refine and_iff_left_of_imp fun _ hpw => ?_
    rw [if_pos hpw]

/-- The client finds in the map of the server what that has put there. -/
theorem writeResult_of_pack {w : PtrWidth} {hPrinter : I64} {pBuf : Bytes} {cbBuf : I32}
    (pcWritten : Bool) (o : WriteRet) :
    ({ ret := THRIFT_SAFE_GET
        ((SpoolRequest.WritePrinter hPrinter pBuf cbBuf).pack w o) kReturn 0
       pcWritten := if pcWritten then THRIFT_SAFE_GET
        ((SpoolRequest.WritePrinter hPrinter pBuf cbBuf).pack w o) kPcWritten 0 else 0 } :
        WriteRet) = writeResult pcWritten o := by
  have hpack : (SpoolRequest.WritePrinter hPrinter pBuf cbBuf).pack w o =
      if o.ret.toBool then
        (ApiForwardHandler.notWritten.set kReturn 1).set kPcWritten o.pcWritten
      else ApiForwardHandler.notWritten := rfl
  rw [hpack]
  unfold writeResult
  cases hret : o.ret.toBool with
  | false => cases pcWritten <;> rfl
  | true => cases pcWritten <;> rfl

section
variable {hPrinter : HANDLE d.client} {pBuf : Option Bytes} {cbBuf : DWORD} {pcWritten : Bool}

/-- The request of a write carries just its bytes. -/
theorem request_of_write (hfit : cbBuf.toNat ≤ (pBuf.getD []).length) :
    (.WritePrinter hPrinter pBuf cbBuf pcWritten : SpoolCall (HANDLE d.client)).request =
      some (.WritePrinter (SAFE_HANDLE hPrinter) ((pBuf.getD []).take cbBuf.toNat) cbBuf) := by
  cases pBuf with
  | none =>
    have h0 : cbBuf = 0 := BitVec.eq_of_toNat_eq (Nat.le_zero.mp hfit)
    simp [SpoolCall.request, h0]
  | some m => rfl

/-- What a forwarded write does behind its tests. -/
theorem detour_of_write (hfit : cbBuf.toNat ≤ (pBuf.getD []).length) :
    detour (.WritePrinter hPrinter pBuf cbBuf pcWritten) =
      forwardOr hPrinter
        (api (.spool (.WritePrinter (SAFE_HANDLE hPrinter) ((pBuf.getD []).take cbBuf.toNat)
          cbBuf)) >>= fun a => .done
            { ret := THRIFT_SAFE_GET a kReturn 0
              pcWritten := if pcWritten then THRIFT_SAFE_GET a kPcWritten 0 else 0 })
        (fpOriginal (.WritePrinter hPrinter pBuf cbBuf pcWritten)) := by
  have hread : (std_string pBuf (cbBuf.toNat : Int) : Client d.client Bytes) =
      .done ((pBuf.getD []).take cbBuf.toNat) := by
    rw [std_string_ofNat]
    cases pBuf with
    | none =>
      have h0 : cbBuf.toNat = 0 := Nat.le_zero.mp hfit
      simp [h0]
    | some m => rfl
  change DetourWritePrinter hPrinter pBuf cbBuf pcWritten = _
  unfold DetourWritePrinter
  rw [hread]
  rfl

variable {W W' : World d} {tr : Trace d} {r : Except Abnormal WriteRet}

/-- A write that passes its tests arrives just if the server has found the function that its
handler tests, and the outcome gets through. -/
theorem writeArrives_iff
    (h : HostStep detour W ⟨.WritePrinter hPrinter pBuf cbBuf pcWritten, tr, r⟩ W')
    (hup : Up W.server.pid ⟨.WritePrinter hPrinter pBuf cbBuf pcWritten, tr, r⟩)
    (hpass : Passes tr) (hfit : cbBuf.toNat ≤ (pBuf.getD []).length) :
    WriteArrives hPrinter pBuf cbBuf pcWritten tr r ↔
      W.server.fp .OpenPrinterW = true ∧ ∀ x ∈ serverCalls tr, GetsThrough pcWritten x := by
  have hq : (.WritePrinter hPrinter pBuf cbBuf pcWritten :
      SpoolCall (HANDLE d.client)).request =
      some (.WritePrinter (SAFE_HANDLE hPrinter) ((pBuf.getD []).take cbBuf.toNat) cbBuf) :=
    request_of_write hfit
  by_cases hfp : W.server.fp .OpenPrinterW = true
  · obtain ⟨o, n, hcalls, hmem⟩ := h.carried hup hpass hq hfp
    have hcalls' : serverCalls tr = [⟨.WritePrinter (d.serverHandle hPrinter)
        (some (cStr ((pBuf.getD []).take cbBuf.toNat))) cbBuf true, o, ()⟩] := hcalls
    have hrun : Prog.RunsIn World.env (detour (.WritePrinter hPrinter pBuf cbBuf pcWritten))
        W tr r W' := h
    rw [detour_of_write hfit] at hrun
    have hr : r = .ok (writeResult pcWritten o) := by
      rw [result_of_answer rfl hrun hmem]
      exact congrArg Except.ok (writeResult_of_pack (w := d.server) pcWritten o)
    unfold WriteArrives
    rw [hcalls', and_iff_right hfp]
    have hiff := writeResult_iff pcWritten o
    constructor
    · rintro ⟨m, o', v, hone, -, hv, hret, hcount⟩
      cases hone
      rw [hr] at hv
      cases hv
      simpa [GetsThrough] using hiff.mp ⟨hret, hcount⟩
    · intro hall
      obtain ⟨hret, hcount⟩ := hiff.mpr (hall _ (List.mem_singleton_self _))
      exact ⟨_, o, _, rfl, take_cStr _ hfit, hr, hret, hcount⟩
  · have hnone : serverCalls tr = [] := h.refused hup hpass hq (Bool.eq_false_iff.mpr hfp)
    unfold WriteArrives
    rw [hnone]
    simp [hfp]

end

/-! ## A host that goes on where it is told -/

/-- The host writes the data from an offset on, in chunks of any size, each from where the count
of the call before says. -/
inductive Resumes (hPrinter : HANDLE d.client) (data : Bytes) :
    Nat → List (CallRecord d) → Nat → Prop
  | done (off : Nat) : Resumes hPrinter data off [] off
  | chunk {off off' : Nat} {cbBuf : DWORD} {tr : Trace d} {v : WriteRet}
      {recs : List (CallRecord d)}
      (rest : Resumes hPrinter data (off + v.pcWritten.toNat) recs off') :
      Resumes hPrinter data off
        (⟨.WritePrinter hPrinter (some (data.drop off)) cbBuf true, tr, .ok v⟩ :: recs) off'

/-- The bytes that the spooler took at a write. -/
def acceptedAt (x : ServerCall d) : Bytes :=
  match x with
  | ⟨.WritePrinter _ (some m) _ _, o, _⟩ => m.take o.pcWritten.toNat
  | _ => []

/-- The bytes that the spooler took at a call of the host. -/
def accepted (rec : CallRecord d) : Bytes := (serverCalls rec.trace).flatMap acceptedAt

/-- The spooler takes no more bytes than it is given. -/
def WithinBuffer (x : ServerCall d) : Prop :=
  match x with
  | ⟨.WritePrinter _ _ cbBuf _, o, _⟩ => o.pcWritten.toNat ≤ cbBuf.toNat
  | _ => True

/-- If every write arrives, the spooler has taken the data up to the last offset, each byte
once. -/
theorem delivered_of_resumes {hPrinter : HANDLE d.client} {data : Bytes} {off off' : Nat}
    {recs : List (CallRecord d)} (h : Resumes hPrinter data off recs off')
    (harr : ∀ b n tr r, ⟨.WritePrinter hPrinter b n true, tr, r⟩ ∈ recs →
      WriteArrives hPrinter b n true tr r)
    (hwithin : ∀ rec ∈ recs, ∀ x ∈ serverCalls rec.trace, WithinBuffer x) :
    data.take off ++ recs.flatMap accepted = data.take off' := by
  induction h with
  | done off => simp
  | @chunk off off' cbBuf tr v recs rest ih =>
    obtain ⟨m, o, v', hcalls, htake, hv, -, hcount⟩ := harr _ _ _ _ List.mem_cons_self
    cases hv
    have hin := hwithin _ List.mem_cons_self
    simp only [hcalls, List.mem_singleton, forall_eq] at hin
    have hle : o.pcWritten.toNat ≤ cbBuf.toNat := hin
    have hpart : m.take o.pcWritten.toNat = (data.drop off).take o.pcWritten.toNat := by
      have hcut := congrArg (List.take o.pcWritten.toNat) htake
      simpa [List.take_take, Nat.min_eq_left hle] using hcut
    have haccepted : accepted (d := d)
        ⟨.WritePrinter hPrinter (some (data.drop off)) cbBuf true, tr, .ok v⟩ =
          (data.drop off).take v.pcWritten.toNat := by
      unfold accepted
      rw [hcalls, hcount rfl, ← hpart]
      simp [acceptedAt]
    have hrest := ih (fun b n tr r hmem => harr b n tr r (List.mem_cons_of_mem _ hmem))
      (fun rec hmem => hwithin rec (List.mem_cons_of_mem _ hmem))
    rw [List.flatMap_cons, haccepted, ← List.append_assoc, ← List.take_add]
    exact hrest

/-! ## Runs of writes -/

/-- A write on a tracked handle, from a buffer with as many bytes as it says. -/
structure TrackedWrite (W : World d) (rec : CallRecord d) : Prop where
  write : rec.call.proc = .WritePrinter
  fits : rec.call.BufferFits
  tracked : ∀ x, rec.call.handle = some x → x ∈ W.bxprinters

/-- The same process of the server with the same functions, and the same tracked handles. -/
structure World.Same (W W' : World d) : Prop where
  pid : W'.server.pid = W.server.pid
  fp : W'.server.fp = W.server.fp
  bxprinters : W'.bxprinters = W.bxprinters

section
variable {W W' : World d} {rec : CallRecord d} {recs : List (CallRecord d)}

/-- A write leaves all that as it is. -/
theorem TrackedWrite.same (hw : TrackedWrite W rec) (h : HostStep detour W rec W')
    (hup : Up W.server.pid rec) : W.Same W' := by
  obtain ⟨hpid, hfp⟩ := h.same_of_up hup
  have hproc := hw.write
  refine ⟨hpid, hfp, ?_⟩
  cases h.effect with
  | bypass v hr hbx => exact hbx
  | unread hr hq htracked hmeanwhile => exact hmeanwhile.bxprinters
  | asked q a n S S' hsent hp hbx => exact hbx
  | opened q a n S S' x hsent hc => cases hcall : rec.call <;> simp [hcall] at hproc hc
  | closed x a n S S' hc hsent =>
    rw [hc] at hproc
    cases hproc

/-- So each write of a run is one in a world like the first. -/
theorem writes_start_alike (run : Run (HostStep detour) W recs W')
    (hup : ∀ rec ∈ recs, Up W.server.pid rec) (hw : ∀ rec ∈ recs, TrackedWrite W rec) :
    ∀ rec ∈ recs, ∃ W₁ W₂, W.Same W₁ ∧ HostStep detour W₁ rec W₂ := by
  have hall : Along (fun _ rec => ∃ W₁ W₂, W.Same W₁ ∧ HostStep detour W₁ rec W₂) recs := by
    refine run.along (J := fun _ W₁ => W.Same W₁)
      (Q := fun _ rec => Up W.server.pid rec ∧ TrackedWrite W rec) ⟨rfl, rfl, rfl⟩ ?_
      (along_of_forall fun rec hmem => ⟨hup rec hmem, hw rec hmem⟩)
    rintro pre W₁ rec W₂ hsame ⟨hupr, hwr⟩ hstep
    have hwr₁ : TrackedWrite W₁ rec :=
      ⟨hwr.write, hwr.fits, fun x hx => by rw [hsame.bxprinters]; exact hwr.tracked x hx⟩
    have hnext := hwr₁.same hstep (by rw [hsame.pid]; exact hupr)
    exact ⟨⟨hnext.pid.trans hsame.pid, hnext.fp.trans hsame.fp,
      hnext.bxprinters.trans hsame.bxprinters⟩, W₁, W₂, hsame, hstep⟩
  intro rec hmem
  obtain ⟨pre, post, rfl⟩ := List.append_of_mem hmem
  exact hall pre rec post rfl

/-- In a run of writes on tracked handles, with the connection up, each write arrives just if the
server has found the function that its handler tests and the outcome of its spooler gets through.
If all do, a host that goes on where it is told has delivered each byte once. -/
theorem writes_arrive_just_if_their_outcomes_get_through (run : Run (HostStep detour) W recs W')
    (hup : ∀ rec ∈ recs, Up W.server.pid rec) (hw : ∀ rec ∈ recs, TrackedWrite W rec) :
    (∀ x b n pw tr r, ⟨.WritePrinter x b n pw, tr, r⟩ ∈ recs →
      (WriteArrives x b n pw tr r ↔
        W.server.fp .OpenPrinterW = true ∧ ∀ c ∈ serverCalls tr, GetsThrough pw c)) ∧
    ∀ x data off off', Resumes x data off recs off' → W.server.fp .OpenPrinterW = true →
      (∀ rec ∈ recs, ∀ c ∈ serverCalls rec.trace, GetsThrough true c ∧ WithinBuffer c) →
      data.take off ++ recs.flatMap accepted = data.take off' := by
  have harrives : ∀ x b n pw tr r, ⟨.WritePrinter x b n pw, tr, r⟩ ∈ recs →
      (WriteArrives x b n pw tr r ↔
        W.server.fp .OpenPrinterW = true ∧ ∀ c ∈ serverCalls tr, GetsThrough pw c) := by
    intro x b n pw tr r hmem
    obtain ⟨W₁, W₂, hsame, hstep⟩ := writes_start_alike run hup hw _ hmem
    have hup₁ : Up W₁.server.pid ⟨.WritePrinter x b n pw, tr, r⟩ := by
      rw [hsame.pid]
      exact hup _ hmem
    have htracked : x ∈ W₁.bxprinters := by
      rw [hsame.bxprinters]
      exact (hw _ hmem).tracked x rfl
    have hpass : Passes tr := (detour_course hstep).passes_of_tracked hup₁ rfl htracked
    rw [← hsame.fp]
    exact writeArrives_iff hstep hup₁ hpass (hw _ hmem).fits
  refine ⟨harrives, fun x data off off' hresumes hfp hthrough => ?_⟩
  refine delivered_of_resumes hresumes (fun b n tr r hmem => ?_)
    (fun rec hmem c hc => (hthrough rec hmem c hc).2)
  exact (harrives x b n true tr r hmem).mpr ⟨hfp, fun c hc => (hthrough _ hmem c hc).1⟩

end

/-! ### Three bytes -/

/-- A write of some bytes on the tracked handle. -/
def writeOf (data : Bytes) (cbBuf : DWORD) (o : WriteRet) : CallRecord x86Deployment :=
  writeOnRecord trackingWorld trackedHandle data cbBuf o

theorem writeOf_step (data : Bytes) (cbBuf : DWORD) (o : WriteRet) :
    HostStep detour trackingWorld (writeOf data cbBuf o) trackingWorld :=
  hostStep_writeOn data cbBuf o rfl rfl rfl mem_trackingWorld

theorem writeOf_tracked {data : Bytes} {cbBuf : DWORD} (o : WriteRet)
    (hfit : cbBuf.toNat ≤ data.length) : TrackedWrite trackingWorld (writeOf data cbBuf o) where
  write := rfl
  fits := hfit
  tracked := by
    rintro x ⟨⟩
    exact mem_trackingWorld

/-- The spooler takes two bytes of three, and then the third. -/
def resumedWrites : List (CallRecord x86Deployment) :=
  [writeOf [1, 2, 3] 3 ⟨1, 2⟩, writeOf [3] 1 ⟨1, 1⟩]

theorem resumed_writes_deliver :
    Resumes trackedHandle [1, 2, 3] 0 resumedWrites 3 ∧
      resumedWrites.flatMap accepted = [1, 2, 3] := by
  have hresumes : Resumes trackedHandle [1, 2, 3] 0 resumedWrites 3 := .chunk (.chunk (.done 3))
  have hrun : Run (HostStep detour) trackingWorld resumedWrites trackingWorld :=
    .cons (writeOf_step _ _ _) (.cons (writeOf_step _ _ _) (.nil _))
  refine ⟨hresumes, ?_⟩
  have hdelivered := (writes_arrive_just_if_their_outcomes_get_through hrun ?_ ?_).2
    trackedHandle [1, 2, 3] 0 3 hresumes rfl ?_
  · exact hdelivered
  · intro rec hmem
    simp only [resumedWrites, List.mem_cons, List.not_mem_nil, or_false] at hmem
    rcases hmem with rfl | rfl <;> exact up_writeOnRecord _ _ _ _ _
  · intro rec hmem
    simp only [resumedWrites, List.mem_cons, List.not_mem_nil, or_false] at hmem
    rcases hmem with rfl | rfl <;> exact writeOf_tracked _ (by decide)
  · intro rec hmem c hc
    simp only [resumedWrites, List.mem_cons, List.not_mem_nil, or_false] at hmem
    rcases hmem with rfl | rfl <;> cases List.mem_singleton.mp hc <;>
      exact ⟨Or.inl rfl, Nat.le_of_ble_eq_true rfl⟩

/-- Of a FALSE after two bytes of three the host hears that nothing was written. -/
theorem a_partial_write_is_reported_as_none :
    ¬ ∀ (d : Deployment) (W W' : World d) (recs : List (CallRecord d)),
      Run (HostStep detour) W recs W' → (∀ rec ∈ recs, Up W.server.pid rec) →
      (∀ rec ∈ recs, TrackedWrite W rec) → W.server.fp .OpenPrinterW = true →
      ∀ x b n pw tr r, ⟨.WritePrinter x b n pw, tr, r⟩ ∈ recs → WriteArrives x b n pw tr r := by
  intro law
  have harr := law _ _ _ [writeOf [1, 2, 3] 3 ⟨0, 2⟩] (.cons (writeOf_step _ _ _) (.nil _)) ?_ ?_
    rfl _ _ _ _ _ _ (List.mem_singleton_self _)
  · obtain ⟨m, o, v, hcalls, -, hv, -, hcount⟩ := harr
    cases hcalls
    cases hv
    have hnone := hcount rfl
    revert hnone
    decide
  · intro rec hmem
    cases List.mem_singleton.mp hmem
    exact up_writeOnRecord _ _ _ _ _
  · intro rec hmem
    cases List.mem_singleton.mp hmem
    exact writeOf_tracked _ (by decide)

end RemotePrinter
