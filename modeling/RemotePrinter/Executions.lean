-- How often a call of the host is executed: by the local winspool and by the
-- server's winspool together. A detour takes one of two ways to a spooler, and
-- a failure on the way to the server never sends it the other way.
import RemotePrinter.Steps
import RemotePrinter.Runs

open Interactive

namespace RemotePrinter

variable {d : Deployment}

/-! ## Runs that show the function pointers of the server -/

/-- What the server did at an operation, and the function pointers of the process that ran. -/
structure Watched (d : Deployment) where
  served : Served d
  fp : Proc → Bool

/-- The world as the environment of the detours, with the function pointers in the notes. -/
def World.watched : Env (ClientOp d.client) ClientOp.Answer (Watched d) (World d) :=
  fun W op a n W' => World.env W op a n.served W' ∧ n.fp = W'.server.fp

abbrev WatchedTrace (d : Deployment) := List (Obs (ClientOp d.client) ClientOp.Answer (Watched d))

/-- The same trace with the notes of `World.env`. -/
def plainTrace (tr : WatchedTrace d) : Trace d := tr.map (Obs.relabel Watched.served)

/-- A call that the host made, as in `CallRecord`. -/
structure WatchedRecord (d : Deployment) where
  call : SpoolCall (HANDLE d.client)
  trace : WatchedTrace d
  result : Except Abnormal call.Ret

def WatchedRecord.plain (rec : WatchedRecord d) : CallRecord d where
  call := rec.call
  trace := plainTrace rec.trace
  result := rec.result

/-- The host makes one call and waits until it is over. -/
def WatchedStep (W : World d) (rec : WatchedRecord d) (W' : World d) : Prop :=
  (detour rec.call).RunsIn World.watched W rec.trace rec.result W'

theorem WatchedStep.plain {W W' : World d} {rec : WatchedRecord d} (h : WatchedStep W rec W') :
    HostStep detour W rec.plain W' :=
  h.relabel fun _ _ _ _ _ henv => henv.1

theorem runsIn_watched {α : Type} {p : Client d.client α} {W W' : World d} {tr : Trace d}
    {r : Except Abnormal α} (h : p.RunsIn World.env W tr r W') :
    ∃ tr' : WatchedTrace d, plainTrace tr' = tr ∧ p.RunsIn World.watched W tr' r W' := by
  induction p generalizing W tr with
  | done a =>
    obtain ⟨rfl, rfl, rfl⟩ := h
    exact ⟨[], rfl, .ended a W'⟩
  | fail x =>
    obtain ⟨rfl, rfl, rfl⟩ := h
    exact ⟨[], rfl, ⟨rfl, rfl, rfl⟩⟩
  | call e k ih =>
    obtain ⟨a, n, W₁, tr', henv, rfl, hrest⟩ := h
    obtain ⟨tr'', rfl, hrest'⟩ := ih a hrest
    exact ⟨⟨e, a, n, W₁.server.fp⟩ :: tr'', rfl, .next ⟨henv, rfl⟩ hrest'⟩

/-- Every step of the host can be watched. -/
theorem HostStep.watched {W W' : World d} {rec : CallRecord d} (h : HostStep detour W rec W') :
    ∃ rec' : WatchedRecord d, rec'.plain = rec ∧ WatchedStep W rec' W' := by
  obtain ⟨c, tr, r⟩ := rec
  obtain ⟨tr', rfl, hrun⟩ := runsIn_watched h
  exact ⟨⟨c, tr', r⟩, rfl, hrun⟩

/-! ## The executions of a call -/

/-- The spooler operations that a call caused, the local ones and the server's. -/
def operations (rec : WatchedRecord d) : Nat :=
  (localCalls (plainTrace rec.trace)).length + (serverCalls (plainTrace rec.trace)).length

/-- The function pointers of the process that answered the operation. -/
def answeredAt (o : Obs (ClientOp d.client) ClientOp.Answer (Watched d)) :
    Option (Proc → Bool) :=
  match o with
  | ⟨.api (.spool _), .ok _, n⟩ => some n.fp
  | _ => none

/-- The processes that answered, by their function pointers. -/
def answering (tr : WatchedTrace d) : List (Proc → Bool) := tr.filterMap answeredAt

/-- A call is executed at most once. One that returns is executed once, or a server that has
not found its entry point answered it without. -/
def ExecutedOnce (rec : WatchedRecord d) : Prop :=
  operations rec ≤ 1 ∧
  ∀ v, rec.result = .ok v →
    operations rec = 1 ∨ operations rec = 0 ∧ ∃ fp ∈ answering rec.trace, fp rec.call.proc = false

/-- No process answers a `WritePrinter` that has found `WritePrinter` and not `OpenPrinterW`. -/
def WriteTested (rec : WatchedRecord d) : Prop :=
  rec.call.proc = .WritePrinter →
    ∀ fp ∈ answering rec.trace, fp .OpenPrinterW = false → fp .WritePrinter = false

/-- The server executes a request once, or it does not; and which of both it is, is known from
the pointer that the handler tests once there is an answer. -/
def ServedAt (o : Obs (ClientOp d.client) ClientOp.Answer (Watched d)) : Prop :=
  match o with
  | ⟨.api (.spool q), a, n⟩ =>
    n.served.calls.length ≤ 1 ∧
      ∀ v, a = .ok v → n.served.calls.length = if n.fp q.tested then 1 else 0
  | _ => True

theorem World.servedAt_watched {W W' : World d} {op : ClientOp d.client} {a : op.Answer}
    {n : Watched d} (h : World.watched W op a n W') : ServedAt ⟨op, a, n⟩ := by
  obtain ⟨henv, hfp⟩ := h
  cases op with
  | api q =>
    cases q with
    | usb q => trivial
    | spool q =>
      obtain ⟨-, -, S, -, -, -, hreach⟩ := World.env_api henv
      rw [hreach.fp] at hfp
      unfold ServedAt
      simp only [hfp]
      generalize W'.server = S' at hreach
      generalize n.served.calls = calls at hreach ⊢
      cases hreach with
      | nothing ha =>
        refine ⟨Nat.zero_le 1, fun v hv => ?_⟩
        rw [(ha v hv).1]
        rfl
      | executed ht hr ha =>
        refine ⟨Nat.le_refl 1, fun v hv => ?_⟩
        rw [ht]
        rfl
  | ensure_connection | isBixolonPrinterByName x | isBixolonPrinterByHandle x => trivial
  | addBixolonPrinter x | closeBixolonPrinter x | original c | read_from_file x => trivial

theorem WatchedStep.served {W W' : World d} {rec : WatchedRecord d} (h : WatchedStep W rec W') :
    ∀ o ∈ rec.trace, ServedAt o :=
  h.forall_obs fun _ _ _ _ _ => World.servedAt_watched

/-! ## Requests and their answers -/

/-- An operation that is no request is not answered by a server. -/
theorem answeredAt_eq_none {o : Obs (ClientOp d.client) ClientOp.Answer (Watched d)}
    (h : requestAt (o.relabel Watched.served) = none) : answeredAt o = none := by
  obtain ⟨op, a, n⟩ := o
  cases op with
  | api q =>
    cases q with
    | spool q => cases h
    | usb q => rfl
  | ensure_connection | isBixolonPrinterByName x | isBixolonPrinterByHandle x => rfl
  | addBixolonPrinter x | closeBixolonPrinter x | original c | read_from_file x => rfl

theorem answering_eq_nil {tr : WatchedTrace d} (h : requests (plainTrace tr) = []) :
    answering tr = [] := by
  apply List.filterMap_eq_nil_iff.mpr
  intro o ho
  apply answeredAt_eq_none
  exact List.filterMap_eq_nil_iff.mp h _ (List.mem_map_of_mem ho)

theorem answering_of_request {tr : WatchedTrace d} {q q' : SpoolRequest}
    {a : Except TException q'.Result} {n : Watched d} (h : requests (plainTrace tr) = [q])
    (ho : ⟨.api (.spool q'), a, n⟩ ∈ tr) :
    answering tr = (answeredAt ⟨.api (.spool q'), a, n⟩).toList := by
  obtain ⟨t, t', rfl⟩ := List.append_of_mem ho
  have hreq : requests (plainTrace t) ++ q' :: requests (plainTrace t') = [q] := by
    rw [← h]
    simp [plainTrace, requests, requestAt, Obs.relabel]
  obtain ⟨ht, ht'⟩ : requests (plainTrace t) = [] ∧ requests (plainTrace t') = [] := by
    cases hr : requests (plainTrace t) with
    | nil =>
      rw [hr] at hreq
      exact ⟨rfl, (List.cons.inj hreq).2⟩
    | cons x l =>
      rw [hr] at hreq
      simp at hreq
  have hcons : answering (⟨.api (.spool q'), a, n⟩ :: t') =
      (answeredAt ⟨.api (.spool q'), a, n⟩).toList ++ answering t' := by
    unfold answering
    rw [List.filterMap_cons]
    cases answeredAt (d := d) ⟨.api (.spool q'), a, n⟩ <;> rfl
  have happ : answering (t ++ ⟨.api (.spool q'), a, n⟩ :: t') =
      answering t ++ answering (⟨.api (.spool q'), a, n⟩ :: t') := List.filterMap_append
  rw [happ, hcons, answering_eq_nil ht, answering_eq_nil ht', List.nil_append, List.append_nil]

theorem Tests.no_request {W W₁ : World d} {c : SpoolCall (HANDLE d.client)} {t : Trace d}
    {b : Bool} (h : Tests W c t b W₁) {q : SpoolRequest} {a : Except TException q.Result}
    {n : Served d} : ⟨.api (.spool q), a, n⟩ ∉ t := by
  intro ho
  have hq := List.filterMap_eq_nil_iff.mp h.quiet.2.2.1 _ ho
  cases hq

/-- A call whose request is answered returns, and one whose request is not throws. -/
theorem Course.returns {W W' : World d} {c : SpoolCall (HANDLE d.client)} {tr : Trace d}
    {r : Except Abnormal c.Ret} (h : Course W c tr r W') {q : SpoolRequest}
    {a : Except TException q.Result} {n : Served d} (ho : ⟨.api (.spool q), a, n⟩ ∈ tr) :
    (∃ v, r = .ok v) ↔ ∃ v, a = .ok v := by
  cases h with
  | bypass ht hc =>
    rcases List.mem_append.mp ho with ho | ho
    · exact absurd ho ht.no_request
    · cases List.mem_singleton.mp ho
  | unread ht hq => exact absurd ho ht.no_request
  | failed ht hq hp ha =>
    rcases List.mem_append.mp ho with ho | ho
    · exact absurd ho ht.no_request
    · cases List.mem_singleton.mp ho
      simp
  | answered ht hq hp ha hg hr =>
    rcases List.mem_append.mp ho with ho | ho
    · exact absurd ho ht.no_request
    · cases List.mem_singleton.mp ho
      simp
  | opened ht hq hc ha hg hb hr =>
    rcases List.mem_append.mp ho with ho | ho
    · exact absurd ho ht.no_request
    · rcases List.mem_cons.mp ho with ho | ho
      · cases ho
        simp
      · cases List.mem_singleton.mp ho
  | closing ht hc hl ha hr =>
    rcases List.mem_append.mp ho with ho | ho
    · exact absurd ho ht.no_request
    · rcases List.mem_cons.mp ho with ho | ho
      · cases ho
      · cases List.mem_singleton.mp ho
        exact hr

/-! ## Which way a call goes -/

/-- The way of a call to a spooler: to the local function; nowhere, after a read through NULL; or
with its request to the server. -/
inductive Way (rec : WatchedRecord d) : Prop
  | bypass (hl : localCalls (plainTrace rec.trace) = [rec.call])
      (hs : serverCalls (plainTrace rec.trace) = []) (ha : answering rec.trace = [])
  | unread (hl : localCalls (plainTrace rec.trace) = [])
      (hs : serverCalls (plainTrace rec.trace) = []) (ha : answering rec.trace = [])
      (hr : rec.result = .error .nullRead)
  | sent (q a n) (hq : rec.call.request = some q) (hm : ⟨.api (.spool q), a, n⟩ ∈ rec.trace)
      (hl : localCalls (plainTrace rec.trace) = [])
      (hs : serverCalls (plainTrace rec.trace) = n.served.calls)
      (ha : answering rec.trace = (answeredAt ⟨.api (.spool q), a, n⟩).toList)
      (hr : (∃ v, rec.result = .ok v) ↔ ∃ v, a = .ok v)

theorem way_of_sent {W W' W₁ : World d} {rec : WatchedRecord d} (h : WatchedStep W rec W₁)
    {q : SpoolRequest} {a : Except TException q.Result} {n : Served d}
    {S S' : ServerProcess d.server}
    (hsent : Sent W rec.call (plainTrace rec.trace) W' q a n S S') : Way rec := by
  obtain ⟨⟨op, a', n'⟩, ho, hon⟩ := List.mem_map.mp hsent.mem
  cases hon
  refine .sent q a' n' hsent.request ho hsent.localCalls hsent.serverCalls ?_ ?_
  · exact answering_of_request hsent.requests ho
  · exact (detour_course h.plain).returns hsent.mem

theorem WatchedStep.way {W W' : World d} {rec : WatchedRecord d} (h : WatchedStep W rec W') :
    Way rec := by
  cases h.plain.effect with
  | bypass v hr hbx hsp hserver hgrants hremovals hrequests hlocal hopens hserved hwhy =>
    exact .bypass hlocal hserved (answering_eq_nil hrequests)
  | unread hr hq htracked hm hgrants hremovals hrequests hlocal hopens hserved =>
    exact .unread hlocal hserved (answering_eq_nil hrequests) hr
  | asked q a n S S' hsent => exact way_of_sent h hsent
  | opened q a n S S' x hsent => exact way_of_sent h hsent
  | closed x a n S S' hc hsent => exact way_of_sent h hsent

/-! ## At most one execution -/

/-- A handler tests the pointer of its own function, but for that of `WritePrinter`. -/
theorem tested_eq_proc {q : SpoolRequest} {w : PtrWidth}
    (h : (q.original w).proc ≠ .WritePrinter) : q.tested = (q.original w).proc := by
  cases q <;> first | rfl | exact absurd rfl h

theorem tested_of_WritePrinter {q : SpoolRequest} {w : PtrWidth}
    (h : (q.original w).proc = .WritePrinter) : q.tested = .OpenPrinterW := by
  cases q <;> first | rfl | cases h

/-- A call that a server answered is executed once where it should be just if its handler tests
the pointer of its function, or has found both. -/
theorem answeredOnce_iff {rec : WatchedRecord d} {q : SpoolRequest} {fp : Proc → Bool}
    (hq : rec.call.request = some q) (ha : answering rec.trace = [fp])
    (hops : operations rec = if fp q.tested then 1 else 0) (hr : ∃ v, rec.result = .ok v) :
    ExecutedOnce rec ↔ WriteTested rec := by
  obtain ⟨hproc, -⟩ := request_original hq
  have hmem : ∀ fp', fp' ∈ answering rec.trace ↔ fp' = fp := by
    intro fp'
    rw [ha]
    exact List.mem_singleton
  constructor
  · rintro ⟨-, hexec⟩ hp fp' hfp' htested
    rw [(hmem fp').mp hfp'] at htested ⊢
    rw [tested_of_WritePrinter (hproc.trans hp), htested] at hops
    obtain ⟨v, hv⟩ := hr
    rcases hexec v hv with hone | ⟨-, fp', hfp', hnull⟩
    · rw [hone] at hops
      cases hops
    · rw [(hmem fp').mp hfp', hp] at hnull
      exact hnull
  · intro hwrite
    cases htested : fp q.tested with
    | true =>
      rw [htested] at hops
      exact ⟨Nat.le_of_eq hops, fun _ _ => Or.inl hops⟩
    | false =>
      rw [htested] at hops
      have hnull : fp rec.call.proc = false := by
        by_cases hp : rec.call.proc = .WritePrinter
        · rw [hp]
          apply hwrite hp fp ((hmem fp).mpr rfl)
          rw [← tested_of_WritePrinter (hproc.trans hp)]
          exact htested
        · rw [← hproc, ← tested_eq_proc (by rw [hproc]; exact hp)]
          exact htested
      refine ⟨Nat.le_trans (Nat.le_of_eq hops) (Nat.zero_le 1), fun _ _ => Or.inr ⟨hops, fp, ?_⟩⟩
      exact ⟨(hmem fp).mpr rfl, hnull⟩

/-- A call that no server answered has no `WritePrinter` to test. -/
theorem writeTested_of_unanswered {rec : WatchedRecord d} (ha : answering rec.trace = []) :
    WriteTested rec := by
  intro _ fp hfp
  rw [ha] at hfp
  cases hfp

theorem executedOnce_iff {W W' : World d} {rec : WatchedRecord d} (h : WatchedStep W rec W') :
    ExecutedOnce rec ↔ WriteTested rec := by
  cases h.way with
  | bypass hl hs ha =>
    have hone : operations rec = 1 := by
      unfold operations
      rw [hl, hs]
      rfl
    exact iff_of_true ⟨Nat.le_of_eq hone, fun v _ => Or.inl hone⟩ (writeTested_of_unanswered ha)
  | unread hl hs ha hr =>
    have hzero : operations rec = 0 := by
      unfold operations
      rw [hl, hs]
      rfl
    refine iff_of_true ⟨by omega, fun v hv => ?_⟩ (writeTested_of_unanswered ha)
    rw [hr] at hv
    cases hv
  | sent q a n hq hm hl hs ha hr =>
    have hcount : operations rec = n.served.calls.length := by
      unfold operations
      rw [hl, hs]
      exact Nat.zero_add _
    obtain ⟨hle, hlen⟩ : n.served.calls.length ≤ 1 ∧
      ∀ v, a = .ok v → n.served.calls.length = if n.fp q.tested then 1 else 0 := h.served _ hm
    rw [← hcount] at hle hlen
    cases a with
    | error x =>
      refine iff_of_true ⟨hle, fun v hv => ?_⟩ (writeTested_of_unanswered ha)
      obtain ⟨v', hv'⟩ := hr.mp ⟨v, hv⟩
      cases hv'
    | ok v => exact answeredOnce_iff hq ha (hlen v rfl) (hr.mpr ⟨v, rfl⟩)

/-- Every call of a run is executed at most once, and exactly once where it should be, just if
no process that has found `WritePrinter` and not `OpenPrinterW` answers a `WritePrinter`. -/
theorem calls_are_executed_once_just_if_writes_test_their_pointer {W W' : World d}
    {recs : List (WatchedRecord d)} (run : Run WatchedStep W recs W') :
    (∀ rec ∈ recs, ExecutedOnce rec) ↔ ∀ rec ∈ recs, WriteTested rec := by
  have hstep : ∀ rec ∈ recs, (ExecutedOnce rec ↔ WriteTested rec) := by
    induction run with
    | nil => simp
    | cons hs _ ih =>
      intro rec hrec
      rcases List.mem_cons.mp hrec with rfl | hrec
      · exact executedOnce_iff hs
      · exact ih rec hrec
  exact forall₂_congr hstep

/-! ### One open and one write -/

/-- The call with the pointers of one process in all its notes. -/
def watchedBy (fp : Proc → Bool) (rec : CallRecord d) : WatchedRecord d where
  call := rec.call
  trace := rec.trace.map (Obs.relabel fun n => ⟨n, fp⟩)
  result := rec.result

theorem runsIn_watchedBy {α : Type} {p : Client d.client α} {W W' : World d} {tr : Trace d}
    {r : Except Abnormal α} (h : p.RunsIn World.env W tr r W')
    (hone : ∀ o ∈ tr, o.note.pid = W.server.pid) :
    p.RunsIn World.watched W (tr.map (Obs.relabel fun n => ⟨n, W.server.fp⟩)) r W' := by
  induction p generalizing W tr with
  | done a =>
    obtain ⟨rfl, rfl, rfl⟩ := h
    exact .ended a W'
  | fail x =>
    obtain ⟨rfl, rfl, rfl⟩ := h
    exact ⟨rfl, rfl, rfl⟩
  | call e k ih =>
    obtain ⟨a, n, W₁, tr', henv, rfl, hrest⟩ := h
    have hpid : W₁.server.pid = W.server.pid := by
      rw [← World.env_pid henv]
      exact hone _ List.mem_cons_self
    have hfp : W₁.server.fp = W.server.fp :=
      ((World.env_fp henv).resolve_left (by omega)).2
    have hrun := ih a hrest fun o ho => by
      rw [hpid]
      exact hone o (List.mem_cons_of_mem _ ho)
    rw [hfp] at hrun
    exact .next ⟨henv, hfp.symm⟩ hrun

/-- A `WritePrinter` of one byte on a tracked handle, with what is observed of its request. -/
def writeRecord (W : World d) (h : HANDLE d.client) (r : WriteRet) (o : Observed d) :
    CallRecord d where
  call := .WritePrinter h (some [65]) 1 true
  trace := [⟨.ensure_connection, true, W.idle⟩, ⟨.isBixolonPrinterByHandle h, true, W.idle⟩, o]
  result := .ok r

/-- What is observed of a request that the server answers without a call. -/
def leftOut (W : World d) (q : SpoolRequest) : Observed d :=
  ⟨.api (.spool q), .ok q.failure, { pid := W.server.pid, handled := true }⟩

theorem World.env_leftOut {W : World d} {q : SpoolRequest} (hc : W.connected = some W.server.pid)
    (ht : W.server.fp q.tested = false) :
    World.env W (.api (.spool q)) (leftOut W q).answer (leftOut W q).note W := by
  apply World.env_of_acts rfl
  refine ⟨hc, rfl, W.server.spooler, ?_, rfl⟩
  rw [ApiForwardHandler.handle_eq]
  unfold ApiForwardHandler.guarded
  rw [ht]
  exact .ended _ _

theorem hostStep_write {W W' : World d} {h : HANDLE d.client} {v : StdMap I32} {n : Served d}
    (hc : W.connected = some W.server.pid) (hb : h ∈ W.bxprinters)
    (ho : World.env W (.api (.spool (.WritePrinter (SAFE_HANDLE h) [65] 1))) (.ok v) n W') :
    HostStep detour W (writeRecord W h
      { ret := THRIFT_SAFE_GET v kReturn 0, pcWritten := THRIFT_SAFE_GET v kPcWritten 0 }
      ⟨.api (.spool (.WritePrinter (SAFE_HANDLE h) [65] 1)), .ok v, n⟩) W' := by
  apply Prog.RunsIn.next (World.env_connected (by simp [hc]))
  apply Prog.RunsIn.next (World.env_tracked hb)
  apply Prog.RunsIn.next ho
  apply Prog.RunsIn.ended

/-- A server that has found the given functions, and a client that is connected to it. -/
def worldWith (fp : Proc → Bool) : World x86Deployment where
  connected := some 1
  server := { pid := 1, fp := fp }

/-- The handle of the server on the client. -/
def heldHandle : HANDLE x86Deployment.client := x86Deployment.clientHandle remoteHandle

/-- The host opens a printer through `OpenPrinterA` and writes to it. -/
def openWriteRecords (fp : Proc → Bool) (r : WriteRet) (o : Observed x86Deployment) :
    List (WatchedRecord x86Deployment) :=
  [watchedBy fp (openRecord (worldWith fp) [] remoteHandle),
    watchedBy fp (writeRecord ((worldWith fp).opened remoteHandle) heldHandle r o)]

theorem openWrite_run {fp : Proc → Bool} (hopen : fp .OpenPrinterA = true) {v : StdMap I32}
    {n : Served x86Deployment} (hn : n.pid = 1)
    (ho : World.env ((worldWith fp).opened remoteHandle)
      (.api (.spool (.WritePrinter (SAFE_HANDLE heldHandle) [65] 1))) (.ok v) n
      ((worldWith fp).opened remoteHandle)) :
    Run WatchedStep (worldWith fp)
      (openWriteRecords fp
        { ret := THRIFT_SAFE_GET v kReturn 0, pcWritten := THRIFT_SAFE_GET v kPcWritten 0 }
        ⟨.api (.spool (.WritePrinter (SAFE_HANDLE heldHandle) [65] 1)), .ok v, n⟩)
      ((worldWith fp).opened remoteHandle) := by
  have hfirst := hostStep_open (W := worldWith fp) (h := remoteHandle) [] rfl hopen
    (by simp [worldWith])
  have hsecond := hostStep_write (W := (worldWith fp).opened remoteHandle) rfl
    (by simp [World.opened, heldHandle]) ho
  refine .cons (runsIn_watchedBy hfirst ?_) (.cons (runsIn_watchedBy hsecond ?_) (.nil _))
  · intro o hmem
    exact (up_openRecord _ _ _ o hmem).1
  · intro o hmem
    simp only [writeRecord, List.mem_cons, List.not_mem_nil, or_false] at hmem
    rcases hmem with rfl | rfl | rfl
    · rfl
    · rfl
    · exact hn

/-- All functions but `OpenPrinterW` were found. -/
def withoutOpenPrinterW (p : Proc) : Bool := decide (p ≠ .OpenPrinterW)

theorem a_write_can_be_left_out :
    ¬ ∀ (d : Deployment) (W W' : World d) (recs : List (WatchedRecord d)),
      Run WatchedStep W recs W' → ∀ rec ∈ recs, ExecutedOnce rec := by
  intro law
  have ho := World.env_leftOut (W := (worldWith withoutOpenPrinterW).opened remoteHandle)
    (q := .WritePrinter (SAFE_HANDLE heldHandle) [65] 1) rfl rfl
  have honce := law _ _ _ _ (openWrite_run rfl rfl ho) _
    (List.mem_cons_of_mem _ (List.mem_singleton_self _))
  rcases honce.2 _ rfl with hone | ⟨-, fp, hfp, hnull⟩
  · cases hone
  · cases List.mem_singleton.mp hfp
    cases hnull

/-- With all functions found, the open and the write are executed once. -/
theorem a_write_is_executed_once :
    ∃ r o W', Run WatchedStep (worldWith fun _ => true) (openWriteRecords (fun _ => true) r o) W' ∧
      ∀ rec ∈ openWriteRecords (fun _ => true) r o, ExecutedOnce rec := by
  have ho := World.env_carriedOut (W := (worldWith fun _ => true).opened remoteHandle)
    (q := .WritePrinter (SAFE_HANDLE heldHandle) [65] 1) (r := ⟨1, 1⟩) rfl rfl rfl rfl
  have hrun := openWrite_run rfl rfl ho
  refine ⟨_, _, _, hrun,
    (calls_are_executed_once_just_if_writes_test_their_pointer hrun).mpr ?_⟩
  intro rec hrec _ fp hfp htested
  simp only [openWriteRecords, List.mem_cons, List.not_mem_nil, or_false] at hrec
  rcases hrec with rfl | rfl
  · cases List.mem_singleton.mp hfp
    cases htested
  · cases List.mem_singleton.mp hfp
    cases htested

end RemotePrinter
