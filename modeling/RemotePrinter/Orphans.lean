-- Handles that the server has open for the client and the client does not
-- track. A forwarded close takes the handle off the list before it asks the
-- server. So there are no orphans as long as the server carries out every
-- forwarded close and gives out no handle that the client cuts, and one as soon
-- as it does not.
import RemotePrinter.Steps
import RemotePrinter.Runs

open Interactive

namespace RemotePrinter

variable {d : Deployment}

/-- Every handle that the server has open for the client is tracked, under a value with which
the client names it to the server. -/
def NoOrphan (W : World d) : Prop :=
  ∀ s ∈ W.server.spooler.openHandles,
    d.clientHandle s ∈ W.bxprinters ∧ d.serverHandle (d.clientHandle s) = s

/-! ## The rules of the run -/

/-- The server process `pid` runs for the whole call. -/
def OneProcess (pid : Nat) (rec : CallRecord d) : Prop := ∀ o ∈ rec.trace, o.note.pid = pid

/-- No handle is opened by a request whose answer is lost. -/
def NoLostOpen (rec : CallRecord d) : Prop :=
  ∀ q x n, ⟨.api (.spool q), .error x, n⟩ ∈ rec.trace →
    ∀ c ∈ n.calls, c.op.opened c.answer = none

/-- The server has closed each handle that the call took off the list. -/
def CloseCarriedOut (rec : CallRecord d) : Prop :=
  ∀ h ∈ removals rec.trace,
    ∃ c ∈ serverCalls rec.trace, c.op.closed c.answer = some (d.serverHandle h)

/-! ## The two lists after one call -/

/-- Every tracked handle is one that the server has open. -/
def TrackedOpen (W : World d) : Prop :=
  ∀ h ∈ W.bxprinters, ∃ s ∈ W.server.spooler.openHandles, d.clientHandle s = h

section
variable {W W' : World d} {rec : CallRecord d}

/-- The requests of one process start from its state and end in it. -/
theorem Sent.one_process {q : SpoolRequest} {a : Except TException q.Result} {n : Served d}
    {S S' : ServerProcess d.server} (h : Sent W rec.call rec.trace W' q a n S S')
    (hone : OneProcess W.server.pid rec) (hpid : W'.server.pid = W.server.pid) :
    World.Reaches W.server q a n.calls W'.server := by
  have hS : S = W.server := h.before.eq_of_pid (h.pid.symm.trans (hone _ h.mem))
  have hS' : W'.server = S' := h.after.eq_of_pid (by rw [hpid, h.pid', hS])
  rw [hS', ← hS]
  exact h.reaches

/-- A request that closes nothing and opens nothing leaves open what was open. -/
theorem open_of_reaches {q : SpoolRequest} {a : Except TException q.Result}
    {calls : List (ServerCall d)} {S S' : ServerProcess d.server}
    (h : World.Reaches S q a calls S') (hclose : (q.original d.server).proc ≠ .ClosePrinter)
    (hopen : ∀ c ∈ calls, c.op.opened c.answer = none) (s : HANDLE d.server) :
    s ∈ S'.spooler.openHandles ↔ s ∈ S.spooler.openHandles := by
  cases h with
  | nothing ha => exact Iff.rfl
  | executed ht hr ha =>
    have hnone := hopen _ (List.mem_singleton_self _)
    rw [hr.mem_open, hnone, SpoolCall.closed_eq_none hclose]
    simp

/-- An answer without a handle comes from a server that opened none. -/
theorem opened_of_reaches {q : SpoolRequest} {v : q.Result} {calls : List (ServerCall d)}
    {S S' : ServerProcess d.server} (h : World.Reaches S q (.ok v) calls S')
    (hnone : q.granted d.client v = none) : ∀ c ∈ calls, c.op.opened c.answer = none := by
  cases h with
  | nothing ha => simp
  | executed ht hr ha =>
    intro c hc
    rw [List.mem_singleton] at hc
    subst hc
    rw [ha v rfl, granted_pack hr, Option.map_eq_none_iff] at hnone
    exact hnone

/-- A request on a handle opens none. -/
theorem opened_of_handle {q : SpoolRequest} {a : Except TException q.Result}
    {calls : List (ServerCall d)} {S S' : ServerProcess d.server}
    (h : World.Reaches S q a calls S') {x : HANDLE d.server}
    (hx : (q.original d.server).handle = some x) : ∀ c ∈ calls, c.op.opened c.answer = none := by
  cases h with
  | nothing ha => simp
  | executed ht hr ha =>
    intro c hc
    rw [List.mem_singleton] at hc
    subst hc
    exact SpoolCall.opened_eq_none hx _

/-- A handle that a request opens is open after it. -/
theorem mem_open_of_opened {q : SpoolRequest} {a : Except TException q.Result}
    {calls : List (ServerCall d)} {S S' : ServerProcess d.server}
    (h : World.Reaches S q a calls S') :
    ∀ c ∈ calls, ∀ s, c.op.opened c.answer = some s → s ∈ S'.spooler.openHandles := by
  cases h with
  | nothing ha => simp
  | executed ht hr ha =>
    intro c hc s hs
    rw [List.mem_singleton] at hc
    subst hc
    exact (hr.mem_open s).mpr (Or.inl hs)

/-- With both lists as they were, both laws are as they were. -/
theorem orphans_same (hbx : W'.bxprinters = W.bxprinters)
    (hopen : ∀ s, s ∈ W'.server.spooler.openHandles ↔ s ∈ W.server.spooler.openHandles)
    (hto : TrackedOpen W) (hrem : removals rec.trace = []) (hhold : HoldsHandles rec) :
    TrackedOpen W' ∧ (NoOrphan W → (NoOrphan W' ↔ HoldsHandles rec ∧ CloseCarriedOut rec)) := by
  refine ⟨?_, fun hno => iff_of_true ?_ ⟨hhold, ?_⟩⟩
  · intro h hh
    rw [hbx] at hh
    obtain ⟨s, hs, hsh⟩ := hto h hh
    exact ⟨s, (hopen s).mpr hs, hsh⟩
  · intro s hs
    rw [hbx]
    exact hno s ((hopen s).mp hs)
  · intro h hh
    rw [hrem] at hh
    cases hh

/-- A call in which the server opens nothing gives the client no handle to hold. -/
theorem holdsHandles_of_none
    (hnone : ∀ c ∈ serverCalls rec.trace, c.op.opened c.answer = none) : HoldsHandles rec := by
  intro c hc s hs
  rw [hnone c hc] at hs
  cases hs

/-- The server closes the handle of a forwarded close, or nothing. -/
theorem open_of_close {x : HANDLE d.client} {a : Except TException Bool}
    {calls : List (ServerCall d)} {S S' : ServerProcess d.server}
    (h : World.Reaches S (.ClosePrinter (SAFE_HANDLE x)) a calls S') (s : HANDLE d.server) :
    (s ∈ S'.spooler.openHandles ↔ s ∈ S.spooler.openHandles ∧
      ¬ ∃ c ∈ calls, c.op.closed c.answer = some s) ∧
    ∀ c ∈ calls, c.op.closed c.answer = some s → s = d.serverHandle x := by
  cases h with
  | nothing ha => simp
  | executed ht hr ha =>
    constructor
    · rw [hr.mem_open]
      simp [SpoolRequest.original, SpoolCall.opened]
    · intro c hc hs
      rw [List.mem_singleton] at hc
      subst hc
      simp only [SpoolRequest.original, SpoolCall.closed, Option.ite_none_right_eq_some] at hs
      exact (Option.some.inj hs.2).symm

/-- A forwarded close leaves no orphan just if the server closes the handle. -/
theorem orphans_close {x : HANDLE d.client} {a : Except TException Bool}
    {calls : List (ServerCall d)} (hto : TrackedOpen W) (hx : x ∈ W.bxprinters)
    (hbx : W'.bxprinters = bxprinters.closeBixolonPrinter W.bxprinters x)
    (hreach : World.Reaches W.server (.ClosePrinter (SAFE_HANDLE x)) a calls W'.server) :
    TrackedOpen W' ∧ (NoOrphan W → (NoOrphan W' ↔
      ∃ c ∈ calls, c.op.closed c.answer = some (d.serverHandle x))) := by
  obtain ⟨s₀, hs₀, hsx⟩ := hto x hx
  constructor
  · intro h hh
    rw [hbx, bxprinters.mem_closeBixolonPrinter] at hh
    obtain ⟨s, hs, hsh⟩ := hto h hh.1
    refine ⟨s, (open_of_close hreach s).1.mpr ⟨hs, ?_⟩, hsh⟩
    rintro ⟨c, hc, hcs⟩
    -- the handle that the server closes has the value `x` on the client
    have hss : s = d.serverHandle x := (open_of_close hreach s).2 c hc hcs
    refine hh.2 ?_
    rw [← hsh, hss, ← hsx]
    exact Deployment.clientHandle_sent s₀
  · intro hno
    have hback : d.serverHandle x = s₀ := by
      rw [← hsx]
      exact (hno s₀ hs₀).2
    rw [hback]
    constructor
    · intro hno'
      by_contra hopen
      have hin := (hno' s₀ ((open_of_close hreach s₀).1.mpr ⟨hs₀, hopen⟩)).1
      rw [hbx, bxprinters.mem_closeBixolonPrinter] at hin
      exact hin.2 hsx
    · intro hclosed s hs
      obtain ⟨hold, hnot⟩ := (open_of_close hreach s).1.mp hs
      obtain ⟨hmem, hs'⟩ := hno s hold
      rw [hbx, bxprinters.mem_closeBixolonPrinter]
      refine ⟨⟨hmem, fun he => hnot ?_⟩, hs'⟩
      rw [← hs', he, hback]
      exact hclosed

/-- An open whose answer reaches the client leaves no orphan just if the client can hold the
handle. -/
theorem orphans_open {x : HANDLE d.client} {q : SpoolRequest} {v : q.Result}
    {calls : List (ServerCall d)} (hto : TrackedOpen W)
    (hbx : W'.bxprinters = W.bxprinters ++ [x])
    (hreach : World.Reaches W.server q (.ok v) calls W'.server)
    (hg : q.granted d.client v = some x) (hopen : (q.original d.server).handle = none) :
    TrackedOpen W' ∧ (NoOrphan W → (NoOrphan W' ↔
      ∀ c ∈ calls, ∀ s, c.op.opened c.answer = some s → d.Holds s)) := by
  obtain ⟨s₀, hsx, ⟨c₀, hc₀, hs₀⟩, honly, hmem⟩ := open_of_granted hreach hg hopen
  constructor
  · intro h hh
    rw [hbx, List.mem_append, List.mem_singleton] at hh
    rcases hh with hh | rfl
    · obtain ⟨s, hs, hsh⟩ := hto h hh
      exact ⟨s, (hmem s).mpr (Or.inr hs), hsh⟩
    · exact ⟨s₀, (hmem s₀).mpr (Or.inl rfl), hsx⟩
  · intro hno
    constructor
    · intro hno' c hc s hs
      exact (hno' s (mem_open_of_opened hreach c hc s hs)).2
    · intro hhold s hs
      rw [hbx, List.mem_append, List.mem_singleton]
      rcases (hmem s).mp hs with rfl | hold
      · exact ⟨Or.inr hsx, hhold c₀ hc₀ s hs₀⟩
      · exact (hno s hold).imp_left Or.inl

/-- One call: the tracked handles stay open ones, and there is an orphan just if the client
cannot hold a handle that the call opened, or the call took a handle off the list that the server
did not close. -/
theorem orphans_step (hto : TrackedOpen W) (hone : OneProcess W.server.pid rec)
    (hlost : NoLostOpen rec) (hpid : W'.server.pid = W.server.pid)
    (heff : Effect W rec.call rec.trace rec.result W') :
    TrackedOpen W' ∧ (NoOrphan W → (NoOrphan W' ↔ HoldsHandles rec ∧ CloseCarriedOut rec)) := by
  cases heff with
  | bypass v hr hbx hsp hserver hgrants hremovals hrequests hlocal hopens hserved hwhy =>
    exact orphans_same hbx (fun s => by rw [hserver.eq_of_pid hpid]) hto hremovals
      (holdsHandles_of_none (by simp [hserved]))
  | unread hr hq htracked hmeanwhile hgrants hremovals hrequests hlocal hopens hserved =>
    exact orphans_same hmeanwhile.bxprinters
      (fun s => by rw [hmeanwhile.server.eq_of_pid hpid]) hto hremovals
      (holdsHandles_of_none (by simp [hserved]))
  | asked q a n S S' hsent hp hbx hgrants hremovals hnone hgain =>
    have hreach := hsent.one_process hone hpid
    have hclose : (q.original d.server).proc ≠ .ClosePrinter := by
      rw [(request_original hsent.request).1]
      exact hp
    have hopened : ∀ c ∈ n.calls, c.op.opened c.answer = none := by
      cases a with
      | ok v => exact opened_of_reaches hreach (hnone v rfl)
      | error y => exact hlost q y n hsent.mem
    exact orphans_same hbx (open_of_reaches hreach hclose hopened) hto hremovals
      (holdsHandles_of_none (by rw [hsent.serverCalls]; exact hopened))
  | opened q a n S S' x hsent hc hgrant hbx hgrants hremovals hgain =>
    have hopen : (q.original d.server).handle = none := by
      rw [(request_original hsent.request).2, hc]
      rfl
    obtain ⟨hto', hiff⟩ := orphans_open hto hbx (hsent.one_process hone hpid) hgrant hopen
    have hclosed : CloseCarriedOut rec := by simp [CloseCarriedOut, hremovals]
    refine ⟨hto', fun hno => ?_⟩
    rw [hiff hno, ← hsent.serverCalls]
    exact (and_iff_left hclosed).symm
  | closed x a n S S' hc hsent hbx hgrants hremovals hgain =>
    have hx : x ∈ W.bxprinters := hsent.tracked x (by rw [hc]; rfl)
    have hreach := hsent.one_process hone hpid
    obtain ⟨hto', hiff⟩ := orphans_close hto hx hbx hreach
    have hhold : HoldsHandles rec :=
      holdsHandles_of_none (by rw [hsent.serverCalls]; exact opened_of_handle hreach rfl)
    refine ⟨hto', fun hno => ?_⟩
    rw [hiff hno, and_iff_right hhold]
    unfold CloseCarriedOut
    rw [hremovals, hsent.serverCalls]
    simp

end

/-! ## Whole runs -/

section
variable {W W' : World d} {recs : List (CallRecord d)}

theorem trackedOpen_run (hto : TrackedOpen W) (run : Run (HostStep detour) W recs W')
    (hrule : ∀ rec ∈ recs, OneProcess W.server.pid rec ∧ NoLostOpen rec) :
    TrackedOpen W' ∧ W'.server.pid = W.server.pid := by
  refine run.history (J := fun _ V => TrackedOpen V ∧ V.server.pid = W.server.pid)
    ⟨hto, rfl⟩ ?_ (along_of_forall hrule)
  rintro pre V rec V' ⟨htoV, hpid⟩ ⟨hone, hlost⟩ hstep
  rw [← hpid] at hone
  obtain ⟨hpid', -⟩ := runsIn_up hstep hone
  exact ⟨(orphans_step htoV hone hlost hpid' hstep.effect).1, hpid'.trans hpid⟩

/-- In a run there is no orphan between two calls just if the client can hold every handle that
the server opens, and the server carries out every forwarded close. -/
theorem no_orphans_just_if_every_forwarded_close_is_carried_out (hbx : W.bxprinters = [])
    (hopen : W.server.spooler.openHandles = []) (run : Run (HostStep detour) W recs W')
    (hone : ∀ rec ∈ recs, OneProcess W.server.pid rec)
    (hlost : ∀ rec ∈ recs, NoLostOpen rec) :
    Throughout (HostStep detour) NoOrphan W recs W' ↔
      ∀ rec ∈ recs, HoldsHandles rec ∧ CloseCarriedOut rec := by
  have hto : TrackedOpen W := by simp [TrackedOpen, hbx]
  have hno : NoOrphan W := by simp [NoOrphan, hopen]
  have hrule : ∀ rec ∈ recs, OneProcess W.server.pid rec ∧ NoLostOpen rec :=
    fun rec hr => ⟨hone rec hr, hlost rec hr⟩
  constructor
  · intro hall rec hrec
    obtain ⟨pre, post, rfl⟩ := List.append_of_mem hrec
    obtain ⟨V, hpre, hrest⟩ := run.append_inv
    cases hrest with
    | @cons _ V' _ _ _ hstep hpost =>
      obtain ⟨htoV, hpid⟩ := trackedOpen_run hto hpre fun r hr => hrule r (by simp [hr])
      have honeV : OneProcess V.server.pid rec := by rw [hpid]; exact hone rec hrec
      have hiff := (orphans_step htoV honeV (hlost rec hrec) (runsIn_up hstep honeV).1
        hstep.effect).2 (hall pre (rec :: post) V rfl hpre (.cons hstep hpost))
      refine hiff.mp (hall (pre ++ [rec]) post V' (by simp) ?_ hpost)
      exact hpre.append (.cons hstep (.nil V'))
  · intro hclosed pre post V hsplit hpre hpost
    subst hsplit
    refine (hpre.history (J := fun _ U => (TrackedOpen U ∧ NoOrphan U) ∧
      U.server.pid = W.server.pid) ⟨⟨hto, hno⟩, rfl⟩ ?_
      (along_of_forall fun rec hr => show _ ∧ HoldsHandles rec ∧ CloseCarriedOut rec from
        ⟨hrule rec (by simp [hr]), hclosed rec (by simp [hr])⟩)).1.2
    rintro pre' U rec U' ⟨⟨htoU, hnoU⟩, hpid⟩ ⟨⟨honeU, hlostU⟩, hcl⟩ hstep
    rw [← hpid] at honeU
    obtain ⟨hpid', -⟩ := runsIn_up hstep honeU
    obtain ⟨hto', hiff⟩ := orphans_step htoU honeU hlostU hpid' hstep.effect
    exact ⟨⟨hto', (hiff hnoU).mpr hcl⟩, hpid'.trans hpid⟩

end

/-! ### One open and one close -/

/-- The host opens a Bixolon printer and closes it. The server's `ClosePrinter` answers `r` and
leaves the handles `left` open. -/
def openCloseRecords (r : BOOL) : List (CallRecord x86Deployment) :=
  [openRecord freshWorld [] remoteHandle,
    closeRecord (freshWorld.opened remoteHandle) (x86Deployment.clientHandle remoteHandle) r]

def closedWorld (left : List (HANDLE x86Deployment.server)) : World x86Deployment :=
  World.withSpooler { freshWorld with bxprinters := [] }
    { openHandles := left, issued := [remoteHandle] }

theorem openClose_run {r : BOOL} {l : List (HANDLE x86Deployment.server)}
    (hr : (freshWorld.opened remoteHandle).server.spooler.Answers
      (.ClosePrinter (x86Deployment.serverHandle (x86Deployment.clientHandle remoteHandle))) r
      { openHandles := l, issued := [remoteHandle] }) :
    Run (HostStep detour) freshWorld (openCloseRecords r) (closedWorld l) :=
  .cons (hostStep_open [] rfl rfl (by simp [freshWorld]))
    (.cons (hostStep_close rfl rfl (by simp [World.opened, freshWorld]) hr) (.nil _))

theorem openClose_up (r : BOOL) :
    ∀ rec ∈ openCloseRecords r, Up freshWorld.server.pid rec := by
  intro rec hrec
  simp only [openCloseRecords, List.mem_cons, List.not_mem_nil, or_false] at hrec
  rcases hrec with rfl | rfl
  · exact up_openRecord freshWorld [] remoteHandle
  · exact up_closeRecord (freshWorld.opened remoteHandle) _ r

theorem oneProcess_of_up {pid : Nat} {rec : CallRecord d} (h : Up pid rec) :
    OneProcess pid rec := fun o ho => (h o ho).1

theorem noLostOpen_of_up {pid : Nat} {rec : CallRecord d} (h : Up pid rec) : NoLostOpen rec := by
  intro q x n hm
  obtain ⟨v, hv⟩ := (h _ hm).2
  cases hv

/-- A close that the server answers FALSE leaves an orphan. -/
theorem a_refused_close_leaves_an_orphan :
    ¬ ∀ (d : Deployment) (W W' : World d) (recs : List (CallRecord d)), W.bxprinters = [] →
      W.server.spooler.openHandles = [] → Run (HostStep detour) W recs W' →
      (∀ rec ∈ recs, OneProcess W.server.pid rec) → (∀ rec ∈ recs, NoLostOpen rec) →
      Throughout (HostStep detour) NoOrphan W recs W' := by
  intro law
  have hrun := openClose_run (r := 0) (l := [remoteHandle]) (Or.inl ⟨rfl, rfl⟩)
  have hno := law _ _ _ _ rfl rfl hrun
    (fun rec hr => oneProcess_of_up (openClose_up 0 rec hr))
    (fun rec hr => noLostOpen_of_up (openClose_up 0 rec hr))
    _ [] _ (List.append_nil _).symm hrun (.nil _) remoteHandle (List.mem_singleton_self _)
  cases hno.1

/-- A close that the server carries out leaves none. -/
theorem a_carried_out_close_leaves_no_orphan :
    Throughout (HostStep detour) NoOrphan freshWorld (openCloseRecords 1) (closedWorld []) := by
  refine (no_orphans_just_if_every_forwarded_close_is_carried_out rfl rfl
    (openClose_run (Or.inr ⟨BOOL.one_ne_zero, List.mem_singleton_self _, rfl⟩))
    (fun rec hr => oneProcess_of_up (openClose_up 1 rec hr))
    (fun rec hr => noLostOpen_of_up (openClose_up 1 rec hr))).mpr
    fun rec hr => ⟨holdsHandles_x86 rec, ?_⟩
  simp only [openCloseRecords, List.mem_cons, List.not_mem_nil, or_false] at hr
  rcases hr with rfl | rfl
  · intro h hh
    cases hh
  · intro h hh
    cases List.mem_singleton.mp hh
    exact ⟨_, List.mem_singleton_self _, rfl⟩

end RemotePrinter
