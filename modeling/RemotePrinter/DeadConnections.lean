-- When a connection on which a call has failed is reported as usable. The only
-- test of `ensure_connection` is whether the socket is open, and most errors of
-- the transport leave the socket open.
import RemotePrinter.ClientRuns

open Interactive

namespace RemotePrinter

/-! ## The law -/

/-- A call has ended with a transport error on the newest connection. -/
def Link.failed (s : Link) : Bool :=
  match s.connections with
  | c :: _ => c.failed
  | [] => false

/-- After that, `ensure_connection` opens a new connection and answers TRUE, or answers FALSE. -/
def NotReportedUsable (s : Link) : Prop :=
  s.failed = true → ∃ l, thriftlink_client.ensure_connection s = (.ok false, l) ∨
    thriftlink_client.ensure_connection s = (.ok true, l) ∧ l.connections = {} :: s.connections

/-- An open socket belongs to a connection. -/
def Link.Sound (s : Link) : Prop :=
  s.isOpen = true → s.created = true ∧ s.connections ≠ []

/-- `ensure_connection` looks at the socket only. -/
theorem notReportedUsable_iff {s : Link} (hsound : s.Sound) :
    NotReportedUsable s ↔ (s.failed = true → s.isOpen = false) := by
  have hspec := thriftlink_client.ensure_connection_spec s
  constructor
  · intro hlaw hfailed
    obtain ⟨l, hl⟩ := hlaw hfailed
    rcases hspec with ⟨hnot, -⟩ | ⟨-, -, hrun⟩ | ⟨-, hclosed, -⟩
    · cases hopen : s.isOpen with
      | false => rfl
      | true =>
        rw [(hsound hopen).1] at hnot
        cases hnot
    · rw [hrun] at hl
      rcases hl with hl | ⟨hl, hnew⟩
      · cases hl
      · cases hl
        have hlen := congrArg List.length hnew
        rw [List.length_cons] at hlen
        omega
    · exact hclosed
  · intro hclosed hfailed
    rcases hspec with ⟨-, hrun⟩ | ⟨-, hopen, -⟩ | ⟨-, -, hspec⟩
    · exact ⟨s, Or.inl hrun⟩
    · rw [hclosed hfailed] at hopen
      cases hopen
    · generalize thriftlink_client.ensure_connection s = out at hspec
      obtain ⟨r, l⟩ := out
      cases hspec with
      | opened rest hnext => exact ⟨_, Or.inr ⟨rfl, rfl⟩⟩
      | refused rest hno => exact ⟨_, Or.inl rfl⟩

/-! ## One command -/

/-- If the command ended with a transport error, then with one after which the socket is closed:
a failed `send` with `WSAECONNRESET` or `WSAENOTCONN`. -/
def ClientRecord.ClosesOnError (rec : ClientRecord) : Prop :=
  transportError rec.result = true → ∀ f ∈ rec.faults, ∃ g, f = .send g ∧ TSocket.closes g = true

theorem failed_after {q : Request} {b : Bytes} {ns : List Nat} {t : Bool} {s s' : Link}
    (hne : s.connections ≠ [])
    (hconn : s'.connections = onNewest (Connection.after q b ns t) s.connections) :
    s'.failed = (s.failed || t) := by
  unfold Link.failed
  rw [hconn]
  cases hcs : s.connections with
  | nil => exact absurd hcs hne
  | cons c older => rfl

theorem sound_after {q : Request} {b : Bytes} {ns : List Nat} {t : Bool} {s s' : Link}
    (hne : s.connections ≠ []) (hcreated : s'.created = true)
    (hconn : s'.connections = onNewest (Connection.after q b ns t) s.connections) : s'.Sound := by
  intro _
  refine ⟨hcreated, ?_⟩
  intro hnil
  rw [hconn] at hnil
  have hlen := congrArg List.length hnil
  rw [onNewest_length, List.length_nil] at hlen
  exact hne (List.length_eq_zero_iff.mp hlen)

theorem call_created {s : Link} (hopen : s.isOpen = true) (q : Request) :
    (q.call s).2.created = s.created := by
  have hsend := send_spec (s := s.issue q) hopen q
  have hfail : ∀ (b : Bool) (s' : Link), (if b then s'.fail else s').created = s'.created := by
    intro b s'
    cases b <;> rfl
  unfold Request.call Request.api
  rw [Action.bind_run]
  simp only [hfail]
  cases hrun : q.send (s.issue q) with
  | mk r s₁ =>
    rw [hrun] at hsend
    cases hsend with
    | limit x d t sent left hlimit => rfl
    | stop e o fs d t sent left hstop hsent hroom hkept => rfl
    | ok t sent left hfull hsplit hroom =>
      have hrec := receive_spec (s := { s.issue q with
        sends := t, connections := wrote sent (s.issue q).connections, wBuf := left }) hopen q
      exact hrec.received.created

theorem call_sound {s : Link} (hopen : s.isOpen = true) (hsound : s.Sound) (q : Request) :
    (q.call s).2.Sound := by
  obtain ⟨hc, hne⟩ := hsound hopen
  have hcreated := (call_created hopen q).trans hc
  cases call_spec hopen q with
  | limited sent hlimit hopen' hno hconn => exact sound_after hne hcreated hconn
  | unsent e o fs sent hr hstop hopen' hfaults hsent hres hconn =>
    exact sound_after hne hcreated hconn
  | sent ns hopen' hwBuf hdepth hfresh hnoted hconn => exact sound_after hne hcreated hconn

/-- A call on a connection that has not failed. -/
theorem call_closes {s : Link} (hopen : s.isOpen = true) (hne : s.connections ≠ [])
    (hfailed : s.failed = false) (hnone : s.faults = []) (q : Request) :
    ((q.call s).2.failed = true → (q.call s).2.isOpen = false) ↔
      (transportError (q.call s).1 = true →
        ∀ f ∈ (q.call s).2.faults, ∃ g, f = .send g ∧ TSocket.closes g = true) := by
  have hspec := call_spec hopen q
  generalize q.call s = out at hspec ⊢
  obtain ⟨r, s'⟩ := out
  simp only at hspec ⊢
  cases hspec with
  | limited sent hlimit hopen' hno hconn =>
    rw [failed_after hne hconn, hfailed, hno]
    simp
  | unsent e o fs sent hr hstop hopen' hfaults hsent hres hconn =>
    rw [failed_after hne hconn, hfailed, Bool.false_or, hopen', hfaults, hnone, List.nil_append, hr]
    cases hstop with
    | blocked => simp [transportError]
    | failed f => simp
  | sent ns hopen' hwBuf hdepth hfresh hnoted hconn =>
    rw [failed_after hne hconn, hfailed, Bool.false_or, hopen']
    constructor
    · intro hlaw herr
      cases hlaw herr
    · intro hlaw herr
      obtain ⟨f, hf⟩ := hnoted herr
      obtain ⟨g, hg, -⟩ := hlaw herr _ hf
      cases hg

/-- A command that makes no call. -/
structure Quiet (s : Link) (r : Except Stop Bool) (s' : Link) : Prop where
  noError : transportError r = false
  sound : s.Sound → s'.Sound
  failed : s'.isOpen = true → s.isOpen = true ∧ s'.failed = s.failed ∨ s'.failed = false

theorem quiet_reopens {s s' : Link} {r : Except Stop Bool} (h : Reopens s r s')
    (hcreated : s.created = true) (hclosed : s.isOpen = false) : Quiet s r s' := by
  cases h with
  | opened rest hnext => exact ⟨rfl, fun _ _ => ⟨hcreated, by simp⟩, fun _ => Or.inr rfl⟩
  | refused rest hno =>
    refine ⟨rfl, fun hsound => hsound, fun hopen => ?_⟩
    rw [hclosed] at hopen
    cases hopen

theorem quiet_thrift_connect (s : Link) :
    Quiet s (Command.thrift_connect.action s).1 (Command.thrift_connect.action s).2 := by
  have hspec := thriftlink_client.connect_internal_spec
    (s := thriftlink_client.newObjects s) rfl rfl
  have hquiet := quiet_reopens hspec rfl rfl
  refine ⟨hquiet.noError, fun _ => hquiet.sound ?_, fun hopen => ?_⟩
  · intro hopen
    cases hopen
  · rcases hquiet.failed hopen with ⟨hno, -⟩ | hfailed
    · cases hno
    · exact Or.inr hfailed

theorem quiet_ensure_connection (s : Link) :
    Quiet s (thriftlink_client.ensure_connection s).1
      (thriftlink_client.ensure_connection s).2 := by
  rcases thriftlink_client.ensure_connection_spec s with
    ⟨-, hrun⟩ | ⟨-, hopen, hrun⟩ | ⟨hcreated, hclosed, hspec⟩
  · rw [hrun]
    exact ⟨rfl, id, fun hopen => Or.inl ⟨hopen, rfl⟩⟩
  · rw [hrun]
    exact ⟨rfl, id, fun hopen => Or.inl ⟨hopen, rfl⟩⟩
  · exact quiet_reopens hspec hcreated hclosed

theorem failed_wrote (b : Bytes) (s s' : Link) (h : s'.connections = wrote b s.connections) :
    s'.failed = s.failed ∧ (s'.connections = [] ↔ s.connections = []) := by
  unfold Link.failed
  rw [h]
  cases s.connections <;> simp [wrote, onNewest]

/-- A socket that is closed takes nothing. -/
theorem closed_write {s : Link} (hclosed : s.isOpen = false) {buf : Bytes} (hne : buf ≠ []) :
    TSocket.write buf s = (.error (.thrown (.TTransportException .NOT_OPEN)), s) := by
  unfold TSocket.write
  cases buf with
  | nil => exact absurd rfl hne
  | cons b bs =>
    have hpartial : TSocket.write_partial (b :: bs) s =
        (.error (.thrown (.TTransportException .NOT_OPEN)), s) := by
      unfold TSocket.write_partial
      rw [hclosed]
      rfl
    simp only [List.length_cons, TSocket.writeLoop, if_neg hne]
    exact Action.bind_error hpartial

/-- With a closed socket at the end nothing else matters. -/
theorem quiet_closed {s s' : Link} {r : Except Stop Bool} (hr : transportError r = false)
    (hclosed : s'.isOpen = false) : Quiet s r s' := by
  refine ⟨hr, fun _ hopen => ?_, fun hopen => ?_⟩
  all_goals
    rw [hclosed] at hopen
    cases hopen

theorem quiet_thrift_close (s : Link) :
    Quiet s (Command.thrift_close.action s).1 (Command.thrift_close.action s).2 := by
  simp only [Command.action]
  rw [Action.bind_run]
  unfold thriftlink_client.thrift_close
  cases hcreated : s.created with
  | false => exact ⟨rfl, id, fun hopen => Or.inl ⟨hopen, rfl⟩⟩
  | true =>
    unfold Action.catchTException TBufferedTransport.close
    simp only [if_true]
    rw [Action.bind_run]
    cases hopen : s.isOpen with
    | false =>
      unfold TBufferedTransport.flush
      by_cases hhave : s.wBuf.length > 0
      · have hset : TBufferedTransport.setWriteBuffer [] s = (.ok (), { s with wBuf := [] }) := rfl
        have hne : s.wBuf ≠ [] := List.length_pos_iff.mp hhave
        rw [if_pos hhave, Action.bind_ok hset, closed_write (s := { s with wBuf := [] }) hopen hne]
        exact quiet_closed rfl hopen
      · rw [if_neg hhave]
        exact quiet_closed rfl rfl
    | true =>
      have hflush := (flush_spec hopen).1
      generalize TBufferedTransport.flush s = out at hflush ⊢
      obtain ⟨r, s₁⟩ := out
      cases hflush with
      | ok t sent left hfull hsplit hroom => exact quiet_closed rfl rfl
      | limit x d t sent left hlimit => exact hlimit.elim
      | stop e o fs d t sent left hstop hsent hroom hkept =>
        obtain ⟨hfailed, hnil⟩ := failed_wrote sent s
          { s with sends := t, connections := wrote sent s.connections, wBuf := left,
                   recursion_depth := d, isOpen := o, faults := s.faults ++ fs } rfl
        have hsound : s.Sound → s.created = true ∧ wrote sent s.connections ≠ [] :=
          fun hs => ⟨hcreated, fun h => (hs hopen).2 (hnil.mp h)⟩
        cases hstop with
        | blocked => exact ⟨rfl, fun hs _ => hsound hs, fun _ => Or.inl ⟨hopen, hfailed⟩⟩
        | failed f => exact ⟨rfl, fun hs _ => hsound hs, fun _ => Or.inl ⟨hopen, hfailed⟩⟩

/-! ## Runs -/

/-- A command that makes no call keeps the law. -/
theorem closes_quiet {s s' : Link} {rec : ClientRecord}
    (hlaw : s.failed = true → s.isOpen = false) (h : Quiet s rec.result s') :
    (s'.failed = true → s'.isOpen = false) ↔ rec.ClosesOnError := by
  refine iff_of_true (fun hfailed => ?_) (fun herr => ?_)
  · cases hopen : s'.isOpen with
    | false => rfl
    | true =>
      rcases h.failed hopen with ⟨hopen₀, hsame⟩ | hno
      · rw [hsame] at hfailed
        rw [hlaw hfailed] at hopen₀
        cases hopen₀
      · rw [hno] at hfailed
        cases hfailed
  · rw [h.noError] at herr
    cases herr

/-- A command makes no call, or it makes one on an open connection. -/
theorem quiet_or_call {C C' : ClientState} {rec : ClientRecord} (step : ClientStep C rec C') :
    Quiet C.link.start rec.result C'.link ∨
    ∃ (q : Request) (s₁ : Link), Quiet C.link.start (.ok true) s₁ ∧ s₁.isOpen = true ∧
      s₁.faults = [] ∧ transportError (q.call s₁).1 = transportError rec.result ∧
      C'.link = (q.call s₁).2 := by
  have haction := step.action
  cases hcmd : rec.command with
  | thrift_connect =>
    have h := quiet_thrift_connect C.link.start
    rw [← hcmd, haction] at h
    exact Or.inl h
  | ensure_connection =>
    have h := quiet_ensure_connection C.link.start
    rw [hcmd] at haction
    simp only [Command.action] at haction
    rw [haction] at h
    exact Or.inl h
  | thrift_close =>
    have h := quiet_thrift_close C.link.start
    rw [← hcmd, haction] at h
    exact Or.inl h
  | forward q =>
    rw [hcmd] at haction
    have hens := quiet_ensure_connection C.link.start
    rcases forward_action q C.link.start with ⟨s', hrun, hact⟩ | ⟨s₁, hrun, hopen, hact⟩
    · rw [hrun] at hens
      rw [hact] at haction
      obtain ⟨hr, hs⟩ := Prod.mk.inj haction
      rw [hr, hs] at hens
      exact Or.inl hens
    · obtain ⟨-, -, -, hsame⟩ := ensure_connection_same C.link.start
      rw [hrun] at hens hsame
      rw [hact] at haction
      obtain ⟨hr, hs⟩ := Prod.mk.inj haction
      refine Or.inr ⟨q, s₁, hens, hopen, hsame, ?_, hs.symm⟩
      rw [← hr, transportError_map]

theorem sound_step {C C' : ClientState} {rec : ClientRecord} (hsound : C.link.Sound)
    (step : ClientStep C rec C') : C'.link.Sound := by
  rcases quiet_or_call step with hquiet | ⟨q, s₁, hquiet, hopen, -, -, hs⟩
  · exact hquiet.sound hsound
  · rw [hs]
    exact call_sound hopen (hquiet.sound hsound) q

/-- The law before a command and after it. -/
theorem closes_step {C C' : ClientState} {rec : ClientRecord} (hsound : C.link.Sound)
    (hlaw : C.link.failed = true → C.link.isOpen = false) (step : ClientStep C rec C') :
    (C'.link.failed = true → C'.link.isOpen = false) ↔ rec.ClosesOnError := by
  rcases quiet_or_call step with hquiet | ⟨q, s₁, hquiet, hopen, hnone, herr, hs⟩
  · exact closes_quiet (s := C.link.start) hlaw hquiet
  · have hfailed : s₁.failed = false := by
      rcases hquiet.failed hopen with ⟨hopen₀, hsame⟩ | hno
      · cases hf : s₁.failed with
        | false => rfl
        | true =>
          rw [hf] at hsame
          have hclosed : C.link.start.isOpen = false := hlaw hsame.symm
          rw [hclosed] at hopen₀
          cases hopen₀
      · exact hno
    have hne := (hquiet.sound hsound hopen).2
    have hcall := call_closes hopen hne hfailed hnone q
    rw [← hs, herr, ← step.faults] at hcall
    exact hcall

/-- The connection on which a call has failed is never reported as usable just if every call
that fails closes the socket. -/
theorem no_failed_connection_is_reported_just_if_errors_close {C C' : ClientState}
    {recs : List ClientRecord} (hunused : C.link.Unused) (run : Run ClientStep C recs C') :
    Throughout ClientStep (fun C => NotReportedUsable C.link) C recs C' ↔
      ∀ rec ∈ recs, rec.ClosesOnError := by
  obtain ⟨-, hclosed, hnew⟩ := hunused
  have hsound : C.link.Sound := by
    intro hopen
    rw [hclosed] at hopen
    cases hopen
  have hlaw : C.link.failed = true → C.link.isOpen = false := fun _ => hclosed
  constructor
  · intro hall rec hrec
    obtain ⟨pre, post, rfl⟩ := List.append_of_mem hrec
    obtain ⟨V, hpre, hrest⟩ := run.append_inv
    have hsoundV : V.link.Sound := hpre.history (J := fun _ U => U.link.Sound)
      (Q := fun _ _ => True) hsound (fun _ U _ U' hU _ hstep => sound_step hU hstep)
      (along_of_forall fun _ _ => trivial)
    have hV := (notReportedUsable_iff hsoundV).mp (hall pre (rec :: post) V rfl hpre hrest)
    cases hrest with
    | @cons _ V' _ _ _ hstep hpost =>
      have hrun' : Run ClientStep C (pre ++ [rec]) V' := hpre.append (.cons hstep (.nil V'))
      have hsound' := sound_step hsoundV hstep
      have hiff := closes_step hsoundV hV hstep
      exact hiff.mp ((notReportedUsable_iff hsound').mp (hall (pre ++ [rec]) post V' (by simp)
        hrun' hpost))
  · intro hcloses pre post V hsplit hpre hpost
    subst hsplit
    have hV := hpre.history (J := fun _ U => U.link.Sound ∧
      (U.link.failed = true → U.link.isOpen = false)) ⟨hsound, hlaw⟩ ?_
      (along_of_forall fun rec hr => hcloses rec (by simp [hr]))
    · exact (notReportedUsable_iff hV.1).mpr hV.2
    · rintro pre' U rec U' ⟨hsoundU, hlawU⟩ hcl hstep
      exact ⟨sound_step hsoundU hstep, (closes_step hsoundU hlawU hstep).mpr hcl⟩

/-! ### Two runs with one call -/

/-- The server closes the connection before it replies. -/
def eofState : ClientState where
  link := { connects := [true], sends := [.took 511], recvs := [.fails .closed] }

/-- The connection is reset when the request is sent. -/
def resetState : ClientState where
  link := { connects := [true], sends := [.fails (.error WSAECONNRESET)] }

/-- The client connects, and makes a call. -/
def ClientState.oneCallRecords (C : ClientState) : List ClientRecord :=
  [C.record .thrift_connect,
    (C.next .thrift_connect).record (.forward (.spool (.EndPagePrinter 1)))]

def ClientState.afterOneCall (C : ClientState) : ClientState :=
  (C.next .thrift_connect).next (.forward (.spool (.EndPagePrinter 1)))

theorem oneCall_run {C : ClientState} (hready : C.waiting = false)
    (hnext : (C.next .thrift_connect).waiting = false) :
    Run ClientStep C C.oneCallRecords C.afterOneCall :=
  .cons (clientStep_next hready _) (.cons (clientStep_next hnext _) (.nil _))

/-- After an end of file the connection is still reported as usable. -/
theorem a_dead_connection_can_be_reported :
    ¬ ∀ (C C' : ClientState) (recs : List ClientRecord), C.link.Unused →
      Run ClientStep C recs C' →
      Throughout ClientStep (fun C => NotReportedUsable C.link) C recs C' := by
  intro law
  have hrun : Run ClientStep eofState eofState.oneCallRecords eofState.afterOneCall :=
    oneCall_run rfl rfl
  have hend := law _ _ _ ⟨rfl, rfl, rfl⟩ hrun _ [] _ (List.append_nil _).symm hrun (.nil _)
  have hfailed : eofState.afterOneCall.link.failed = true := by decide +kernel
  have hopen : eofState.afterOneCall.link.isOpen = true := by decide +kernel
  have hsound : eofState.afterOneCall.link.Sound := by
    refine sound_step (sound_step ?_ (clientStep_next rfl _)) (clientStep_next rfl _)
    intro hno
    cases hno
  have hclosed := (notReportedUsable_iff hsound).mp hend hfailed
  rw [hopen] at hclosed
  cases hclosed

/-- The reset fails the call, and its connection is not reported. -/
theorem a_reset_connection_is_not_reported :
    resetState.afterOneCall.link.failed = true ∧
      Throughout ClientStep (fun C => NotReportedUsable C.link) resetState
        resetState.oneCallRecords resetState.afterOneCall := by
  refine ⟨by decide +kernel, (no_failed_connection_is_reported_just_if_errors_close ⟨rfl, rfl, rfl⟩
    (oneCall_run rfl rfl)).mpr fun rec hrec _ f hf => ?_⟩
  have hreset : ∀ rec ∈ resetState.oneCallRecords, ∀ f ∈ rec.faults,
      f = .send (.error WSAECONNRESET) := by
    decide +kernel
  exact ⟨_, hreset rec hrec f hf, by decide⟩

end RemotePrinter
