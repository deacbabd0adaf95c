-- What the client writes and reads on each connection. `connect_internal` opens
-- the same transport again, with what an earlier failure has left in its
-- buffers. With empty buffers a connection starts clean.
import RemotePrinter.ClientRuns
import Mathlib.Data.List.Flatten

open Interactive

namespace RemotePrinter

/-! ## The law -/

/-- The network took complete requests of the connection, in order, and then a part of one at
most. -/
def Connection.Framed (c : Connection) : Prop :=
  ∃ (rs : List Bytes) (part : Bytes), rs.Sublist c.requests ∧ c.written = rs.flatten ++ part ∧
    (part = [] ∨ ∃ r ∈ c.requests, part <+: r)

/-- Each connection is framed, and what its calls read came on it. -/
def CleanConnections (cs : List Connection) : Prop :=
  ∀ c older, c :: older <:+ cs → c.Framed ∧ ∀ n ∈ c.consumed, n = older.length + 1

theorem cleanConnections_cons {c : Connection} {older : List Connection} :
    CleanConnections (c :: older) ↔
      (c.Framed ∧ ∀ n ∈ c.consumed, n = older.length + 1) ∧ CleanConnections older := by
  constructor
  · intro h
    exact ⟨h c older (List.suffix_refl _),
      fun c' older' hs => h c' older' (hs.trans (List.suffix_cons _ _))⟩
  · rintro ⟨hc, holder⟩ c' older' hs
    rcases List.suffix_cons_iff.mp hs with heq | hs
    · obtain ⟨rfl, rfl⟩ := List.cons.inj heq
      exact hc
    · exact holder c' older' hs

theorem framed_new : ({} : Connection).Framed := ⟨[], [], List.Sublist.slnil, rfl, Or.inl rfl⟩

/-- The network took complete requests of the connection and nothing else. -/
def Connection.Whole (c : Connection) : Prop :=
  ∃ rs : List Bytes, rs.Sublist c.requests ∧ c.written = rs.flatten

/-- After a part of a new request the connection is still framed. -/
theorem framed_after {c : Connection} (h : c.Whole) {q : Request} {sent : Bytes}
    (hsent : sent <+: q.encoding) (ns : List Nat) (failed : Bool) :
    (Connection.after q sent ns failed c).Framed := by
  obtain ⟨rs, hrs, hwritten⟩ := h
  refine ⟨rs, sent, hrs.trans (List.sublist_append_left _ _), ?_, Or.inr ⟨q.encoding, ?_, hsent⟩⟩
  · simp only [Connection.after]
    rw [hwritten]
  · exact List.mem_append_right _ (List.mem_singleton_self _)

/-- And after all of it, or nothing, there is nothing else. -/
theorem whole_after {c : Connection} (h : c.Whole) {q : Request} {sent : Bytes}
    (hsent : sent = q.encoding ∨ sent = []) (ns : List Nat) (failed : Bool) :
    (Connection.after q sent ns failed c).Whole := by
  obtain ⟨rs, hrs, hwritten⟩ := h
  rcases hsent with rfl | rfl
  · refine ⟨rs ++ [q.encoding], hrs.append (List.Sublist.refl _), ?_⟩
    simp only [Connection.after]
    rw [hwritten, List.flatten_append, List.flatten_singleton]
  · refine ⟨rs, hrs.trans (List.sublist_append_left _ _), ?_⟩
    simp only [Connection.after]
    rw [hwritten, List.append_nil]

/-- A framed connection has not got many more bytes than its requests have. -/
theorem Connection.Framed.length_le {c : Connection} (h : c.Framed) :
    c.written.length ≤ 2 * c.requests.flatten.length := by
  obtain ⟨rs, part, hsub, hwritten, hpart⟩ := h
  have hrs : rs.flatten.length ≤ c.requests.flatten.length := hsub.flatten.length_le
  have hlen : part.length ≤ c.requests.flatten.length := by
    rcases hpart with rfl | ⟨r, hr, hpre⟩
    · exact Nat.zero_le _
    · exact hpre.length_le.trans (List.sublist_flatten_of_mem hr).length_le
  rw [hwritten, List.length_append]
  omega

/-! ## One command -/

/-- The strings of the command are not too long, it opens a connection again only with empty
buffers, and each `send` that fails in it closes the socket, or is the first one and that of a
request that fits the buffer. -/
structure ClientRecord.KeepsClean (rec : ClientRecord) : Prop where
  short : ∀ q, rec.command = .forward q → q.Short
  reopens : rec.command ≠ .thrift_connect → rec.before.created = true →
    rec.before.isOpen = false → rec.before.connects.head? = some true →
    rec.before.wBuf = [] ∧ rec.before.rBuf = []
  closes : ∀ g, Fault.send g ∈ rec.faults → TSocket.closes g = true ∨
    room rec.before.sends = 0 ∧
      ∀ q, rec.command = .forward q → q.encoding.length ≤ wBufSize

/-- The open connection has got complete requests only, and the buffers hold nothing else. -/
structure Ready (s : Link) : Prop where
  newest : ∃ c older, s.connections = c :: older ∧ c.Whole
  wBuf : s.wBuf = []
  recursion_depth : s.recursion_depth = 0
  fresh : Fresh s

/-- Between two commands. A recursion depth that is counted up comes with something in the write
buffer. -/
structure Settled (s : Link) : Prop where
  clean : CleanConnections s.connections
  ready : s.isOpen = true → Ready s
  residue : s.created = true → s.isOpen = false → s.recursion_depth = 0 ∨ s.wBuf ≠ []

/-- A connection that is opened with empty buffers. -/
theorem ready_opened {s s' : Link} {r : Except Stop Bool} (h : Reopens s r s')
    (hclean : CleanConnections s.connections) (hclosed : s.isOpen = false)
    (hres : s.recursion_depth = 0 ∨ s.wBuf ≠ [])
    (hempty : s.connects.head? = some true → s.wBuf = [] ∧ s.rBuf = []) :
    Settled s' ∧ (r = .ok true → Ready s') := by
  cases h with
  | opened rest hnext =>
    obtain ⟨hwBuf, hrBuf⟩ := hempty (by rw [hnext]; rfl)
    have hdepth : s.recursion_depth = 0 := hres.resolve_right (fun hne => hne hwBuf)
    have hready : Ready { s with isOpen := true, connects := rest,
                                 connections := {} :: s.connections } :=
      ⟨⟨{}, s.connections, rfl, [], List.Sublist.slnil, rfl⟩, hwBuf, hdepth,
        fun hne => absurd hrBuf hne⟩
    refine ⟨⟨?_, fun _ => hready, fun _ hno => by cases hno⟩, fun _ => hready⟩
    exact cleanConnections_cons.mpr ⟨⟨framed_new, by simp⟩, hclean⟩
  | refused rest hno =>
    refine ⟨⟨hclean, fun hopen => ?_, fun _ _ => hres⟩, fun hr => by cases hr⟩
    rw [hclosed] at hopen
    cases hopen

theorem settled_connect (s : Link) (hclean : CleanConnections s.connections) :
    Settled (thriftlink_client.thrift_connect s).2 := by
  have hspec := thriftlink_client.connect_internal_spec
    (s := thriftlink_client.newObjects s) rfl rfl
  exact (ready_opened hspec hclean rfl (Or.inl rfl) fun _ => ⟨rfl, rfl⟩).1

theorem settled_ensure {s : Link} (h : Settled s)
    (hempty : s.created = true → s.isOpen = false → s.connects.head? = some true →
      s.wBuf = [] ∧ s.rBuf = []) :
    Settled (thriftlink_client.ensure_connection s).2 ∧
      ((thriftlink_client.ensure_connection s).1 = .ok true →
        Ready (thriftlink_client.ensure_connection s).2) := by
  rcases thriftlink_client.ensure_connection_spec s with
    ⟨-, hrun⟩ | ⟨-, hopen, hrun⟩ | ⟨hcreated, hclosed, hspec⟩
  · rw [hrun]
    exact ⟨h, fun hr => by cases hr⟩
  · rw [hrun]
    exact ⟨h, fun _ => h.ready hopen⟩
  · exact ready_opened hspec h.clean hclosed (h.residue hcreated hclosed)
      (hempty hcreated hclosed)

/-- A call of which nothing was sent. -/
theorem settled_unsent {s : Link} (hopen : s.isOpen = true)
    (hclean : CleanConnections s.connections) (hready : Ready s) {q : Request} (hshort : q.Short)
    (hfits : q.encoding.length ≤ wBufSize) (hroom : room s.sends = 0) :
    Settled (q.call s).2 := by
  obtain ⟨⟨c, older, hcs, hwhole⟩, hwBuf, hdepth, hfresh⟩ := hready
  have hcan : ¬ q.Limited (s.issue q) := by
    rintro (hlong | hdeep)
    · exact hlong hshort
    · have hsame : (s.issue q).recursion_depth = 0 := hdepth
      rw [hsame] at hdeep
      exact absurd hdeep (by decide)
  obtain ⟨e, o, fs, t, -, hsend⟩ := send_none (s := s.issue q) hopen hcan hwBuf hfits hroom
  obtain ⟨left, hleft, hrBuf, hrFrom⟩ : ∃ left : Link, left =
      { s.issue q with sends := t, isOpen := o, faults := (s.issue q).faults ++ fs } ∧
      left.rBuf = s.rBuf ∧ left.rFrom = s.rFrom :=
    ⟨_, rfl, rfl, rfl⟩
  have hcall : q.call s =
      (.error e, if transportError (.error e : Except Stop q.Result) then left.fail else left) := by
    unfold Request.call Request.api
    rw [Action.bind_error hsend, ← hleft]
  have hconn₁ : left.connections = onNewest (Connection.after q [] [] false) s.connections := by
    rw [hleft]
    exact onNewest_congr (fun c => by simp [Connection.after]) _
  have hconn := recorded (.error e : Except Stop q.Result) left hconn₁
  obtain ⟨-, hw, hd, -, hf⟩ := fail_same (transportError (.error e : Except Stop q.Result)) left
  rw [hcs] at hclean hconn
  obtain ⟨⟨-, hcons⟩, holder⟩ := cleanConnections_cons.mp hclean
  have hfresh₁ : Fresh left := by
    unfold Fresh
    rw [hrBuf, hrFrom, hconn₁, onNewest_length]
    exact hfresh
  rw [hcall]
  refine ⟨?_, fun _ => ⟨⟨_, older, hconn, whole_after hwhole (Or.inr rfl) _ _⟩, ?_, ?_,
    hf hfresh₁⟩, fun _ _ => Or.inl ?_⟩
  · simp only
    rw [hconn]
    refine cleanConnections_cons.mpr ⟨⟨framed_after hwhole List.nil_prefix _ _, ?_⟩, holder⟩
    simp only [Connection.after, List.append_nil]
    exact hcons
  · rw [hw, hleft]
    exact hwBuf
  · rw [hd, hleft]
    exact hdepth
  · rw [hd, hleft]
    exact hdepth

/-- A call on a connection that is ready. A call that waits for ever leaves the connections
clean. -/
theorem settled_call {s : Link} (hopen : s.isOpen = true) (hclean : CleanConnections s.connections)
    (hready : Ready s) {q : Request} (hshort : q.Short)
    (hcloses : ∀ g, Fault.send g ∈ (q.call s).2.faults → TSocket.closes g = true ∨
      room s.sends = 0 ∧ q.encoding.length ≤ wBufSize) :
    CleanConnections (q.call s).2.connections ∧
      ((q.call s).1 ≠ .error .blocked → Settled (q.call s).2) := by
  have hunsent := settled_unsent hopen hclean hready hshort
  obtain ⟨⟨c, older, hcs, hwritten⟩, hwBuf, hdepth, hfresh⟩ := hready
  have hspec := call_spec hopen q
  generalize q.call s = out at hspec hcloses hunsent ⊢
  obtain ⟨r, s'⟩ := out
  simp only at hspec hcloses hunsent ⊢
  rw [hcs] at hclean
  obtain ⟨⟨-, hcons⟩, holder⟩ := cleanConnections_cons.mp hclean
  cases hspec with
  | limited sent hlimit hopen' hno hconn =>
    rcases hlimit with hlong | hdeep
    · exact absurd hshort hlong
    · rw [hdepth] at hdeep
      exact absurd hdeep (by decide)
  | unsent e o fs sent hr hstop hopen' hfaults hsent hres hconn =>
    rw [hwBuf, List.nil_append] at hsent
    have hclean' : CleanConnections s'.connections := by
      rw [hconn, hcs]
      refine cleanConnections_cons.mpr ⟨⟨framed_after hwritten hsent _ _, ?_⟩, holder⟩
      simp only [Connection.after, List.append_nil]
      exact hcons
    refine ⟨hclean', fun hends => ⟨hclean', fun ho => ?_, fun _ _ => ?_⟩⟩
    · cases hstop with
      | blocked => exact absurd hr hends
      | failed f =>
        rcases hcloses f (by
          rw [hfaults]
          exact List.mem_append_right _ (List.mem_singleton_self _)) with hf | ⟨hroom, hfits⟩
        · rw [hopen', hf] at ho
          cases ho
        · exact (hunsent hfits hroom).ready ho
    · rcases hres with hsame | hleft
      · exact Or.inl (hsame.trans hdepth)
      · exact Or.inr (hleft (by rw [hwBuf]; exact Nat.zero_le _))
  | sent ns hopen' hwBuf' hdepth' hfresh' hnoted hconn =>
    obtain ⟨hfr, hns⟩ := hfresh' hfresh
    rw [hwBuf, List.nil_append] at hconn
    have hclean' : CleanConnections s'.connections := by
      rw [hconn, hcs]
      refine cleanConnections_cons.mpr
        ⟨⟨framed_after hwritten (List.prefix_refl _) _ _, ?_⟩, holder⟩
      intro n hn
      rcases List.mem_append.mp hn with hn | hn
      · exact hcons n hn
      · rw [hns n hn, hcs, List.length_cons]
    refine ⟨hclean', fun _ => ⟨hclean', fun _ => ?_, fun _ hclosed => ?_⟩⟩
    · exact ⟨⟨_, older, by rw [hconn, hcs]; rfl, whole_after hwritten (Or.inl rfl) _ _⟩, hwBuf',
        hdepth'.trans hdepth, hfr⟩
    · rw [hopen'] at hclosed
      cases hclosed

/-- The state between two commands of a run, or behind a command that waits for ever. -/
def CleanState (C : ClientState) : Prop :=
  CleanConnections C.link.connections ∧ (C.waiting = false → Settled C.link)

theorem CleanState.of_settled {C : ClientState} (h : Settled C.link) : CleanState C :=
  ⟨h.clean, fun _ => h⟩

theorem clean_step {C C' : ClientState} {rec : ClientRecord} (h : CleanState C)
    (hnoClose : rec.command ≠ .thrift_close) (hrec : rec.KeepsClean) (step : ClientStep C rec C') :
    CleanState C' := by
  have hsettled : Settled C.link.start := by
    obtain ⟨hclean, hready, hres⟩ := h.2 step.ready
    refine ⟨hclean, fun hopen => ?_, hres⟩
    obtain ⟨hnew, hwBuf, hdepth, hfresh⟩ := hready hopen
    exact ⟨hnew, hwBuf, hdepth, hfresh⟩
  have haction := step.action
  have hempty : rec.command ≠ .thrift_connect → C.link.start.created = true →
      C.link.start.isOpen = false → C.link.start.connects.head? = some true →
      C.link.start.wBuf = [] ∧ C.link.start.rBuf = [] := by
    have hreopens := hrec.reopens
    rw [step.before] at hreopens
    exact hreopens
  cases hcmd : rec.command with
  | thrift_close => exact absurd hcmd hnoClose
  | thrift_connect =>
    have hconn := settled_connect C.link.start hsettled.clean
    rw [hcmd] at haction
    simp only [Command.action] at haction
    rw [haction] at hconn
    exact .of_settled hconn
  | ensure_connection =>
    have hens := (settled_ensure hsettled (hempty (by rw [hcmd]; simp))).1
    rw [hcmd] at haction
    simp only [Command.action] at haction
    rw [haction] at hens
    exact .of_settled hens
  | forward q =>
    obtain ⟨hens, hready⟩ := settled_ensure hsettled (hempty (by rw [hcmd]; simp))
    rw [hcmd] at haction
    rcases forward_action q C.link.start with ⟨s', hrun, hact⟩ | ⟨s₁, hrun, hopen, hact⟩
    · rw [hact] at haction
      obtain ⟨-, hs⟩ := Prod.mk.inj haction
      rw [hrun, hs] at hens
      exact .of_settled hens
    · rw [hrun] at hens hready
      rw [hact] at haction
      obtain ⟨hr, hs⟩ := Prod.mk.inj haction
      have hcall := settled_call hopen hens.clean (hready rfl) (hrec.short q hcmd) (by
        intro g hg
        rw [hs, ← step.faults] at hg
        have hsends : s₁.sends = rec.before.sends := by
          have hsame := ensure_connection_sends C.link.start
          rw [hrun] at hsame
          rw [hsame, step.before]
          rfl
        rw [hsends]
        exact (hrec.closes g hg).imp_right fun h => ⟨h.1, h.2 q hcmd⟩)
      rw [hs] at hcall
      refine ⟨hcall.1, fun hgo => hcall.2 fun hblocked => ?_⟩
      have hhangs : rec.Hangs := by
        unfold ClientRecord.Hangs
        rw [← hr, hblocked]
        rfl
      rw [step.waiting.mpr hhangs] at hgo
      cases hgo

/-! ## Runs -/

/-- In a run in which every connection is opened with empty buffers and every failing `send`
closes the socket or has left nothing, each connection gets complete requests of its own, and its
calls read replies of its own. -/
theorem a_connection_opened_with_empty_buffers_stays_clean {C C' : ClientState}
    {recs : List ClientRecord} (hunused : C.link.Unused) (run : Run ClientStep C recs C')
    (hcalls : ∀ rec ∈ recs, rec.command ≠ .thrift_close)
    (hclean : ∀ rec ∈ recs, rec.KeepsClean) : CleanConnections C'.link.connections := by
  obtain ⟨hcreated, hclosed, hnone⟩ := hunused
  have hstart : CleanState C := by
    refine .of_settled ⟨?_, fun hopen => ?_, fun hc => ?_⟩
    · rw [hnone]
      intro c older hs
      cases List.suffix_nil.mp hs
    · rw [hclosed] at hopen
      cases hopen
    · rw [hcreated] at hc
      cases hc
  have hend := run.history (J := fun _ U => CleanState U)
    (Q := fun _ rec => rec.command ≠ .thrift_close ∧ rec.KeepsClean) hstart
    (fun _ U rec U' hU hrec hstep => clean_step hU hrec.1 hrec.2 hstep)
    (along_of_forall fun rec hr => ⟨hcalls rec hr, hclean rec hr⟩)
  exact hend.1

/-! ### A print job over two connections -/

/-- The first call is cut off by a reset, and the second one opens a new connection. -/
def ClientState.twoCallRecords (C : ClientState) (q q' : Request) : List ClientRecord :=
  [C.record .thrift_connect, (C.next .thrift_connect).record (.forward q),
    ((C.next .thrift_connect).next (.forward q)).record (.forward q')]

def ClientState.afterTwoCalls (C : ClientState) (q q' : Request) : ClientState :=
  ((C.next .thrift_connect).next (.forward q)).next (.forward q')

theorem twoCalls_run {C : ClientState} {q q' : Request} (hready : C.waiting = false)
    (hnext : (C.next .thrift_connect).waiting = false)
    (hnext' : ((C.next .thrift_connect).next (.forward q)).waiting = false) :
    Run ClientStep C (C.twoCallRecords q q') (C.afterTwoCalls q q') :=
  .cons (clientStep_next hready _) (.cons (clientStep_next hnext _)
    (.cons (clientStep_next hnext' _) (.nil _)))

/-- The network resets the first connection at the first `send`. The second one takes a
request. -/
def resetOnce : ClientState where
  link := { connects := [true, true], sends := [.fails (.error WSAECONNRESET), .took 1023] }

/-- A page that does not fit the write buffer. -/
def longWrite : Request := .spool (.WritePrinter 1 (List.replicate 500 0) 500)

def shortCall : Request := .spool (.EndPagePrinter 1)

/-- What is left of a request in the write buffer goes to the next connection. -/
theorem a_reopened_connection_can_start_with_old_bytes :
    ¬ ∀ (C C' : ClientState) (recs : List ClientRecord), C.link.Unused →
      Run ClientStep C recs C' → (∀ rec ∈ recs, rec.command ≠ .thrift_close) →
      CleanConnections C'.link.connections := by
  intro law
  have hrun : Run ClientStep resetOnce (resetOnce.twoCallRecords longWrite shortCall)
      (resetOnce.afterTwoCalls longWrite shortCall) := by
    refine twoCalls_run rfl rfl ?_
    decide +kernel
  have hclean := law _ _ _ ⟨rfl, rfl, rfl⟩ hrun
    (by simp [ClientState.twoCallRecords, ClientState.record])
  have hlong : ((resetOnce.afterTwoCalls longWrite shortCall).link.connections.head?.map
      fun c => decide (c.written.length ≤ 2 * c.requests.flatten.length)) = some false := by
    decide +kernel
  cases hcs : (resetOnce.afterTwoCalls longWrite shortCall).link.connections with
  | nil =>
    rw [hcs] at hlong
    cases hlong
  | cons c older =>
    rw [hcs] at hclean hlong
    have hle := (hclean c older (List.suffix_refl _)).1.length_le
    simp only [List.head?_cons, Option.map_some, Option.some.injEq,
      decide_eq_false_iff_not] at hlong
    exact hlong hle

theorem shortCall_short : shortCall.Short := by
  intro str hstr
  simp [shortCall, Request.args] at hstr

theorem shortCalls_keepClean :
    ∀ rec ∈ resetOnce.twoCallRecords shortCall shortCall, rec.KeepsClean := by
  have hfaults : ∀ rec ∈ resetOnce.twoCallRecords shortCall shortCall, ∀ g,
      Fault.send g ∈ rec.faults → TSocket.closes g = true := by
    have hall : (resetOnce.twoCallRecords shortCall shortCall).all (fun rec =>
        rec.faults.all fun f => f = .send (.error WSAECONNRESET)) = true := by
      decide +kernel
    intro rec hrec g hg
    have hf := List.all_eq_true.mp (List.all_eq_true.mp hall rec hrec) _ hg
    simp only [decide_eq_true_eq, Fault.send.injEq] at hf
    rw [hf]
    rfl
  have hbuffers : ∀ rec ∈ resetOnce.twoCallRecords shortCall shortCall,
      rec.before.wBuf = [] ∧ rec.before.rBuf = [] := by
    have hall : (resetOnce.twoCallRecords shortCall shortCall).all (fun rec =>
        rec.before.wBuf = [] ∧ rec.before.rBuf = []) = true := by
      decide +kernel
    intro rec hrec
    exact of_decide_eq_true (List.all_eq_true.mp hall rec hrec)
  intro rec hrec
  refine ⟨fun q hq => ?_, fun _ _ _ _ => hbuffers rec hrec,
    fun g hg => Or.inl (hfaults rec hrec g hg)⟩
  simp only [ClientState.twoCallRecords, List.mem_cons, List.not_mem_nil, or_false] at hrec
  rcases hrec with rfl | rfl | rfl
  · cases hq
  · cases hq
    exact shortCall_short
  · cases hq
    exact shortCall_short

theorem a_reset_in_a_flush_leaves_the_next_connection_clean :
    CleanConnections (resetOnce.afterTwoCalls shortCall shortCall).link.connections :=
  a_connection_opened_with_empty_buffers_stays_clean ⟨rfl, rfl, rfl⟩
    (twoCalls_run rfl rfl (by decide +kernel))
    (by simp [ClientState.twoCallRecords, ClientState.record]) shortCalls_keepClean

end RemotePrinter
