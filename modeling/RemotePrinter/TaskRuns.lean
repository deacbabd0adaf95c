-- The thread of a connection over its transport. The protocol's readings take
-- the messages out of the stream of the connection, however the network cuts
-- it, and its writings put the replies behind what was sent before.
import RemotePrinter.CleanConnections
import RemotePrinter.Processor

open Interactive

namespace RemotePrinter

open TBinaryProtocol

/-! ## The transports of the server -/

namespace TBufferedTransport

/-- `rBound_ > rBase_`. -/
def buffered : Action Bool := fun s => (.ok (decide (s.rBuf ≠ [])), s)

/-- `peek()`: an empty read buffer is filled. -/
def peek : Action Bool := fun s =>
  if s.rBuf = [] then
    (do
      setReadBuffer (← TSocket.read rBufSize)
      buffered : Action Bool) s
  else buffered s

end TBufferedTransport

/-- The input transport writes nothing, so that its buffer is empty when it is closed. -/
def closeInputTransport : Action Unit := TSocket.close

/-- How the operations of a task are carried out: the transports of the connection, and a handler
that may answer as `handler` says. -/
def taskEnv {σ : Type}
    (handler : σ → (q : ApiForwardRequest) → Except HandlerAbort q.Result → σ → Prop) :
    Env TaskOp TaskOp.Answer Unit (Link × σ)
  | (s, w), .readAll len, a, _, (s', w') => TBufferedTransport.readAll len s = (a, s') ∧ w' = w
  | (s, w), .peek, a, _, (s', w') => TBufferedTransport.peek s = (a, s') ∧ w' = w
  | (s, w), .write buf, a, _, (s', w') => TBufferedTransport.write buf s = (a, s') ∧ w' = w
  | (s, w), .flush, a, _, (s', w') => TBufferedTransport.flush s = (a, s') ∧ w' = w
  | (s, w), .closeInput, a, _, (s', w') => closeInputTransport s = (a, s') ∧ w' = w
  | (s, w), .closeOutput, a, _, (s', w') => TBufferedTransport.close s = (a, s') ∧ w' = w
  | (s, w), .call q, a, _, (s', w') => handler w q a w' ∧ s' = s

/-- A call of a method and how it came back. -/
abbrev HandlerCall := Σ q : ApiForwardRequest, Except HandlerAbort q.Result

/-- The calls of the handler in a trace. -/
def calls (tr : List (Obs TaskOp TaskOp.Answer Unit)) : List HandlerCall :=
  tr.filterMap fun
    | ⟨.call q, r, _⟩ => some ⟨q, r⟩
    | _ => none

@[simp] theorem calls_nil : calls [] = [] := rfl

@[simp] theorem calls_append (tr tr' : List (Obs TaskOp TaskOp.Answer Unit)) :
    calls (tr ++ tr') = calls tr ++ calls tr' := List.filterMap_append

@[simp] theorem calls_readAll (len : Nat) (a : Except Stop Bytes)
    (tr : List (Obs TaskOp TaskOp.Answer Unit)) : calls (⟨.readAll len, a, ()⟩ :: tr) = calls tr :=
  rfl

@[simp] theorem calls_write (buf : Bytes) (a : Except Stop Unit)
    (tr : List (Obs TaskOp TaskOp.Answer Unit)) : calls (⟨.write buf, a, ()⟩ :: tr) = calls tr :=
  rfl

/-! ## Peeking -/

/-- There is a byte of the stream, or there is none. -/
inductive Peeked (s : Link) : Except Stop Bool → Link → Prop
  | some (s' : Link) (hne : s.stream ≠ []) (hstream : s'.stream = s.stream) (hrec : Received s s') :
      Peeked s (.ok true) s'
  | none (s' : Link) (hnone : s.stream = []) (hrec : Received s s') : Peeked s (.ok false) s'
  | failed (e : Stop) (s' : Link) (hnone : s.stream = []) (hrec : Received s s') :
      Peeked s (.error e) s'

theorem peek_spec {s : Link} (hopen : s.isOpen = true) :
    Peeked s (TBufferedTransport.peek s).1 (TBufferedTransport.peek s).2 := by
  unfold TBufferedTransport.peek
  by_cases hnil : s.rBuf = []
  · rw [if_pos hnil, Action.bind_run]
    have hsock := socket_read_spec hopen (n := rBufSize) (by simp [rBufSize])
    have hview : s.stream = incoming TSocket.maxRecvRetries s.recvs := by
      unfold Link.stream
      rw [hnil, List.nil_append]
    rw [← hview] at hsock
    generalize TSocket.read rBufSize s = out at hsock ⊢
    obtain ⟨r, s₁⟩ := out
    cases hsock with
    | got b t hne hle hpending =>
      have hset : TBufferedTransport.setReadBuffer b { s with recvs := t } =
        (.ok (), { s with recvs := t, rBuf := b, rFrom := s.connections.length }) := rfl
      have hrec : Received s { s with recvs := t, rBuf := b, rFrom := s.connections.length } :=
        ⟨rfl, rfl, rfl, rfl, [], (consumed_nil _).symm, fun _ => ⟨fun _ => rfl, by simp⟩⟩
      have hstream : s.stream ≠ [] := by
        rw [hpending]
        simp [hne]
      simp only
      rw [Action.bind_ok hset]
      unfold TBufferedTransport.buffered
      rw [decide_eq_true hne]
      exact .some _ hstream hpending.symm hrec
    | ended t fs hnone hnoted =>
      have hset : TBufferedTransport.setReadBuffer []
          { s with recvs := t, faults := s.faults ++ fs } =
        (.ok (), { s with recvs := t, faults := s.faults ++ fs, rBuf := [],
                          rFrom := s.connections.length }) := rfl
      have hrec := (received_of_recvs s t fs).trans (setReadBuffer_received [] _)
      simp only
      rw [Action.bind_ok hset]
      exact .none _ hnone hrec
    | failed e t fs hnone hfails => exact .failed e _ hnone (received_of_recvs s t fs)
  · rw [if_neg hnil]
    unfold TBufferedTransport.buffered
    rw [decide_eq_true hnil]
    refine .some s ?_ rfl (Received.refl s)
    unfold Link.stream
    simp [hnil]

/-! ## The output -/

/-- What the network took of the newest connection. -/
def Link.sent (s : Link) : Bytes := (s.connections.head?.map Connection.written).getD []

/-- What was written to the newest connection. The write buffer has the end of it. -/
def Link.output (s : Link) : Bytes := s.sent ++ s.wBuf

/-- What the network will have taken of the newest connection before it fails. -/
def Link.capacity (s : Link) : Nat := s.sent.length + room s.sends

/-- The socket is open, and it is one of a connection. -/
structure Attached (s : Link) : Prop where
  isOpen : s.isOpen = true
  connected : s.connections ≠ []

/-- A part of `b` is sent, behind what was written before. -/
structure SentPart (s : Link) (b : Bytes) (s' : Link) : Prop where
  connected : s'.connections ≠ []
  before : s.sent <+: s'.sent
  sent : s'.sent <+: s.output ++ b

/-- All of `b` is in the output. -/
structure Output (s : Link) (b : Bytes) (s' : Link) : Prop where
  attached : Attached s'
  before : s.sent <+: s'.sent
  output : s'.output = s.output ++ b
  stream : s'.stream = s.stream
  capacity : s'.capacity = s.capacity

/-- The writings of `b` come to their end, or the writer stops by itself if `l` holds, or the
network does not take all. -/
inductive Outputs (s : Link) (b : Bytes) (l : Prop) : Except Stop Unit → Link → Prop
  | ok (s' : Link) (hfull : ¬ l) (hall : Output s b s') : Outputs s b l (.ok ()) s'
  | error (e : Stop) (s' : Link) (hpart : SentPart s b s')
      (hwhy : l ∨ s.capacity < (s.output ++ b).length) : Outputs s b l (.error e) s'

theorem wrote_sent {b : Bytes} {cs : List Connection} (hne : cs ≠ []) :
    ((wrote b cs).head?.map Connection.written).getD [] =
      (cs.head?.map Connection.written).getD [] ++ b := by
  cases cs with
  | nil => exact absurd rfl hne
  | cons c cs => rfl

theorem onNewest_ne_nil {f : Connection → Connection} {cs : List Connection} (hne : cs ≠ []) :
    onNewest f cs ≠ [] := by
  cases cs with
  | nil => exact absurd rfl hne
  | cons c cs => exact List.cons_ne_nil _ _

theorem BufferedWrite.outputs {s s' : Link} {b : Bytes} {k : BitVec 32 → Bytes → Prop}
    {r : Except Stop Unit} (hatt : Attached s) (h : BufferedWrite s b False k r s') :
    Outputs s b False r s' := by
  have hne := hatt.connected
  cases h with
  | ok t sent left hfull hsplit hroom =>
    have hsent := wrote_sent (b := sent) hne
    refine .ok _ hfull ⟨⟨hatt.isOpen, onNewest_ne_nil hne⟩, ⟨sent, hsent.symm⟩, ?_, rfl, ?_⟩
    · unfold Link.output Link.sent
      simp only
      rw [hsent, List.append_assoc, hsplit, List.append_assoc]
    · unfold Link.capacity Link.sent
      simp only
      rw [hsent, hroom, List.length_append]
      omega
  | limit x d t sent left hlimit => exact hlimit.elim
  | stop e o fs d t sent left hstop hsent hroom hkept =>
    have hsum := wrote_sent (b := sent) hne
    refine .error e _ ⟨onNewest_ne_nil hne, ⟨sent, hsum.symm⟩, ?_⟩ (Or.inr ?_)
    · unfold Link.output Link.sent
      simp only
      rw [hsum, List.append_assoc]
      exact (List.prefix_append_right_inj _).mpr hsent
    · unfold Link.capacity Link.output
      rw [List.append_assoc, List.length_append]
      omega

theorem Outputs.mono {s s' : Link} {b : Bytes} {l m : Prop} {r : Except Stop Unit}
    (h : Outputs s b l r s') (hlm : l ↔ m) : Outputs s b m r s' := by
  cases h with
  | ok _ hfull hall => exact .ok _ (fun hm => hfull (hlm.mpr hm)) hall
  | error e _ hpart hwhy => exact .error e _ hpart (hwhy.imp_left hlm.mp)

theorem Outputs.seq {s : Link} {x y : Action Unit} {b c : Bytes} {l : Prop}
    (hx : Outputs s b False (x s).1 (x s).2)
    (hy : ∀ s₁, Attached s₁ → Outputs s₁ c l (y s₁).1 (y s₁).2) :
    Outputs s (b ++ c) l ((do x; y : Action Unit) s).1 ((do x; y : Action Unit) s).2 := by
  rw [Action.bind_run]
  cases hrun : x s with
  | mk r s₁ =>
    rw [hrun] at hx
    cases hx with
    | ok _ _ hall =>
      have hrest := hy s₁ hall.attached
      simp only
      generalize y s₁ = out at hrest ⊢
      obtain ⟨r, s₂⟩ := out
      have hsum : s₁.output ++ c = s.output ++ (b ++ c) := by
        rw [hall.output, List.append_assoc]
      cases hrest with
      | ok _ hfull hall' =>
        exact .ok _ hfull ⟨hall'.attached, hall.before.trans hall'.before, hall'.output.trans hsum,
          hall'.stream.trans hall.stream, hall'.capacity.trans hall.capacity⟩
      | error e _ hpart hwhy =>
        rw [hsum, hall.capacity] at hwhy
        exact .error e _ ⟨hpart.connected, hall.before.trans hpart.before, hsum ▸ hpart.sent⟩ hwhy
    | error e _ hpart hwhy =>
      have hlong : s.output ++ b <+: s.output ++ (b ++ c) := by
        rw [← List.append_assoc]
        exact List.prefix_append _ _
      refine .error e _ ⟨hpart.connected, hpart.before, hpart.sent.trans hlong⟩ (Or.inr ?_)
      exact Nat.lt_of_lt_of_le (hwhy.resolve_left not_false) hlong.length_le

theorem writePieces_outputs {s : Link} (hatt : Attached s) (ps : List Piece) :
    Outputs s (encoded ps) (Piece.SIZE_LIMIT ∈ ps) (writePieces ps s).1 (writePieces ps s).2 := by
  induction ps generalizing s with
  | nil => exact .ok s (by simp) ⟨hatt, List.prefix_refl _, (List.append_nil _).symm, rfl, rfl⟩
  | cons p ps ih =>
    cases p with
    | write b =>
      refine Outputs.mono (l := Piece.SIZE_LIMIT ∈ ps) ?_ (by simp)
      exact ((write_spec hatt.isOpen b).outputs hatt).seq fun s₁ hatt₁ => ih hatt₁
    | SIZE_LIMIT =>
      refine .error _ s ⟨hatt.connected, List.prefix_refl _, ?_⟩ (Or.inl List.mem_cons_self)
      exact (List.prefix_append s.sent s.wBuf).trans (List.prefix_append _ _)

/-! ### Readings do not touch it -/

/-- The scripts of the network for `send` are as before. -/
def KeepsSends {α : Type} (x : Action α) : Prop := ∀ s, (x s).2.sends = s.sends

theorem KeepsSends.bind {α β : Type} {x : Action α} {f : α → Action β} (hx : KeepsSends x)
    (hf : ∀ a, KeepsSends (f a)) : KeepsSends (x >>= f) := by
  intro s
  have hfirst := hx s
  rw [Action.bind_run]
  generalize x s = out at hfirst
  obtain ⟨r, s₁⟩ := out
  cases r with
  | ok a => exact (hf a s₁).trans hfirst
  | error e => exact hfirst

theorem keepsSends_recv (len : Nat) : KeepsSends (recv len) := by
  intro s
  unfold recv
  split <;> rfl

theorem keepsSends_readFailed (f : RecvFault) : KeepsSends (TSocket.readFailed f) := by
  unfold TSocket.readFailed
  refine .bind (fun _ => rfl) fun _ => ?_
  cases f with
  | closed => exact fun _ => rfl
  | error code =>
    simp only
    split_ifs <;> exact fun _ => rfl

theorem keepsSends_tryRead (len retries : Nat) : KeepsSends (TSocket.tryRead len retries) := by
  induction retries with
  | zero =>
    unfold TSocket.tryRead
    refine (keepsSends_recv len).bind fun r => ?_
    cases r with
    | ok b => exact fun _ => rfl
    | error f => exact keepsSends_readFailed f
  | succ retries ih =>
    unfold TSocket.tryRead
    refine (keepsSends_recv len).bind fun r => ?_
    cases r with
    | ok b => exact fun _ => rfl
    | error f =>
      simp only
      split_ifs
      · exact ih
      · exact keepsSends_readFailed f

theorem keepsSends_socketRead (len : Nat) : KeepsSends (TSocket.read len) := by
  intro s
  unfold TSocket.read
  split_ifs
  · rfl
  · exact keepsSends_tryRead len _ s

theorem keepsSends_read (len : Nat) : KeepsSends (TBufferedTransport.read len) := by
  intro s
  unfold TBufferedTransport.read TBufferedTransport.readSlow
  split_ifs
  · rfl
  · rfl
  · exact (keepsSends_socketRead rBufSize).bind (fun _ => .bind (fun _ => rfl) fun _ _ => rfl) s

theorem keepsSends_readLoop (fuel len : Nat) (got : Bytes) :
    KeepsSends (TBufferedTransport.readLoop fuel len got) := by
  induction fuel generalizing got with
  | zero => exact fun _ => rfl
  | succ fuel ih =>
    intro s
    unfold TBufferedTransport.readLoop
    split_ifs
    · refine KeepsSends.bind (keepsSends_read _) (fun get => ?_) s
      split_ifs
      · exact fun _ => rfl
      · exact ih _
    · rfl

theorem keepsSends_readAll (len : Nat) : KeepsSends (TBufferedTransport.readAll len) := by
  intro s
  unfold TBufferedTransport.readAll
  split_ifs
  · rfl
  · exact keepsSends_readLoop len len [] s

theorem keepsSends_peek : KeepsSends TBufferedTransport.peek := by
  intro s
  unfold TBufferedTransport.peek
  split_ifs
  · exact (keepsSends_socketRead rBufSize).bind (fun _ => .bind (fun _ => rfl) fun _ _ => rfl) s
  · rfl

/-- The output is as it was. -/
structure SameOutput (s s' : Link) : Prop where
  attached : Attached s → Attached s'
  sent : s'.sent = s.sent
  wBuf : s'.wBuf = s.wBuf
  capacity : s'.capacity = s.capacity

theorem SameOutput.refl (s : Link) : SameOutput s s := ⟨id, rfl, rfl, rfl⟩

theorem SameOutput.trans {s s' s'' : Link} (h : SameOutput s s') (h' : SameOutput s' s'') :
    SameOutput s s'' :=
  ⟨fun hatt => h'.attached (h.attached hatt), h'.sent.trans h.sent, h'.wBuf.trans h.wBuf,
    h'.capacity.trans h.capacity⟩

theorem Received.sameOutput {s s' : Link} (h : Received s s') (hsends : s'.sends = s.sends) :
    SameOutput s s' := by
  obtain ⟨ns, hc, -⟩ := h.connections
  have hsent : s'.sent = s.sent := by
    unfold Link.sent
    rw [hc]
    cases s.connections with
    | nil => rfl
    | cons c cs => rfl
  refine ⟨fun hatt => ⟨h.isOpen.trans hatt.isOpen, ?_⟩, hsent, h.wBuf, ?_⟩
  · rw [hc]
    exact onNewest_ne_nil hatt.connected
  · unfold Link.capacity
    rw [hsent, hsends]

/-! ## Readings and writings -/

section
variable {σ : Type}
  {handler : σ → (q : ApiForwardRequest) → Except HandlerAbort q.Result → σ → Prop}

/-- How a reading of the task ends: with what the bytes of the stream are read as, or not, if they
are not. -/
inductive IprotEnds {α : Type} (d : Decoder α) (s s' : Link) : Except Outage α → Prop
  | ok (a : α) (hread : d.reads s.stream = .done a s'.stream) : IprotEnds d s s' (.ok a)
  | error (x : Outage) (hnot : ∀ a rest, d.reads s.stream ≠ .done a rest)
      (haborted : ∀ e, x ≠ .aborted e)
      (hfinished : x = .unfinished → ∃ rest, d.reads s.stream = .failed .unfinished rest) :
      IprotEnds d s s' (.error x)

theorem iprot_runs {α : Type} {d : Decoder α} {s s' : Link} {w w' : σ}
    {tr : List (Obs TaskOp TaskOp.Answer Unit)} {r : Except Outage α} (hopen : s.isOpen = true)
    (h : (iprot d).RunsIn (taskEnv handler) (s, w) tr r (s', w')) :
    IprotEnds d s s' r ∧ SameOutput s s' ∧ calls tr = [] ∧ w' = w := by
  induction d generalizing s tr with
  | done a =>
    obtain ⟨rfl, rfl, hs⟩ := h
    cases hs
    exact ⟨.ok a rfl, .refl _, rfl, rfl⟩
  | fail x =>
    obtain ⟨rfl, rfl, hs⟩ := h
    cases hs
    refine ⟨.error _ ?_ ?_ ?_, .refl _, rfl, rfl⟩
    · intro a rest hread
      cases hread
    · intro e
      cases x <;> simp [ReadFault.outage]
    · intro hx
      cases x with
      | unfinished => exact ⟨_, rfl⟩
      | TProtocolException type => cases hx
      | TApplicationException type => cases hx
  | call n k ih =>
    rw [iprot_call] at h
    obtain ⟨a, l, ⟨s₁, w₁⟩, tr', henv, rfl, hrest⟩ := h
    obtain ⟨hget, rfl⟩ := henv
    have hall := readAll_spec hopen n
    have hkeeps := keepsSends_readAll n s
    rw [hget] at hall hkeeps
    cases hall with
    | done _ hlen hstream hrec =>
      obtain ⟨hends, hsame, hcalls, rfl⟩ := ih _ (hrec.isOpen.trans hopen) hrest
      have hreads : (Prog.call n k : Decoder α).reads s.stream =
          (k ([] ++ s.stream.take n)).reads s₁.stream := by
        rw [Prog.reads_call, if_pos hlen, hstream, List.nil_append]
      refine ⟨?_, (hrec.sameOutput hkeeps).trans hsame, hcalls, rfl⟩
      cases hends with
      | ok a hread => exact .ok a (hreads.trans hread)
      | error x hnot haborted hfinished =>
        refine .error x ?_ haborted ?_
        · rw [hreads]
          exact hnot
        · rw [hreads]
          exact hfinished
    | failed e _ hlen hrec hfails =>
      obtain ⟨rfl, rfl, hs⟩ := hrest
      cases hs
      refine ⟨.error _ ?_ (by simp) (by simp), hrec.sameOutput hkeeps, rfl, rfl⟩
      intro a rest hread
      rw [Prog.reads_call, if_neg (by omega)] at hread
      cases hread

/-- The writings of the task are those of the protocol over the transport. -/
theorem oprot_runs {ps : List Piece} {s s' : Link} {w w' : σ}
    {tr : List (Obs TaskOp TaskOp.Answer Unit)} {r : Except Outage Unit}
    (h : (oprot ps).RunsIn (taskEnv handler) (s, w) tr r (s', w')) :
    ∃ r', writePieces ps s = (r', s') ∧ r = r'.mapError .stopped ∧ calls tr = [] ∧ w' = w := by
  induction ps generalizing s tr with
  | nil =>
    obtain ⟨rfl, rfl, hs⟩ := h
    cases hs
    exact ⟨.ok (), rfl, rfl, rfl, rfl⟩
  | cons p ps ih =>
    cases p with
    | SIZE_LIMIT =>
      obtain ⟨rfl, rfl, hs⟩ := h
      cases hs
      exact ⟨_, rfl, rfl, rfl, rfl⟩
    | write b =>
      obtain ⟨a, l, ⟨s₁, w₁⟩, tr', ⟨hput, rfl⟩, rfl, hrest⟩ := h
      cases a with
      | ok u =>
        obtain ⟨r', hrun, hr, hcalls, rfl⟩ := ih hrest
        exact ⟨r', (Action.bind_ok hput).trans hrun, hr, hcalls, rfl⟩
      | error e =>
        obtain ⟨rfl, rfl, hs⟩ := hrest
        cases hs
        exact ⟨.error e, Action.bind_error hput, rfl, rfl, rfl⟩

end

end RemotePrinter
