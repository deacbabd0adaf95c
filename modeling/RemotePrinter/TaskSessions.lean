-- A whole connection of the server. Its messages are taken from the stream in
-- order, up to one whose reply cannot be sent, and what the network takes is a
-- first part of the replies in the same order.
import RemotePrinter.RoundTrips
import RemotePrinter.TaskRuns

open Interactive

namespace RemotePrinter

open TBinaryProtocol SelfServiceProcessor

/-! ## Messages and exchanges -/

/-- The messages that the thread can take from a stream, up to one that is not a call. -/
def messages (fuel rounds : Nat) (stream : Bytes) : List Message :=
  (readMessage fuel).readsWhile Message.isCall rounds stream

/-- A message that was taken, and how its handler came back if it was called. -/
inductive Exchange where
  | call (q : ApiForwardRequest) (seqid : I32) (r : Except HandlerAbort q.Result)
  | unknown (fname : Bytes) (seqid : I32)

namespace Exchange

def message : Exchange → Message
  | call q seqid _ => .call q seqid
  | unknown fname seqid => .unknown fname seqid

def handled : Exchange → List HandlerCall
  | call q _ r => [⟨q, r⟩]
  | unknown .. => []

def reply (what : Bytes) : Exchange → List Piece
  | call q seqid (.ok success) => replyWrite q success seqid
  | call q seqid (.error .length_error) =>
    exceptionWrite (SelfService.name q.proc) UNKNOWN what seqid
  | call _ _ (.error _) => []
  | unknown fname seqid =>
    exceptionWrite fname UNKNOWN_METHOD (invalidMethodName fname) seqid

/-- The handler ends the server. -/
def Aborts (x : Exchange) : Prop :=
  ∃ q seqid a, x = .call q seqid (.error a) ∧ a ≠ .length_error

/-- There is no reply: the handler ends the server, or the reply is too long. -/
def Unanswerable (what : Bytes) (x : Exchange) : Prop :=
  x.Aborts ∨ Piece.SIZE_LIMIT ∈ x.reply what

end Exchange

/-- The replies of the exchanges, one behind the other. -/
def replies (what : Bytes) (xs : List Exchange) : Bytes :=
  xs.flatMap fun x => encoded (x.reply what)

theorem Exchange.isCall (x : Exchange) : x.message.isCall = true := by
  cases x <;> rfl

theorem messages_done {fuel : Nat} {x : Exchange} {stream rest : Bytes}
    (h : (readMessage fuel).reads stream = .done x.message rest) (rounds : Nat) :
    messages fuel (rounds + 1) stream = x.message :: messages fuel rounds rest :=
  Prog.readsWhile_done h x.isCall rounds

theorem messages_notCall {fuel : Nat} {stream rest : Bytes}
    (h : (readMessage fuel).reads stream = .done .notCall rest) (rounds : Nat) :
    messages fuel rounds stream = [] := by
  refine Prog.readsWhile_ended (fun m rest' hm => ?_) rounds
  rw [h] at hm
  cases hm
  rfl

theorem messages_unread {fuel : Nat} {stream : Bytes}
    (h : ∀ m rest, (readMessage fuel).reads stream ≠ .done m rest) (rounds : Nat) :
    messages fuel rounds stream = [] :=
  Prog.readsWhile_ended (fun m rest hm => absurd hm (h m rest)) rounds

theorem readMessage_nil (fuel : Nat) : (readMessage fuel).reads [] = .short := rfl

theorem messages_nil (fuel rounds : Nat) : messages fuel rounds [] = [] := by
  refine messages_unread (fun m rest h => ?_) rounds
  rw [readMessage_nil] at h
  cases h

section
variable {σ : Type}
  {handler : σ → (q : ApiForwardRequest) → Except HandlerAbort q.Result → σ → Prop}

/-! ## A reply -/

/-- A reply was sent, or the network or the protocol stopped it. -/
inductive ReplyEnds (s : Link) (ps : List Piece) : Except Outage Bool → Link → Prop
  | sent (s' : Link) (hfull : Piece.SIZE_LIMIT ∉ ps) (hatt : Attached s') (hwBuf : s'.wBuf = [])
      (hsent : s'.sent = s.sent ++ encoded ps) (hstream : s'.stream = s.stream)
      (hcap : s'.capacity = s.capacity) : ReplyEnds s ps (.ok true) s'
  | broken (e : Stop) (s' : Link) (hpart : SentPart s (encoded ps) s')
      (hwhy : Piece.SIZE_LIMIT ∈ ps ∨ s.capacity < (s.output ++ encoded ps).length) :
      ReplyEnds s ps (.error (.stopped e)) s'

theorem sendReply_runs {ps : List Piece} {s s' : Link} {w w' : σ}
    {tr : List (Obs TaskOp TaskOp.Answer Unit)} {r : Except Outage Bool} (hatt : Attached s)
    (hempty : s.wBuf = []) (h : (sendReply ps).RunsIn (taskEnv handler) (s, w) tr r (s', w')) :
    ReplyEnds s ps r s' ∧ calls tr = [] ∧ w' = w := by
  have hpieces := writePieces_outputs hatt ps
  rcases h.of_bind with ⟨x, hwrite, rfl⟩ | ⟨_, tr₁, tr₂, ⟨s₁, w₁⟩, hwrite, rfl, hrest⟩
  · obtain ⟨r', hrun, hr, hcalls, rfl⟩ := oprot_runs hwrite
    rw [hrun] at hpieces
    cases hpieces with
    | ok _ _ hall => cases hr
    | error e _ hpart hwhy =>
      cases hr
      exact ⟨.broken e s' hpart hwhy, hcalls, rfl⟩
  · obtain ⟨r', hrun, hr, hcalls, rfl⟩ := oprot_runs hwrite
    rw [hrun] at hpieces
    cases hpieces with
    | error e _ hpart hwhy => cases hr
    | ok _ hfull hall =>
      have hflush := flush_spec hall.attached.isOpen
      have hends := hflush.1.outputs hall.attached
      obtain ⟨a, l, ⟨s₂, w₂⟩, tr₃, ⟨hact, rfl⟩, rfl, hlast⟩ := hrest
      rw [hact] at hends hflush
      have hcalls₃ (u : Except Stop Unit) (t : List (Obs TaskOp TaskOp.Answer Unit)) :
          calls (tr₁ ++ ⟨.flush, u, l⟩ :: t) = calls t := by
        rw [calls_append, hcalls]
        rfl
      cases hends with
      | ok _ _ hsent =>
        obtain ⟨rfl, rfl, hs⟩ := hlast
        cases hs
        refine ⟨.sent s' hfull hsent.attached hflush.2 ?_ (hsent.stream.trans hall.stream)
          (hsent.capacity.trans hall.capacity), hcalls₃ _ _, rfl⟩
        have hout := hsent.output
        unfold Link.output at hout
        rw [hflush.2, List.append_nil, List.append_nil] at hout
        have hbefore := hall.output
        unfold Link.output at hbefore
        rw [hout, hbefore, hempty, List.append_nil]
      | error e _ hpart hwhy =>
        obtain ⟨rfl, rfl, hs⟩ := hlast
        cases hs
        refine ⟨.broken e s' ⟨hpart.connected, hall.before.trans hpart.before, ?_⟩ (Or.inr ?_),
          hcalls₃ _ _, rfl⟩
        · have hpre := hpart.sent
          rw [hall.output, List.append_nil] at hpre
          exact hpre
        · have hlong := hwhy.resolve_left not_false
          rw [hall.capacity, hall.output, List.append_nil] at hlong
          exact hlong

/-! ## One message -/

/-- How `process` ends: the message was answered, or it is not a call, or there is none, or its
answer does not come to the client. -/
inductive ProcessEnds (what : Bytes) (fuel : Nat) (s : Link) :
    Except Outage Bool → List HandlerCall → Link → Prop
  | answered (x : Exchange) (s' : Link) (hcan : ¬ x.Unanswerable what)
      (hread : (readMessage fuel).reads s.stream = .done x.message s'.stream)
      (hatt : Attached s') (hwBuf : s'.wBuf = [])
      (hsent : s'.sent = s.sent ++ encoded (x.reply what)) (hcap : s'.capacity = s.capacity) :
      ProcessEnds what fuel s (.ok true) x.handled s'
  | notCall (rest : Bytes) (s' : Link) (hread : (readMessage fuel).reads s.stream =
      .done .notCall rest) (hsame : SameOutput s s') : ProcessEnds what fuel s (.ok false) [] s'
  | unread (o : Outage) (s' : Link) (hsame : SameOutput s s')
      (hnot : ∀ m rest, (readMessage fuel).reads s.stream ≠ .done m rest)
      (hfinished : o = .unfinished → ∃ rest,
        (readMessage fuel).reads s.stream = .failed .unfinished rest) :
      ProcessEnds what fuel s (.error o) [] s'
  | broken (o : Outage) (x : Exchange) (rest : Bytes) (s' : Link)
      (hread : (readMessage fuel).reads s.stream = .done x.message rest)
      (hpart : SentPart s (encoded (x.reply what)) s')
      (hwhy : x.Unanswerable what ∨ s.capacity < (s.sent ++ encoded (x.reply what)).length)
      (hfinished : o ≠ .unfinished) : ProcessEnds what fuel s (.error o) x.handled s'

/-- What a reply ends with, for a message that was read before. -/
theorem ReplyEnds.process {what : Bytes} {fuel : Nat} {s s₁ s' : Link} {x : Exchange}
    {r : Except Outage Bool} (hread : (readMessage fuel).reads s.stream = .done x.message s₁.stream)
    (hreturns : ¬ x.Aborts) (hsame : SameOutput s s₁) (hempty : s₁.wBuf = [])
    (h : ReplyEnds s₁ (x.reply what) r s') :
    ProcessEnds what fuel s r x.handled s' := by
  have hout : s₁.output = s.output := by
    unfold Link.output
    rw [hsame.sent, hsame.wBuf]
  have hsentOut : s.output = s.sent := by
    unfold Link.output
    rw [← hsame.wBuf, hempty, List.append_nil]
  cases h with
  | sent _ hfull hatt hwBuf hsent hstream hcap =>
    have hcan : ¬ x.Unanswerable what := fun h => h.elim hreturns hfull
    rw [hsame.sent] at hsent
    rw [← hstream] at hread
    exact .answered x s' hcan hread hatt hwBuf hsent (hcap.trans hsame.capacity)
  | broken e _ hpart hwhy =>
    rw [hout, hsentOut, hsame.capacity] at hwhy
    have hbefore := hpart.before
    have hpre := hpart.sent
    rw [hsame.sent] at hbefore
    rw [hout] at hpre
    exact .broken _ x _ s' hread ⟨hpart.connected, hbefore, hpre⟩
      (hwhy.imp_left fun hlimit => Or.inr hlimit) (by simp)

theorem process_runs {what : Bytes} {fuel : Nat} {s s' : Link} {w w' : σ}
    {tr : List (Obs TaskOp TaskOp.Answer Unit)} {r : Except Outage Bool} (hatt : Attached s)
    (hempty : s.wBuf = [])
    (h : (TDispatchProcessor.process what fuel).RunsIn (taskEnv handler) (s, w) tr r (s', w')) :
    ProcessEnds what fuel s r (calls tr) s' := by
  rw [process_eq] at h
  rcases h.of_bind with ⟨o, hfail, rfl⟩ | ⟨m, tr₁, tr₂, ⟨s₁, w₁⟩, hread, rfl, hanswer⟩
  · obtain ⟨hends, hsame, hcalls, -⟩ := iprot_runs hatt.isOpen hfail
    rw [hcalls]
    cases hends with
    | error o hnot haborted hfinished => exact .unread o s' hsame hnot hfinished
  · obtain ⟨hends, hsame, hcalls, -⟩ := iprot_runs hatt.isOpen hread
    have hatt₁ := hsame.attached hatt
    have hempty₁ := hsame.wBuf.trans hempty
    rw [calls_append, hcalls, List.nil_append]
    cases hends with
    | ok _ htaken =>
      cases m with
      | notCall =>
        obtain ⟨rfl, rfl, hs⟩ := hanswer
        cases hs
        exact .notCall _ _ htaken hsame
      | unknown fname seqid =>
        obtain ⟨hreply, hcalls₂, -⟩ := sendReply_runs hatt₁ hempty₁ hanswer
        rw [hcalls₂]
        exact ReplyEnds.process (x := .unknown fname seqid) htaken (by simp [Exchange.Aborts])
          hsame hempty₁ hreply
      | call q seqid =>
        obtain ⟨v, l, ⟨s₂, w₂⟩, tr₃, ⟨hcall, rfl⟩, rfl, hrest⟩ := hanswer
        have hcalls₃ (t : List (Obs TaskOp TaskOp.Answer Unit)) :
            calls (⟨.call q, v, l⟩ :: t) = ⟨q, v⟩ :: calls t := rfl
        rw [hcalls₃]
        cases v with
        | ok success =>
          obtain ⟨hreply, hcalls₂, -⟩ := sendReply_runs hatt₁ hempty₁ hrest
          rw [hcalls₂]
          exact ReplyEnds.process (x := .call q seqid (.ok success)) htaken
            (by simp [Exchange.Aborts]) hsame hempty₁ hreply
        | error a =>
          by_cases hlength : a = .length_error
          · subst hlength
            obtain ⟨hreply, hcalls₂, -⟩ := sendReply_runs hatt₁ hempty₁ hrest
            rw [hcalls₂]
            exact ReplyEnds.process (x := .call q seqid (.error .length_error)) htaken
              (by simp [Exchange.Aborts]) hsame hempty₁ hreply
          · have hno : (Exchange.call q seqid (.error a)).reply what = [] := by
              cases a <;> first | rfl | exact absurd rfl hlength
            have haborts : Prog.RunsIn (taskEnv handler) (.fail (.aborted a)) (s₂, w₂) tr₃ r
                (s', w') := by
              cases a <;> first | exact hrest | exact absurd rfl hlength
            obtain ⟨rfl, rfl, hs⟩ := haborts
            rw [(Prod.mk.inj hs).1]
            refine .broken _ (.call q seqid (.error a)) _ _ htaken ⟨hatt₁.connected, ?_, ?_⟩
              (Or.inl (Or.inl ⟨q, seqid, a, rfl, hlength⟩)) (by simp)
            · rw [hsame.sent]
            · rw [hno, hsame.sent]
              exact (List.prefix_append s.sent s.wBuf).trans (List.prefix_append _ _)

/-! ## A method that the server does not have -/

/-- A call of the method `fname` with these fields. -/
def foreignCall (fname : Bytes) (fs : List (BitVec 16 × TValue)) (seqid : I32) : Bytes :=
  encoded (writeMessageBegin fname T_CALL seqid ++ (TValue.struct fs).write)

/-- The answer to it. -/
def refusal (fname : Bytes) (seqid : I32) : List Piece :=
  exceptionWrite fname UNKNOWN_METHOD (invalidMethodName fname) seqid

theorem length_invalidMethodName (fname : Bytes) :
    fname.length ≤ (invalidMethodName fname).length := by
  unfold invalidMethodName
  simp only [List.length_append]
  omega

theorem size_limit_refusal {fname : Bytes} (hname : (invalidMethodName fname).length ≤ INT32_MAX)
    (seqid : I32) : Piece.SIZE_LIMIT ∉ refusal fname seqid := by
  have hlen := (length_invalidMethodName fname).trans hname
  simp [refusal, exceptionWrite, writeMessageBegin, writeTApplicationException, writeStruct,
    writeI32, size_limit_mem_writeString, writeFieldBegin, writeByte, writeI16, writeFieldStop,
    Nat.not_lt.mpr hlen, Nat.not_lt.mpr hname]

/-- `process` over a message of such a method. -/
theorem process_foreignCall {what : Bytes} {fuel : Nat} {fname : Bytes} {seqid : I32}
    (hname : (invalidMethodName fname).length ≤ INT32_MAX) {s s' : Link} {w w' : σ} {rest : Bytes}
    {tr : List (Obs TaskOp TaskOp.Answer Unit)} {r : Except Outage Bool} (hatt : Attached s)
    (hempty : s.wBuf = [])
    (hread : (readMessage fuel).reads s.stream = .done (.unknown fname seqid) rest)
    (h : (TDispatchProcessor.process what fuel).RunsIn (taskEnv handler) (s, w) tr r (s', w')) :
    calls tr = [] ∧
      (r = .ok true ∧ s'.sent = s.sent ++ encoded (refusal fname seqid) ∧ s'.stream = rest ∨
        (∃ o, r = .error o) ∧ s.capacity < (s.sent ++ encoded (refusal fname seqid)).length ∧
          s'.sent <+: s.sent ++ encoded (refusal fname seqid)) := by
  have hends := process_runs hatt hempty h
  generalize calls tr = hs at hends ⊢
  have hmessage {x : Exchange} {rest' : Bytes}
      (hx : (readMessage fuel).reads s.stream = .done x.message rest') :
      x = .unknown fname seqid ∧ rest' = rest := by
    rw [hread, Reading.done.injEq] at hx
    obtain ⟨hx, rfl⟩ := hx
    cases x with
    | call q seqid r => cases hx
    | unknown fname' seqid' =>
      cases hx
      exact ⟨rfl, rfl⟩
  cases hends with
  | answered x _ hcan hx hatt' hwBuf hsent hcap =>
    obtain ⟨rfl, hrest⟩ := hmessage hx
    exact ⟨rfl, Or.inl ⟨rfl, hsent, hrest⟩⟩
  | notCall rest' _ hx hsame =>
    rw [hread] at hx
    cases hx
  | unread o _ hsame hnot hfinished => exact absurd hread (hnot _ _)
  | broken o x rest' _ hx hpart hwhy hfinished =>
    obtain ⟨rfl, -⟩ := hmessage hx
    refine ⟨rfl, Or.inr ⟨⟨o, rfl⟩, hwhy.resolve_left ?_, ?_⟩⟩
    · rintro (⟨q, seqid, a, hx, -⟩ | hlimit)
      · cases hx
      · exact size_limit_refusal hname seqid hlimit
    · have hout : s.output = s.sent := by
        unfold Link.output
        rw [hempty, List.append_nil]
      rw [← hout]
      exact hpart.sent

/-- A call of a method that the server does not have is read to its end, whatever its fields are.
The server calls no handler for it and answers it, as far as the network takes the answer, so that
the client throws, whatever method it has called. -/
theorem an_unknown_method_is_refused {fname : Bytes}
    (hname : (invalidMethodName fname).length ≤ INT32_MAX)
    (hmiss : SelfService.processMap_ fname = none) {fs : List (BitVec 16 × TValue)}
    (hfit : TValue.FieldsFit fs) (seqid : I32) :
    (Message.unknown fname seqid).Encodes (foreignCall fname fs seqid) ∧
      (∀ (what : Bytes) (fuel : Nat) (s s' : Link) (w w' : σ) (rest : Bytes)
        (tr : List (Obs TaskOp TaskOp.Answer Unit)) (r : Except Outage Bool),
        Attached s → s.wBuf = [] → s.stream = foreignCall fname fs seqid ++ rest →
        (foreignCall fname fs seqid).length < fuel →
        (TDispatchProcessor.process what fuel).RunsIn (taskEnv handler) (s, w) tr r (s', w') →
        calls tr = [] ∧
          (r = .ok true ∧ s'.sent = s.sent ++ encoded (refusal fname seqid) ∧ s'.stream = rest ∨
            (∃ o, r = .error o) ∧
              s.capacity < (s.sent ++ encoded (refusal fname seqid)).length ∧
              s'.sent <+: s.sent ++ encoded (refusal fname seqid))) ∧
      ∀ (q : ApiForwardRequest) (fuel : Nat) (rest : Bytes), 2 < fuel →
        (q.recv fuel).reads (encoded (refusal fname seqid) ++ rest) =
          .failed (.TApplicationException UNKNOWN_METHOD) rest := by
  have hlen := (length_invalidMethodName fname).trans hname
  have hencodes : (Message.unknown fname seqid).Encodes (foreignCall fname fs seqid) :=
    encodes_unknown hlen hmiss hfit seqid
  refine ⟨hencodes, ?_, ?_⟩
  · intro what fuel s s' w w' rest tr r hatt hempty hstream hfuel h
    refine process_foreignCall hname hatt hempty ?_ h
    rw [hstream]
    exact hencodes.2 fuel hfuel rest
  · intro q fuel rest hfuel
    exact recv_exception q hlen hname UNKNOWN_METHOD seqid hfuel rest

/-- The network delivers the bytes and then the end of the stream, and takes up to 1024. -/
def linkWith (b : Bytes) : Link where
  created := true
  isOpen := true
  sends := [.took 1023]
  recvs := pushBack b [.fails .closed]
  connections := [{}]

theorem linkWith_attached (b : Bytes) : Attached (linkWith b) := ⟨rfl, List.cons_ne_nil _ _⟩

def onLink {α : Type} (x : Action α) (s : Link × Unit) : Except Stop α × (Link × Unit) :=
  ((x s.1).1, ((x s.1).2, s.2))

/-- The operations of a thread that is alone, with what the handler answers. -/
def taskAct (answers : (q : ApiForwardRequest) → Except HandlerAbort q.Result) :
    (e : TaskOp) → Link × Unit → e.Answer × (Link × Unit)
  | .readAll len => onLink (TBufferedTransport.readAll len)
  | .peek => onLink TBufferedTransport.peek
  | .write buf => onLink (TBufferedTransport.write buf)
  | .flush => onLink TBufferedTransport.flush
  | .closeInput => onLink closeInputTransport
  | .closeOutput => onLink TBufferedTransport.close
  | .call q => fun s => (answers q, s)

/-- The handler is called for these requests only. -/
def callsOnly (served : ApiForwardRequest → Bool) : TaskOp → Bool
  | .call q => served q
  | _ => true

theorem taskAct_env
    {handler : Unit → (q : ApiForwardRequest) → Except HandlerAbort q.Result → Unit → Prop}
    {answers : (q : ApiForwardRequest) → Except HandlerAbort q.Result}
    {served : ApiForwardRequest → Bool}
    (h : ∀ q, served q = true → handler () q (answers q) ()) (e : TaskOp) (s : Link × Unit)
    (hok : callsOnly served e = true) :
    taskEnv handler s e (taskAct answers e s).1 () (taskAct answers e s).2 := by
  obtain ⟨s, ⟨⟩⟩ := s
  cases e with
  | call q => exact ⟨h q hok, rfl⟩
  | _ => exact ⟨rfl, rfl⟩

/-- The handler is never called. -/
def neverCalled : Unit → (q : ApiForwardRequest) → Except HandlerAbort q.Result → Unit → Prop :=
  fun _ _ _ _ => False

/-- A method with a list of maps. -/
def foreignFields : List (BitVec 16 × TValue) :=
  [(1, .list T_MAP [.map T_I32 T_STRING [(.i32 1, .string [2])]])]

theorem foreignFields_fit : TValue.FieldsFit foreignFields := by
  simp [foreignFields, TValue.FieldsFit, TValue.Fits, TValue.ElemsFit, TValue.EntriesFit,
    TValue.type, INT32_MAX]

theorem a_method_of_another_service_is_refused :
    ∃ tr s', (TDispatchProcessor.process [] 64).RunsIn (taskEnv neverCalled)
        (linkWith (foreignCall [70] foreignFields 3), ()) tr (.ok true) (s', ()) ∧
      calls tr = [] ∧ s'.sent = encoded (refusal [70] 3) ∧
      ((ApiForwardRequest.spool (.EndPagePrinter 1)).recv 8).reads s'.sent =
        .failed (.TApplicationException UNKNOWN_METHOD) [] := by
  have hname : (invalidMethodName [70]).length ≤ INT32_MAX := by
    simp [invalidMethodName, ascii, INT32_MAX]
  let s := linkWith (foreignCall [70] foreignFields 3)
  let out := (TDispatchProcessor.process [] 64).trace
    (taskAct fun _ => .error .length_error) (s, ())
  have hrun : (TDispatchProcessor.process [] 64).RunsIn (taskEnv neverCalled) (s, ()) out.1
      out.2.1 out.2.2 :=
    Prog.trace_runsIn (taskAct_env (fun _ h => by cases h)) _ _
      (show (out.1.all fun o => callsOnly (fun _ => false) o.op) = true by decide +kernel)
  obtain ⟨-, hserver, hclient⟩ := @an_unknown_method_is_refused _ neverCalled _ hname rfl _
    foreignFields_fit 3
  have hstream : s.stream = foreignCall [70] foreignFields 3 ++ [] := by decide +kernel
  obtain ⟨hcalls, ⟨hok, hsent, -⟩ | ⟨-, hcap, -⟩⟩ := hserver [] 64 s _ () _ [] _ _
    (linkWith_attached _) rfl hstream (by decide +kernel) hrun
  · rw [hok] at hrun
    refine ⟨_, _, hrun, hcalls, hsent, ?_⟩
    rw [hsent]
    have := hclient (.spool (.EndPagePrinter 1)) 8 [] (by omega)
    rw [List.append_nil] at this
    exact this
  · exact absurd hcap (by decide +kernel)

/-! ## The loop over the messages -/

theorem consumes_readMessage (fuel : Nat) : Consumes (readMessage fuel) :=
  consumes_bind (consumes_bind (consumes_bind (consumes_readAll 3)))

theorem completes_readMessageHead {n : Nat} : Completes n readMessageHead := by
  refine completes_bind completes_readI32 fun sz => ?_
  split
  · split
    · exact completes_throw (by simp)
    · exact completes_bind completes_readString fun _ =>
        completes_bind completes_readI32 fun _ => completes_pure _
  · exact completes_bind (completes_readStringBody sz) fun _ =>
      completes_bind completes_readByte fun _ =>
        completes_bind completes_readI32 fun _ => completes_pure _

theorem completes_readMessage (fuel : Nat) : Completes fuel (readMessage fuel) := by
  refine completes_bind completes_readMessageHead ?_
  rintro ⟨fname, mtype, seqid⟩
  simp only
  split
  · exact completes_pure _
  · split
    · exact completes_bind (completes_skip fuel T_STRUCT) fun _ => completes_pure _
    · exact completes_bind (Members.completes_read fuel _ _) fun _ => completes_pure _

theorem continues_readMessage {fuel fuel' : Nat} (hle : fuel ≤ fuel') :
    Continues (readMessage fuel) (readMessage fuel') := by
  refine (Prog.Extends.refl _ readMessageHead).bind ?_
  rintro ⟨fname, mtype, seqid⟩
  simp only
  split
  · exact .refl _ _
  · split
    · exact (continues_skip hle T_STRUCT).bind fun _ => .refl _ _
    · exact (Members.continues_read hle _ _).bind fun _ => .refl _ _

/-- Steps that are enough for the stream are as good as any. -/
theorem messages_fuel {fuel fuel' : Nat} {stream : Bytes} (hfuel : stream.length < fuel)
    (hle : fuel ≤ fuel') : messages fuel' fuel' stream = messages fuel fuel stream :=
  Prog.readsWhile_congr
    (fun s hs => continues_readMessage hle s fun rest => completes_readMessage fuel s rest hs)
    (consumes_readMessage fuel) hfuel hfuel (by omega)

/-- What the thread has made of the messages `ms`: the exchanges `xs`, with the calls `hs` of the
handler. Only the last exchange can be without a reply, or with a part of it. -/
structure Session (what : Bytes) (ms : List Message) (s s' : Link) (hs : List HandlerCall)
    (xs : List Exchange) : Prop where
  taken : xs.map Exchange.message <+: ms
  handled : hs = xs.flatMap Exchange.handled
  connected : s'.connections ≠ []
  answered : ∀ x ∈ xs.dropLast, ¬ x.Unanswerable what
  before : s.sent ++ replies what xs.dropLast <+: s'.sent
  sent : s'.sent <+: s.sent ++ replies what xs
  complete : (∀ x ∈ xs, ¬ x.Unanswerable what) →
    (s.sent ++ replies what xs).length ≤ s.capacity →
      xs.map Exchange.message = ms ∧ s'.sent = s.sent ++ replies what xs

/-- Nothing was taken, and there was nothing to take. -/
theorem session_nothing {what : Bytes} {s s' : Link} (hsent : s'.sent = s.sent)
    (hconn : s'.connections ≠ []) : Session what [] s s' [] [] := by
  have hsame : s'.sent = s.sent ++ replies what [] := by
    rw [hsent]
    exact (List.append_nil _).symm
  exact ⟨List.prefix_refl _, rfl, hconn, by simp, ⟨[], by simp [hsent, replies]⟩,
    ⟨[], by simp [hsame]⟩, fun _ _ => ⟨rfl, hsame⟩⟩

/-- The first message is always taken. -/
theorem Session.first {what : Bytes} {m : Message} {ms : List Message} {s s' : Link}
    {hs : List HandlerCall} {xs : List Exchange} (h : Session what (m :: ms) s s' hs xs) :
    ∃ x xs', xs = x :: xs' ∧ x.message = m := by
  have htaken := h.taken
  cases xs with
  | nil =>
    have hroom : (s.sent ++ replies what []).length ≤ s.capacity := by
      simp [replies, Link.capacity]
    have hnone := (h.complete (by simp) hroom).1
    cases hnone
  | cons x xs =>
    rw [List.map_cons, List.cons_prefix_cons] at htaken
    exact ⟨x, xs, rfl, htaken.1⟩

/-- A call that is alone is handled. -/
theorem Session.handled_alone {what : Bytes} {q : ApiForwardRequest} {seqid : I32} {s s' : Link}
    {hs : List HandlerCall} {xs : List Exchange} (h : Session what [.call q seqid] s s' hs xs) :
    hs.map Sigma.fst = [q] := by
  obtain ⟨x, xs, rfl, hx⟩ := h.first
  have htaken := h.taken
  rw [List.map_cons, List.cons_prefix_cons, List.prefix_nil, List.map_eq_nil_iff] at htaken
  rw [h.handled, htaken.2]
  cases x with
  | call q' seqid' r =>
    cases hx
    rfl
  | unknown fname seqid' => cases hx

theorem replies_cons (what : Bytes) (x : Exchange) (xs : List Exchange) :
    replies what (x :: xs) = encoded (x.reply what) ++ replies what xs := rfl

/-- An answered message in front of a session. -/
theorem Session.cons {what : Bytes} {ms : List Message} {s s₁ s' : Link} {hs : List HandlerCall}
    {x : Exchange} {xs : List Exchange} (h : Session what ms s₁ s' hs xs)
    (hcan : ¬ x.Unanswerable what)
    (hsent : s₁.sent = s.sent ++ encoded (x.reply what)) (hcap : s₁.capacity = s.capacity) :
    Session what (x.message :: ms) s s' (x.handled ++ hs) (x :: xs) := by
  have hsum : s.sent ++ replies what (x :: xs) = s₁.sent ++ replies what xs := by
    rw [hsent, replies_cons, List.append_assoc]
  refine ⟨?_, ?_, h.connected, ?_, ?_, ?_, ?_⟩
  · rw [List.map_cons]
    exact List.cons_prefix_cons.mpr ⟨rfl, h.taken⟩
  · rw [List.flatMap_cons, h.handled]
  · cases xs with
    | nil => simp
    | cons y ys =>
      rw [List.dropLast_cons_cons, List.forall_mem_cons]
      exact ⟨hcan, h.answered⟩
  · cases xs with
    | nil =>
      have hpre : s.sent <+: s₁.sent := ⟨_, hsent.symm⟩
      have hrest : s₁.sent <+: s'.sent := (List.prefix_append _ _).trans h.before
      have hnone : replies what ([x].dropLast) = [] := rfl
      rw [hnone, List.append_nil]
      exact hpre.trans hrest
    | cons y ys =>
      rw [List.dropLast_cons_cons, replies_cons, ← List.append_assoc, ← hsent]
      exact h.before
  · rw [hsum]
    exact h.sent
  · intro hanswerable hlen
    rw [hsum, ← hcap] at hlen
    obtain ⟨hall, hall'⟩ :=
      h.complete (fun y hy => hanswerable y (List.mem_cons_of_mem x hy)) hlen
    exact ⟨by rw [List.map_cons, hall], hall'.trans hsum.symm⟩

/-- The last exchange, if its reply does not come to the client as a whole. -/
theorem session_broken {what : Bytes} {ms : List Message} {s s' : Link} {x : Exchange}
    (hpart : SentPart s (encoded (x.reply what)) s') (hempty : s.wBuf = [])
    (hwhy : x.Unanswerable what ∨ s.capacity < (s.sent ++ encoded (x.reply what)).length) :
    Session what (x.message :: ms) s s' x.handled [x] := by
  have hout : s.output = s.sent := by
    unfold Link.output
    rw [hempty, List.append_nil]
  have hone : replies what [x] = encoded (x.reply what) := List.append_nil _
  have hnone : replies what ([x].dropLast) = [] := rfl
  refine ⟨⟨ms, rfl⟩, (List.append_nil _).symm, hpart.connected, by simp, ?_, ?_, ?_⟩
  · rw [hnone, List.append_nil]
    exact hpart.before
  · rw [hone, ← hout]
    exact hpart.sent
  · intro hanswerable hlen
    rw [hone] at hlen
    rcases hwhy with hwhy | hwhy
    · exact absurd hwhy (hanswerable x List.mem_cons_self)
    · omega

/-- The peek between two messages: it looks at the stream only, and the loop goes on just if
there is a byte of the next message. -/
theorem peek_runs {s s₁ : Link} (hatt : Attached s) {a : Except Stop Bool}
    (h : TBufferedTransport.peek s = (a, s₁)) :
    SameOutput s s₁ ∧ (a = .ok true ∧ s₁.stream = s.stream ∨ a ≠ .ok true ∧ s.stream = []) := by
  have hpeek := peek_spec hatt.isOpen
  have hkeeps := keepsSends_peek s
  rw [h] at hpeek hkeeps
  cases hpeek with
  | some _ hne hstream hrec => exact ⟨hrec.sameOutput hkeeps, Or.inl ⟨rfl, hstream⟩⟩
  | none _ hnone hrec => exact ⟨hrec.sameOutput hkeeps, Or.inr ⟨by simp, hnone⟩⟩
  | failed e _ hnone hrec => exact ⟨hrec.sameOutput hkeeps, Or.inr ⟨by simp, hnone⟩⟩

theorem loop_runs {what : Bytes} {fuel rounds : Nat} {s s' : Link} {w w' : σ}
    {tr : List (Obs TaskOp TaskOp.Answer Unit)} {r : Except Outage Unit} (hatt : Attached s)
    (hempty : s.wBuf = []) (hfuel : s.stream.length < fuel)
    (h : (TThreadedServer.Task.loop what fuel rounds).RunsIn (taskEnv handler) (s, w) tr r
      (s', w')) :
    (∃ xs, Session what (messages fuel rounds s.stream) s s' (calls tr) xs) ∧
      (r = .error .unfinished → rounds ≤ s.stream.length) := by
  induction rounds generalizing s w tr with
  | zero =>
    obtain ⟨rfl, rfl, hs⟩ := h
    cases hs
    exact ⟨⟨[], session_nothing rfl hatt.connected⟩, fun _ => Nat.zero_le _⟩
  | succ rounds ih =>
    rcases h.of_bind with ⟨o, hprocess, rfl⟩ | ⟨more, tr₁, tr₂, ⟨s₁, w₁⟩, hprocess, rfl, hrest⟩
    · have hends := process_runs hatt hempty hprocess
      generalize calls tr = hs at hends ⊢
      cases hends with
      | unread o _ hsame hnot hfinished =>
        rw [messages_unread hnot]
        refine ⟨⟨[], session_nothing hsame.sent (hsame.attached hatt).connected⟩, ?_⟩
        intro ho
        obtain ⟨rest, hread⟩ := hfinished (by simpa using ho)
        exact absurd hread (completes_readMessage fuel _ rest hfuel)
      | broken o x rest _ hread hpart hwhy hfinished =>
        rw [messages_done hread]
        exact ⟨⟨[x], session_broken hpart hempty hwhy⟩,
          fun ho => absurd (by simpa using ho) hfinished⟩
    · have hends := process_runs hatt hempty hprocess
      rw [calls_append]
      generalize calls tr₁ = hs at hends ⊢
      cases hends with
      | notCall rest _ hread hsame =>
        obtain ⟨rfl, rfl, hs⟩ := hrest
        cases hs
        rw [messages_notCall hread]
        exact ⟨⟨[], session_nothing hsame.sent (hsame.attached hatt).connected⟩,
          fun ho => by cases ho⟩
      | answered x _ hcan hread hatt₁ hempty₁ hsent hcap =>
        have hless := consumes_readMessage fuel _ _ _ hread
        rw [messages_done hread]
        obtain ⟨a, l, ⟨s₂, w₂⟩, tr₃, ⟨hpeek, rfl⟩, rfl, hlast⟩ := hrest
        have hcalls : calls (⟨.peek, a, l⟩ :: tr₃) = calls tr₃ := rfl
        obtain ⟨hsame, hmore⟩ := peek_runs hatt₁ hpeek
        rw [hcalls]
        rcases hmore with ⟨rfl, hstream⟩ | ⟨hno, hnone⟩
        · obtain ⟨⟨xs, hxs⟩, hrounds⟩ := ih (hsame.attached hatt₁) (hsame.wBuf.trans hempty₁)
            (by rw [hstream]; omega) hlast
          rw [hstream] at hxs hrounds
          refine ⟨⟨x :: xs, Session.cons hxs hcan ?_ (hsame.capacity.trans hcap)⟩, fun ho => ?_⟩
          · rw [hsame.sent, hsent]
          · have := hrounds ho
            omega
        · have hended : s' = s₂ ∧ calls tr₃ = [] ∧ r ≠ .error .unfinished := by
            cases a with
            | error e =>
              obtain ⟨rfl, rfl, hs⟩ := hlast
              exact ⟨(Prod.mk.inj hs).1, rfl, by simp⟩
            | ok b =>
              cases b with
              | true => exact absurd rfl hno
              | false =>
                obtain ⟨rfl, rfl, hs⟩ := hlast
                exact ⟨(Prod.mk.inj hs).1, rfl, by simp⟩
          obtain ⟨rfl, hcalls₃, hfinished⟩ := hended
          rw [hcalls₃, hnone, messages_nil]
          have hnothing : Session what [] s₁ s' [] [] :=
            session_nothing hsame.sent (hsame.attached hatt₁).connected
          exact ⟨⟨[x], hnothing.cons hcan hsent hcap⟩, fun ho => absurd ho hfinished⟩

/-! ## The whole thread -/

/-- What is thrown ends with `return ()`, and everything else ends as it is. -/
theorem catchAll_runs {α : Type} {p : ServerTask α} {a : α} {s s' : Link × σ}
    {tr : List (Obs TaskOp TaskOp.Answer Unit)} {r : Except Outage α}
    (h : (ServerTask.catchAll (return a) p).RunsIn (taskEnv handler) s tr r s') :
    ∃ r', p.RunsIn (taskEnv handler) s tr r' s' ∧
      (r' = r ∨ (∃ x, r' = .error (.stopped (.thrown x))) ∧ r = .ok a) := by
  induction p generalizing s tr with
  | done b => exact ⟨r, h, Or.inl rfl⟩
  | fail o =>
    cases o with
    | aborted b => exact ⟨r, h, Or.inl rfl⟩
    | unfinished => exact ⟨r, h, Or.inl rfl⟩
    | stopped e =>
      cases e with
      | blocked => exact ⟨r, h, Or.inl rfl⟩
      | thrown x =>
        obtain ⟨rfl, rfl, rfl⟩ := h
        exact ⟨_, ⟨rfl, rfl, rfl⟩, Or.inr ⟨⟨x, rfl⟩, rfl⟩⟩
  | call e k ih =>
    obtain ⟨b, l, s₁, tr', henv, rfl, hrest⟩ := h
    obtain ⟨r', hrun, hr⟩ := ih b hrest
    exact ⟨r', .next henv hrun, hr⟩

/-- Nothing is sent by a socket that is closed. -/
theorem closed_writeLoop (fuel : Nat) (b : Bytes) {s : Link} (hclosed : s.isOpen = false) :
    (TSocket.writeLoop fuel b s).2 = s := by
  cases fuel with
  | zero => rfl
  | succ fuel =>
    have hthrown : TSocket.write_partial b s =
        (.error (.thrown (.TTransportException .NOT_OPEN)), s) := by
      unfold TSocket.write_partial
      rw [hclosed]
      rfl
    rw [TSocket.writeLoop]
    split
    · rfl
    · rw [Action.bind_error hthrown]

theorem closed_flush_connections {s : Link} (hclosed : s.isOpen = false) :
    (TBufferedTransport.flush s).2.connections = s.connections := by
  unfold TBufferedTransport.flush
  split
  · have hset : TBufferedTransport.setWriteBuffer [] s = (.ok (), { s with wBuf := [] }) := rfl
    have hsame := closed_writeLoop s.wBuf.length s.wBuf (s := { s with wBuf := [] }) hclosed
    rw [Action.bind_ok hset]
    exact (congrArg Link.connections hsame).trans rfl
  · rfl

/-- The transports are closed one after the other, and the socket with the first. -/
theorem closes_runs {s s' : Link} {w w' : σ} {tr : List (Obs TaskOp TaskOp.Answer Unit)}
    {r : Except Outage Unit}
    (h : (do
      ServerTask.catchAll (return ()) ServerTask.closeInput
      ServerTask.catchAll (return ()) ServerTask.closeOutput : ServerTask Unit).RunsIn
        (taskEnv handler) (s, w) tr r (s', w')) :
    s'.connections = s.connections ∧ calls tr = [] ∧ r ≠ .error .unfinished := by
  obtain ⟨a, l, ⟨s₁, w₁⟩, tr₁, ⟨hinput, rfl⟩, rfl, hrest⟩ := h
  cases hinput
  obtain ⟨a, l', ⟨s₂, w₂⟩, tr₂, ⟨houtput, rfl⟩, rfl, hlast⟩ := hrest
  have hflush := closed_flush_connections (s := { s with isOpen := false }) rfl
  have hsame : s₂.connections = s.connections := by
    unfold TBufferedTransport.close at houtput
    rw [Action.bind_run] at houtput
    generalize TBufferedTransport.flush { s with isOpen := false } = out at hflush houtput
    obtain ⟨r', s₃⟩ := out
    cases r' with
    | ok u =>
      cases houtput
      exact hflush
    | error e =>
      cases houtput
      exact hflush
  have hended : s' = s₂ ∧ tr₂ = [] ∧ r ≠ .error .unfinished := by
    cases a with
    | ok u =>
      obtain ⟨rfl, rfl, hs⟩ := hlast
      exact ⟨(Prod.mk.inj hs).1, rfl, by simp⟩
    | error e =>
      cases e with
      | thrown x =>
        obtain ⟨rfl, rfl, hs⟩ := hlast
        exact ⟨(Prod.mk.inj hs).1, rfl, by simp⟩
      | blocked =>
        obtain ⟨rfl, rfl, hs⟩ := hlast
        exact ⟨(Prod.mk.inj hs).1, rfl, by simp⟩
  obtain ⟨rfl, rfl, hfinished⟩ := hended
  exact ⟨hsame, rfl, hfinished⟩

/-- A session is one of the connections. -/
theorem Session.of_connections {what : Bytes} {ms : List Message} {s s₁ s' : Link}
    {hs : List HandlerCall} {xs : List Exchange} (h : Session what ms s s₁ hs xs)
    (hconn : s'.connections = s₁.connections) : Session what ms s s' hs xs := by
  have hsent : s'.sent = s₁.sent := by
    unfold Link.sent
    rw [hconn]
  obtain ⟨taken, handled, connected, answered, before, sent, complete⟩ := h
  rw [← hconn] at connected
  rw [← hsent] at before sent complete
  exact ⟨taken, handled, connected, answered, before, sent, complete⟩

theorem run_runs {what : Bytes} {fuel : Nat} {s s' : Link} {w w' : σ}
    {tr : List (Obs TaskOp TaskOp.Answer Unit)} {r : Except Outage Unit} (hatt : Attached s)
    (hempty : s.wBuf = []) (hfuel : s.stream.length < fuel)
    (h : (TThreadedServer.Task.run what fuel).RunsIn (taskEnv handler) (s, w) tr r (s', w')) :
    (∃ xs, Session what (messages fuel fuel s.stream) s s' (calls tr) xs) ∧
      r ≠ .error .unfinished := by
  have hfinished (r' : Except Outage Unit)
      (hrounds : r' = .error .unfinished → fuel ≤ s.stream.length) : r' ≠ .error .unfinished := by
    intro hr
    have := hrounds hr
    omega
  rcases h.of_bind with ⟨o, hloop, rfl⟩ | ⟨_, tr₁, tr₂, ⟨s₁, w₁⟩, hloop, rfl, hrest⟩
  · obtain ⟨r', hrun, hr | ⟨-, hok⟩⟩ := catchAll_runs hloop
    · subst hr
      obtain ⟨hsession, hrounds⟩ := loop_runs hatt hempty hfuel hrun
      exact ⟨hsession, hfinished _ hrounds⟩
    · cases hok
  · obtain ⟨r', hrun, -⟩ := catchAll_runs hloop
    obtain ⟨⟨xs, hsession⟩, -⟩ := loop_runs hatt hempty hfuel hrun
    obtain ⟨hconn, hcalls, hdone⟩ := closes_runs hrest
    rw [calls_append, hcalls, List.append_nil]
    exact ⟨⟨xs, hsession.of_connections hconn⟩, hdone⟩

end

end RemotePrinter
