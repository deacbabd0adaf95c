-- Connections on which nothing fails: the network takes and delivers all that
-- is written, and the handlers return. Then every call of the client returns.
import RemotePrinter.ServerConnections

open Interactive

namespace RemotePrinter

open TBinaryProtocol SelfServiceProcessor

/-! ## Sending without a failure -/

/-- The client can send the bytes `b`: there is room for them in the network, and the recursion
depth is not at its limit. -/
structure CanSend (s : Link) (b : Bytes) : Prop where
  attached : Attached s
  empty : s.wBuf = []
  room : (s.sent ++ b).length ≤ s.capacity
  depth : ¬ DEFAULT_RECURSION_LIMIT < s.recursion_depth + 1

/-- The request is sent. What is read behind it is the reply, if the stream has it. -/
theorem api_sends {s s' : Link} {q : Request} {b : Bytes} (hcan : CanSend s (q.encoding ++ b))
    (hshort : q.Short) {r : Except Stop q.Result} (hrun : q.api s = (r, s')) :
    s'.sent = s.sent ++ q.encoding ∧
      (∀ v, r = .ok v → CanSend s' b ∧ q.reply s.stream = .done v s'.stream) ∧
      ∀ e, r = .error e → ∀ v rest, q.reply s.stream ≠ .done v rest := by
  have hroom : (s.wBuf ++ q.encoding).length ≤ room s.sends := by
    have hsum := hcan.room
    unfold Link.capacity at hsum
    rw [List.length_append, List.length_append] at hsum
    rw [hcan.empty, List.nil_append]
    omega
  have hspec := send_spec hcan.attached.isOpen q
  have hputs := send_puts hcan.attached q
  unfold Request.api at hrun
  rw [Action.bind_run] at hrun
  cases hput : q.send s with
  | mk u s₁ =>
    rw [hput] at hspec hputs hrun
    have hsent : u = .ok () := by
      cases hspec with
      | ok t sent left hfull hsplit hroom' => rfl
      | limit x d t sent left hlimit => exact absurd hlimit (fun h => h.elim (· hshort) hcan.depth)
      | stop e o fs d t sent left hstop hsent hless hkept => omega
    subst hsent
    have hdepth : s₁.recursion_depth = s.recursion_depth := by
      cases hspec
      rfl
    cases hputs with
    | ok _ hall =>
      have hopen := hall.attached.isOpen
      have hempty := send_wBuf hcan.attached.isOpen hput
      have hout := hall.output
      unfold Link.output at hout
      rw [hempty, hcan.empty, List.append_nil, List.append_nil] at hout
      simp only at hrun
      have hsame := receive_sameOutput hopen q
      have hrec := (receive_spec hopen q).received
      rw [hrun] at hsame hrec
      have hsent' : s'.sent = s.sent ++ q.encoding := hsame.sent.trans hout
      refine ⟨hsent', ?_, ?_⟩
      · rintro v rfl
        have hread := receive_rest hopen hrun
        rw [hall.stream] at hread
        refine ⟨⟨hsame.attached hall.attached, hsame.wBuf.trans hempty, ?_, ?_⟩, hread⟩
        · rw [hsent', hsame.capacity, hall.capacity, List.append_assoc]
          exact hcan.room
        · rw [hrec.recursion_depth, hdepth]
          exact hcan.depth
      · rintro e rfl v rest hread
        rw [← hall.stream] at hread
        have hok := (receive_ok_iff hopen q v).mpr ⟨rest, hread⟩
        rw [hrun] at hok
        cases hok

/-- All requests are sent, the last one too if its call fails. -/
theorem calls_sent {s s' : Link} {cs : List ClientCall} (h : Calls s cs s')
    (hcan : CanSend s (cs.flatMap fun c => c.1.encoding)) (hshort : ∀ c ∈ cs, c.1.Short) :
    s'.sent = s.sent ++ cs.flatMap fun c => c.1.encoding := by
  induction h with
  | nil s => exact (List.append_nil _).symm
  | @returned s s₁ s' q v cs hrun _ ih =>
    rw [List.flatMap_cons] at hcan
    obtain ⟨hsent, hreturned, -⟩ := api_sends hcan (hshort ⟨q, .ok v⟩ List.mem_cons_self) hrun
    rw [ih (hreturned v rfl).1 (fun c hc => hshort c (List.mem_cons_of_mem _ hc)), hsent,
      List.flatMap_cons, List.append_assoc]
  | @failed s s' q e hrun =>
    rw [List.flatMap_cons] at hcan
    rw [(api_sends hcan (hshort ⟨q, .error e⟩ List.mem_cons_self) hrun).1]
    simp

/-! ## All messages and all replies -/

/-- The bytes of the reply to a call of the client whose handler returns. -/
def HandlerCall.replyBytes (h : HandlerCall) : Bytes :=
  match h.2 with
  | .ok v => encoded (replyWrite h.1 v 0)
  | .error _ => []

theorem size_limit_writeMap {T : Type} {val : Scalar T}
    (hval : ∀ v, val.fits v → Piece.SIZE_LIMIT ∉ val.write v) {m : StdMap T}
    (hfits : (Codec.map val).fits m) : Piece.SIZE_LIMIT ∉ (Codec.map val).write m := by
  intro hmem
  have hfit : EntriesFit val m.inOrder := entriesFit_perm m.inOrder_perm.symm hfits.2
  rcases List.mem_append.mp hmem with h | h
  · simp [writeMapBegin, writeByte, writeI32] at h
  · obtain ⟨e, he, hpiece⟩ := List.mem_flatMap.mp h
    obtain ⟨hkey, hvalue⟩ := hfit.2 e he
    rcases List.mem_append.mp hpiece with h | h
    · exact absurd ((size_limit_mem_writeString e.1).mp h) (by omega)
    · exact hval e.2 hvalue h

/-- A result that fits can be written. -/
theorem Request.size_limit_reply {q : Request} {v : q.apiForward.Result}
    (hfits : q.apiForward.success.fits v) (seqid : I32) :
    Piece.SIZE_LIMIT ∉ replyWrite q.apiForward v seqid := by
  have hname : Piece.SIZE_LIMIT ∉
      writeMessageBegin (SelfService.name q.apiForward.proc) T_REPLY seqid := by
    have hlen := SelfService.name_length q.apiForward.proc
    simp [writeMessageBegin, writeI32, size_limit_mem_writeString, Nat.not_lt.mpr hlen]
  have hvalue : Piece.SIZE_LIMIT ∉ q.apiForward.success.write v := by
    have hi32 : ∀ v, Scalar.i32.fits v → Piece.SIZE_LIMIT ∉ Scalar.i32.write v := by
      simp [Scalar.i32, writeI32]
    have hi64 : ∀ v, Scalar.i64.fits v → Piece.SIZE_LIMIT ∉ Scalar.i64.write v := by
      simp [Scalar.i64, writeI64]
    have hbool : ∀ v, Piece.SIZE_LIMIT ∉ Scalar.bool.write v := by
      simp [Scalar.bool, writeBool]
    cases q with
    | usb q => exact hi32 v trivial
    | spool q =>
      cases q with
      | OpenPrinterA => exact size_limit_writeMap hi64 hfits
      | OpenPrinterW => exact size_limit_writeMap hi64 hfits
      | WritePrinter => exact size_limit_writeMap hi32 hfits
      | StartDocPrinterW => exact hi32 v trivial
      | _ => exact hbool v
  unfold replyWrite ApiForwardRequest.resultWrite writeStruct writeStruct
  simp only [List.mem_append]
  rintro (h | (h | h) | h)
  · exact hname h
  · simp [writeFieldBegin, writeByte, writeI16] at h
  · exact hvalue h
  · simp [writeFieldStop, writeByte] at h

/-- The handler came back with a result that can be written. -/
def HandlerCall.Returned (h : HandlerCall) : Prop := ∃ v, h.2 = .ok v ∧ h.1.success.fits v

/-- The exchanges of the client's calls, if all handlers return: each has a reply. -/
theorem exchange_of_returned {x : Exchange} {c : ClientCall} (hmessage : x.message = c.message)
    (h : ∀ h ∈ x.handled, HandlerCall.Returned h) :
    ∃ v, x = .call c.1.apiForward 0 (.ok v) ∧ c.1.apiForward.success.fits v := by
  cases x with
  | unknown fname seqid => cases hmessage
  | call q seqid r =>
    obtain ⟨rfl, rfl⟩ := Message.call.inj hmessage
    cases r with
    | ok v =>
      obtain ⟨v', hv, hfits⟩ := h _ List.mem_cons_self
      cases hv
      exact ⟨v, rfl, hfits⟩
    | error a =>
      obtain ⟨v', hv, -⟩ := h _ List.mem_cons_self
      cases hv

/-- None of them is without a reply, and the replies are those of the handler's calls. -/
theorem replies_of_returned (what : Bytes) {xs : List Exchange} {cs : List ClientCall}
    (hmessages : xs.map Exchange.message <+: cs.map ClientCall.message)
    (h : ∀ h ∈ xs.flatMap Exchange.handled, HandlerCall.Returned h) :
    (∀ x ∈ xs, ¬ x.Unanswerable what) ∧
      replies what xs = (xs.flatMap Exchange.handled).flatMap HandlerCall.replyBytes := by
  induction xs generalizing cs with
  | nil => exact ⟨by simp, rfl⟩
  | cons x xs ih =>
    cases cs with
    | nil => cases List.prefix_nil.mp hmessages
    | cons c cs =>
      rw [List.map_cons, List.map_cons, List.cons_prefix_cons] at hmessages
      rw [List.flatMap_cons] at h
      obtain ⟨v, rfl, hfits⟩ := exchange_of_returned hmessages.1
        fun h' hh => h h' (List.mem_append_left _ hh)
      obtain ⟨hanswered, hreplies⟩ := ih hmessages.2
        fun h' hh => h h' (List.mem_append_right _ hh)
      constructor
      · rintro x hx
        rcases List.mem_cons.mp hx with rfl | hx
        · rintro (⟨q, seqid, a, ha, -⟩ | hlimit)
          · cases ha
          · exact Request.size_limit_reply hfits 0 hlimit
        · exact hanswered x hx
      · rw [replies_cons, hreplies, List.flatMap_cons, List.flatMap_append]
        simp [Exchange.handled, Exchange.reply, HandlerCall.replyBytes]

/-! ## All calls return -/

/-- A reply that has come as a whole is read, and no more. -/
theorem reply_of_whole {q : Request} {v : q.apiForward.Result}
    (hfits : q.apiForward.success.fits v) (seqid : I32) (more : Bytes) :
    ∃ v', q.reply (encoded (replyWrite q.apiForward v seqid) ++ more) = .done v' more := by
  obtain ⟨v', -, hdec⟩ := Request.decodes_reply hfits seqid
  refine ⟨v', hdec _ ?_ more⟩
  rw [List.length_append]
  omega

/-- With all replies in the stream no call fails. -/
theorem calls_return {what : Bytes} {s s' : Link} {cs : List ClientCall} (h : Calls s cs s')
    (hcan : CanSend s (cs.flatMap fun c => c.1.encoding)) (hshort : ∀ c ∈ cs, c.1.Short)
    {xs : List Exchange} (hmessages : xs.map Exchange.message = cs.map ClientCall.message)
    (hreturned : ∀ h ∈ xs.flatMap Exchange.handled, HandlerCall.Returned h)
    (hstream : s.stream = replies what xs) : ∀ c ∈ cs, ∃ v, c.2 = .ok v := by
  induction h generalizing xs with
  | nil s => simp
  | @returned s s₁ s' q v cs hrun _ ih =>
    cases xs with
    | nil => cases hmessages
    | cons x xs =>
      rw [List.map_cons, List.map_cons, List.cons.injEq] at hmessages
      rw [List.flatMap_cons] at hreturned hcan
      obtain ⟨u, rfl, hfits⟩ := exchange_of_returned hmessages.1
        fun h hh => hreturned h (List.mem_append_left _ hh)
      obtain ⟨-, hok, -⟩ := api_sends hcan (hshort _ List.mem_cons_self) hrun
      obtain ⟨hcan₁, hread⟩ := hok v rfl
      obtain ⟨v', hwhole⟩ := reply_of_whole hfits 0 (replies what xs)
      rw [hstream, replies_cons] at hread
      have hrest : s₁.stream = replies what xs := by
        have hboth := hread.symm.trans hwhole
        rw [Reading.done.injEq] at hboth
        exact hboth.2
      rintro c hc
      rcases List.mem_cons.mp hc with rfl | hc
      · exact ⟨_, rfl⟩
      · exact ih hcan₁ (fun c hc => hshort c (List.mem_cons_of_mem _ hc)) hmessages.2
          (fun h hh => hreturned h (List.mem_append_right _ hh)) hrest c hc
  | @failed s s' q e hrun =>
    cases xs with
    | nil => cases hmessages
    | cons x xs =>
      rw [List.map_cons, List.map_cons, List.cons.injEq] at hmessages
      rw [List.flatMap_cons] at hreturned hcan
      obtain ⟨u, rfl, hfits⟩ := exchange_of_returned hmessages.1
        fun h hh => hreturned h (List.mem_append_left _ hh)
      obtain ⟨-, -, hfailed⟩ := api_sends hcan (hshort _ List.mem_cons_self) hrun
      obtain ⟨v', hwhole⟩ := reply_of_whole hfits 0 (replies what xs)
      refine absurd ?_ (hfailed e rfl v' (replies what xs))
      rw [hstream, replies_cons]
      exact hwhole

/-- Where nothing fails, every call returns: the client can send its requests, all that either
side sends is delivered, the server's network takes the replies, and every handler that was called
has returned. -/
theorem every_call_returns_where_nothing_fails {σ : Type}
    {handler : σ → (q : ApiForwardRequest) → Except HandlerAbort q.Result → σ → Prop}
    {what : Bytes} {c c' : Link} {cs : List ClientCall}
    (hcnew : c.output = []) (hclient : Calls c cs c')
    (hcan : CanSend c (cs.flatMap fun call => call.1.encoding))
    (hshort : ∀ call ∈ cs, call.1.Short) {s s' : Link} {w w' : σ} {fuel : Nat}
    {tr : List (Obs TaskOp TaskOp.Answer Unit)} {r : Except Outage Unit}
    (hsatt : Attached s) (hsnew : s.output = []) (hfuel : s.stream.length < fuel)
    (hserver : (TThreadedServer.Task.run what fuel).RunsIn (taskEnv handler) (s, w) tr r (s', w'))
    (hreturned : ∀ h ∈ calls tr, HandlerCall.Returned h)
    (hroom : ((calls tr).flatMap HandlerCall.replyBytes).length ≤ s.capacity)
    (hup : s.stream = c'.sent) (hdown : c.stream = s'.sent) :
    (calls tr).map Sigma.fst = cs.map (fun call => call.1.apiForward) ∧
      ∀ call ∈ cs, ∃ v, call.2 = .ok v := by
  obtain ⟨hcsent, -⟩ := List.append_eq_nil_iff.mp hcnew
  obtain ⟨hssent, hsbuf⟩ := List.append_eq_nil_iff.mp hsnew
  have hstream : s.stream = cs.flatMap fun call => call.1.encoding := by
    rw [hup, calls_sent hclient hcan hshort, hcsent, List.nil_append]
  have hall : messages fuel fuel s.stream = cs.map ClientCall.message := by
    rw [hstream] at hfuel ⊢
    exact messages_of_all_calls hshort hfuel
  obtain ⟨⟨xs, session⟩, -⟩ := run_runs hsatt hsbuf hfuel hserver
  have htaken := session.taken
  rw [hall] at htaken
  have hcomplete := session.complete
  rw [session.handled] at hreturned hroom ⊢
  obtain ⟨hanswered, hreplies⟩ := replies_of_returned what htaken hreturned
  rw [← hreplies] at hroom
  obtain ⟨hmessages, hsent⟩ := hcomplete hanswered (by rw [hssent, List.nil_append]; exact hroom)
  rw [hall] at hmessages
  rw [hssent, List.nil_append] at hsent
  refine ⟨?_, calls_return hclient hcan hshort hmessages hreturned (hdown.trans hsent)⟩
  have hlen := congrArg List.length hmessages
  have hpre := handled_requests htaken
  refine hpre.eq_of_length ?_
  rw [List.length_map, List.length_map] at hlen ⊢
  have hone : ∀ x ∈ xs, x.handled.length = 1 := by
    intro x hx
    obtain ⟨c, -, hc⟩ := List.mem_map.mp (hmessages ▸ List.mem_map_of_mem hx)
    cases x with
    | call q seqid r => rfl
    | unknown fname seqid => cases hc
  rw [List.length_flatMap, List.map_congr_left hone, ← hlen]
  simp

/-- The handler answers for pages and documents, and is called for nothing else. -/
def answersPages : Unit → (q : ApiForwardRequest) → Except HandlerAbort q.Result → Unit → Prop :=
  fun _ q r _ => onPages q = true ∧ r = pageAnswers q

theorem answersPages_returned {q : ApiForwardRequest} {r : Except HandlerAbort q.Result}
    (h : answersPages () q r ()) : HandlerCall.Returned ⟨q, r⟩ := by
  obtain ⟨hpages, rfl⟩ := h
  cases q with
  | spool q =>
    cases q with
    | StartDocPrinterW => exact ⟨_, rfl, trivial⟩
    | StartPagePrinter => exact ⟨_, rfl, trivial⟩
    | EndPagePrinter => exact ⟨_, rfl, trivial⟩
    | EndDocPrinter => exact ⟨_, rfl, trivial⟩
    | _ => cases hpages
  | _ => cases hpages

/-- The client that ends a document and begins another. -/
theorem two_calls_return_where_nothing_fails :
    ∃ c', Calls (linkWith (pageReplies false)) (pageCalls false) c' ∧
      (calls (pagesServed (pageStream false)).1).map Sigma.fst =
        [endDoc.apiForward, startDoc.apiForward] ∧
      ∀ call ∈ pageCalls false, ∃ v, call.2 = .ok v := by
  obtain ⟨c', hcalls, hsent⟩ := pageClient false
  refine ⟨c', hcalls, ?_⟩
  have hserver := @pagesServed_runsIn _ (pageStream_served false) answersPages
    fun q hq => ⟨hq, rfl⟩
  have hcan : CanSend (linkWith (pageReplies false)) (pageStream false) :=
    ⟨linkWith_attached _, rfl, by decide +kernel, by decide +kernel⟩
  have hreturned : ∀ h ∈ calls (pagesServed (pageStream false)).1, HandlerCall.Returned h := by
    rintro ⟨q, r⟩ hmem
    obtain ⟨_, _, hanswer⟩ := calls_handled hserver _ hmem
    exact answersPages_returned hanswer
  exact every_call_returns_where_nothing_fails rfl hcalls hcan (pageCalls_short false)
    (linkWith_attached _) rfl (pageStream_served false).1 hserver hreturned (by decide +kernel)
    (by rw [linkWith_pageStream, hsent]) (by rw [linkWith_pageReplies, pagesServed_sent])

end RemotePrinter
