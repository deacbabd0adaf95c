-- A client's calls over one connection, and the thread of the server that
-- serves it. Each side sees a part of what the other side's network took.
-- That is enough for every call that returns to have its own handler's result.
import RemotePrinter.TaskSessions

open Interactive

namespace RemotePrinter

open TBinaryProtocol

/-! ## The requests in the stream of the server -/

/-- A stream that is cut anywhere has the messages that have come as a whole. -/
theorem messages_of_parts {parts : List (Bytes × Message)} (hparts : ∀ i ∈ parts, i.2.Encodes i.1)
    {stream : Bytes} (hs : stream <+: parts.flatMap Prod.fst) {steps : Nat}
    (hsteps : stream.length < steps) :
    ∃ whole more tail, parts = whole ++ more ∧ stream = whole.flatMap Prod.fst ++ tail ∧
      (∀ i ∈ more.head?, tail.length < i.1.length) ∧
      messages steps steps stream = whole.map Prod.snd := by
  -- With more steps every message could be read to its end.
  obtain ⟨fuel, hle, hfuel⟩ : ∃ fuel, steps ≤ fuel ∧ (parts.flatMap Prod.fst).length < fuel :=
    ⟨steps + ((parts.flatMap Prod.fst).length + 1), by omega, by omega⟩
  rw [← messages_fuel hsteps hle]
  refine Prog.readsWhile_prefix (readMessage_nil fuel) (fun i hi => ?_) hs (by omega)
  have hlen : i.1.length ≤ (parts.flatMap Prod.fst).length :=
    (List.sublist_flatten_of_mem (List.mem_map_of_mem hi)).length_le
  exact ⟨(hparts i hi).2 fuel (by omega), (hparts i hi).1⟩

/-! ## Readings of the client -/

/-- A reply is read without a change of the output. -/
theorem receive_sameOutput {s : Link} (hopen : s.isOpen = true) (q : Request) :
    SameOutput s (q.receive s).2 := by
  have hends : (∃ a s', q.receive s = (.ok a, s') ∧ SameOutput s s' ∧ s'.isOpen = true) ∨
      ∃ e s', q.receive s = (.error e, s') ∧ SameOutput s s' := by
    refine Prog.readFrom_ends ?_ ?_ (fun _ _ h => h.1) ⟨.refl s, hopen⟩
    · rintro n s₁ b s' ⟨hsame, hopen₁⟩ hget
      have hall := readAll_spec hopen₁ n
      have hkeeps := keepsSends_readAll n s₁
      rw [hget] at hall hkeeps
      cases hall with
      | done _ hlen hstream hrec =>
        exact ⟨hsame.trans (hrec.sameOutput hkeeps), hrec.isOpen.trans hopen₁⟩
    · rintro n s₁ e s' ⟨hsame, hopen₁⟩ hget
      have hall := readAll_spec hopen₁ n
      have hkeeps := keepsSends_readAll n s₁
      rw [hget] at hall hkeeps
      cases hall with
      | failed _ _ hlen hrec hfails => exact hsame.trans (hrec.sameOutput hkeeps)
  rcases hends with ⟨a, s', hrun, hsame, -⟩ | ⟨e, s', hrun, hsame⟩
  · rw [hrun]
    exact hsame
  · rw [hrun]
    exact hsame

theorem receive_rest {s s' : Link} (hopen : s.isOpen = true) {q : Request} {v : q.Result}
    (hrun : q.receive s = (.ok v, s')) : q.reply s.stream = .done v s'.stream :=
  Prog.readFrom_rest readAll_source hopen hrun

theorem continues_recv {fuel fuel' : Nat} (hle : fuel ≤ fuel') (q : Request) :
    Continues (q.recv fuel) (q.recv fuel') := by
  refine (Prog.Extends.refl _ readMessageBegin).bind ?_
  rintro ⟨fname, mtype⟩
  simp only
  split
  · refine Prog.Extends.bind (continues_fields ?_ hle _) fun _ => .refl _ _
    intro type ftype fid
    split_ifs
    · exact .refl _ _
    · exact .refl _ _
    · exact (continues_skip hle ftype).bind fun _ => .refl _ _
  · refine continues_when (continues_skip hle T_STRUCT)
      (continues_when (continues_skip hle T_STRUCT) ?_)
    refine Prog.Extends.bind (continues_fields ?_ hle none) fun _ => .refl _ _
    intro success ftype fid
    split_ifs
    · exact .refl _ _
    · exact (continues_skip hle ftype).bind fun _ => .refl _ _

/-! ## The requests of the client -/

/-- The request in the model of the server. -/
def Request.apiForward : Request → ApiForwardRequest
  | spool q => .spool q
  | usb q => .usb q

/-- The result that the client returns for the one that the handler gave. -/
def Request.SameResult : (q : Request) → q.apiForward.Result → q.Result → Prop
  | spool q => (ApiForwardRequest.spool q).success.same
  | usb q => (ApiForwardRequest.usb q).success.same

theorem Request.messageWrite_apiForward (q : Request) :
    encoded (q.apiForward.messageWrite 0) = q.encoding := by
  cases q with
  | spool q => exact ApiForwardRequest.spool_messageWrite q
  | usb q => exact ApiForwardRequest.usb_messageWrite q

/-- A member is read back as it was. -/
def Member.Exact (m : Member) : Prop := ∀ v v', m.2.same v v' → v' = v

theorem Member.exact_scalar {α : Type} (s : Scalar α) : Member.Exact ⟨α, .scalar s⟩ :=
  fun _ _ h => h.symm

theorem Members.eq_of_same {ms : List Member} (hms : ∀ m ∈ ms, m.Exact) {vs vs' : Members ms}
    (h : Members.Same ms vs vs') : vs' = vs := by
  induction ms with
  | nil => rfl
  | cons m ms ih =>
    have hv := hms m List.mem_cons_self _ _ h.1
    have hvs := ih (fun m' hm' => hms m' (List.mem_cons_of_mem m hm')) h.2
    exact Prod.ext hv hvs

/-- These requests have no map among their arguments. -/
theorem Request.args_exact (q : Request) : ∀ m ∈ SelfService.args q.apiForward.proc, m.Exact := by
  have hbool : Member.bool.Exact := Member.exact_scalar .bool
  have hi32 : Member.i32.Exact := Member.exact_scalar .i32
  have hi64 : Member.i64.Exact := Member.exact_scalar .i64
  have hstring : Member.string.Exact := Member.exact_scalar .string
  cases q with
  | spool q => cases q <;> simp [apiForward, ApiForwardRequest.proc, SpoolRequest.proc,
      SelfService.args, hbool, hi32, hi64, hstring]
  | usb q => cases q <;> simp [apiForward, ApiForwardRequest.proc, UsbRequest.proc,
      SelfService.args, hi32, hstring]

theorem Request.eq_of_same {q : Request} {q' : ApiForwardRequest} (h : q.apiForward.Same q') :
    q' = q.apiForward := by
  obtain ⟨args, hsame, rfl⟩ := h
  rw [Members.eq_of_same q.args_exact hsame, ApiForwardRequest.request_args]

theorem Request.fits_apiForward {q : Request} (h : q.Short) : q.apiForward.Fits := by
  unfold Short at h
  cases q with
  | spool q => cases q <;> simp_all [args, apiForward, ApiForwardRequest.Fits, Members.Fits,
      ApiForwardRequest.args, ApiForwardRequest.proc, SpoolRequest.proc, SelfService.args,
      Codec.scalar, Scalar.string, Scalar.bool, Scalar.i32, Scalar.i64]
  | usb q => cases q <;> simp_all [args, apiForward, ApiForwardRequest.Fits, Members.Fits,
      ApiForwardRequest.args, ApiForwardRequest.proc, UsbRequest.proc, SelfService.args,
      Codec.scalar, Scalar.string, Scalar.i32]

/-! ## A call -/

/-- All of `b` is in the output, or a part of it was sent. -/
inductive Puts (s : Link) (b : Bytes) : Except Stop Unit → Link → Prop
  | ok (s' : Link) (hall : Output s b s') : Puts s b (.ok ()) s'
  | error (e : Stop) (s' : Link) (hpart : SentPart s b s') : Puts s b (.error e) s'

theorem Outputs.puts {s s' : Link} {b : Bytes} {l : Prop} {r : Except Stop Unit}
    (h : Outputs s b l r s') : Puts s b r s' := by
  cases h with
  | ok _ _ hall => exact .ok _ hall
  | error e _ hpart _ => exact .error e _ hpart

theorem Puts.seq {s : Link} {x y : Action Unit} {b c : Bytes} (hx : Puts s b (x s).1 (x s).2)
    (hy : ∀ s₁, Attached s₁ → Puts s₁ c (y s₁).1 (y s₁).2) :
    Puts s (b ++ c) ((do x; y : Action Unit) s).1 ((do x; y : Action Unit) s).2 := by
  rw [Action.bind_run]
  cases hrun : x s with
  | mk r s₁ =>
    rw [hrun] at hx
    cases hx with
    | ok _ hall =>
      have hrest := hy s₁ hall.attached
      simp only
      generalize y s₁ = out at hrest ⊢
      obtain ⟨r, s₂⟩ := out
      have hsum : s₁.output ++ c = s.output ++ (b ++ c) := by
        rw [hall.output, List.append_assoc]
      cases hrest with
      | ok _ hall' =>
        exact .ok _ ⟨hall'.attached, hall.before.trans hall'.before, hall'.output.trans hsum,
          hall'.stream.trans hall.stream, hall'.capacity.trans hall.capacity⟩
      | error e _ hpart =>
        exact .error e _ ⟨hpart.connected, hall.before.trans hpart.before, hsum ▸ hpart.sent⟩
    | error e _ hpart =>
      refine .error e _ ⟨hpart.connected, hpart.before, hpart.sent.trans ?_⟩
      rw [← List.append_assoc]
      exact List.prefix_append _ _

/-- Only the recursion depth is another. -/
theorem puts_depth {s : Link} (hatt : Attached s) (r : Except Stop Unit) (d : BitVec 32) :
    Puts s [] r { s with recursion_depth := d } := by
  cases r with
  | ok u =>
    exact .ok _ ⟨⟨hatt.isOpen, hatt.connected⟩, List.prefix_refl _, (List.append_nil _).symm, rfl,
      rfl⟩
  | error e =>
    refine .error e _ ⟨hatt.connected, List.prefix_refl _, ?_⟩
    exact (List.prefix_append s.sent s.wBuf).trans (List.prefix_append _ _)

theorem increment_puts {s : Link} (hatt : Attached s) :
    Puts s [] (incrementRecursionDepth s).1 (incrementRecursionDepth s).2 := by
  unfold incrementRecursionDepth
  simp only
  split
  · exact puts_depth hatt _ _
  · exact puts_depth hatt _ _

theorem send_puts {s : Link} (hatt : Attached s) (q : Request) :
    Puts s q.encoding (q.send s).1 (q.send s).2 := by
  have hall : q.encoding =
      encoded q.messageBegin ++ (([] ++ (encoded q.argsWrite ++ [])) ++ []) := by
    unfold Request.encoding
    rw [encoded_append, List.nil_append, List.append_nil, List.append_nil]
  rw [hall]
  refine (writePieces_outputs hatt _).puts.seq fun s₁ hatt₁ => Puts.seq ?_ fun s₃ hatt₃ =>
    ((flush_spec hatt₃.isOpen).1.outputs hatt₃).puts
  refine (increment_puts hatt₁).seq fun s₂ hatt₂ => ?_
  exact (writePieces_outputs hatt₂ _).puts.seq fun s₃ hatt₃ => puts_depth hatt₃ _ _

/-- What a call leaves: a part of its request is sent, and all of it if it returns. Then its result
is what the stream has as the reply. -/
theorem api_runs {s s' : Link} (hatt : Attached s) (hempty : s.wBuf = []) {q : Request}
    {r : Except Stop q.Result} (hrun : q.api s = (r, s')) :
    SentPart s q.encoding s' ∧ ∀ v, r = .ok v → Attached s' ∧ s'.wBuf = [] ∧
      s'.sent = s.sent ++ q.encoding ∧ q.reply s.stream = .done v s'.stream := by
  have hsend := send_puts hatt q
  unfold Request.api at hrun
  rw [Action.bind_run] at hrun
  cases hput : q.send s with
  | mk u s₁ =>
    rw [hput] at hsend hrun
    cases hsend with
    | error e _ hpart =>
      cases hrun
      exact ⟨hpart, fun v hv => by cases hv⟩
    | ok _ hall =>
      have hopen := hall.attached.isOpen
      have hempty₁ := send_wBuf hatt.isOpen hput
      have hsent : s₁.sent = s.sent ++ q.encoding := by
        have hout := hall.output
        unfold Link.output at hout
        rw [hempty₁, hempty, List.append_nil, List.append_nil] at hout
        exact hout
      simp only at hrun
      have hsame := receive_sameOutput hopen q
      rw [hrun] at hsame
      have hatt' := hsame.attached hall.attached
      have hsent' : s'.sent = s.sent ++ q.encoding := hsame.sent.trans hsent
      refine ⟨⟨hatt'.connected, ?_, ?_⟩, ?_⟩
      · rw [hsent']
        exact List.prefix_append _ _
      · unfold Link.output
        rw [hempty, List.append_nil, hsent']
      · rintro v rfl
        have hread := receive_rest hopen hrun
        rw [hall.stream] at hread
        exact ⟨hatt', hsame.wBuf.trans hempty₁, hsent', hread⟩

/-! ## The calls on a connection -/

/-- A call of the client and how it came back. -/
abbrev ClientCall := Σ q : Request, Except Stop q.Result

/-- The calls that are made on a connection one after the other, up to one that fails. -/
inductive Calls : Link → List ClientCall → Link → Prop
  | nil (s : Link) : Calls s [] s
  | returned {s s₁ s' : Link} {q : Request} {v : q.Result} {cs : List ClientCall}
      (hrun : q.api s = (.ok v, s₁)) (hrest : Calls s₁ cs s') : Calls s (⟨q, .ok v⟩ :: cs) s'
  | failed {s s' : Link} {q : Request} {e : Stop} (hrun : q.api s = (.error e, s')) :
      Calls s [⟨q, .error e⟩] s'

/-- The results of the calls are read from the stream, one reply behind the other. -/
inductive Replied : Bytes → List ClientCall → Prop
  | nil (b : Bytes) : Replied b []
  | returned {b b' : Bytes} {q : Request} {v : q.Result} {cs : List ClientCall}
      (hreply : q.reply b = .done v b') (hrest : Replied b' cs) : Replied b (⟨q, .ok v⟩ :: cs)
  | failed (b : Bytes) (q : Request) (e : Stop) : Replied b [⟨q, .error e⟩]

theorem calls_runs {s s' : Link} {cs : List ClientCall} (h : Calls s cs s') (hatt : Attached s)
    (hempty : s.wBuf = []) :
    s.sent <+: s'.sent ∧ s'.sent <+: s.sent ++ cs.flatMap (fun c => c.1.encoding) ∧
      Replied s.stream cs := by
  induction h with
  | nil s => exact ⟨List.prefix_refl _, List.prefix_append _ _, .nil _⟩
  | @returned s s₁ s' q v cs hrun _ ih =>
    obtain ⟨hpart, hreturned⟩ := api_runs hatt hempty hrun
    obtain ⟨hatt₁, hempty₁, hsent, hread⟩ := hreturned v rfl
    obtain ⟨hbefore, hall, hreplied⟩ := ih hatt₁ hempty₁
    refine ⟨hpart.before.trans hbefore, ?_, .returned hread hreplied⟩
    rw [List.flatMap_cons, ← List.append_assoc, ← hsent]
    exact hall
  | @failed s s' q e hrun =>
    obtain ⟨hpart, -⟩ := api_runs hatt hempty hrun
    refine ⟨hpart.before, ?_, .failed _ _ _⟩
    have hsent := hpart.sent
    unfold Link.output at hsent
    rw [hempty, List.append_nil] at hsent
    simpa using hsent

/-! ## The replies in the stream of the client -/

open SelfServiceProcessor

/-- A reading that comes to its end does so with more steps and more bytes too. -/
theorem reads_of_reply {q : Request} {b b' : Bytes} {v : q.Result} (h : q.reply b = .done v b')
    (t : Bytes) (more : Nat) :
    (q.recv (b.length + 1 + more)).reads (b ++ t) = .done v (b' ++ t) := by
  have hmore := continues_recv (Nat.le_add_right _ more) q b (reply_finished q b)
  exact Prog.reads_append_done (hmore.trans h) t

theorem reply_nil (q : Request) : q.reply [] = .short := rfl

theorem Request.decodes_reply {q : Request} {v : q.apiForward.Result}
    (hfits : q.apiForward.success.fits v) (seqid : I32) :
    ∃ v', q.SameResult v v' ∧
      ∀ fuel, (encoded (replyWrite q.apiForward v seqid)).length < fuel →
        (q.recv fuel).Decodes (encoded (replyWrite q.apiForward v seqid)) v' := by
  cases q with
  | spool q =>
    obtain ⟨v', hsame, hdec⟩ := RemotePrinter.decodes_reply hfits seqid
    refine ⟨v', hsame, fun fuel hfuel => ?_⟩
    rw [← ApiForwardRequest.spool_recv]
    exact hdec fuel hfuel
  | usb q =>
    obtain ⟨v', hsame, hdec⟩ := RemotePrinter.decodes_reply hfits seqid
    refine ⟨v', hsame, fun fuel hfuel => ?_⟩
    rw [← ApiForwardRequest.usb_recv]
    exact hdec fuel hfuel

/-- What is read at the place of a reply is its result, and it is read to its end. -/
theorem reply_of_result {q : Request} {v : q.apiForward.Result}
    (hfits : q.apiForward.success.fits v) {seqid : I32} {b b' more : Bytes} {u : q.Result}
    (hb : b <+: encoded (replyWrite q.apiForward v seqid) ++ more) (h : q.reply b = .done u b') :
    q.SameResult v u ∧ b' <+: more := by
  obtain ⟨v', hsame, hdec⟩ := Request.decodes_reply hfits seqid
  obtain ⟨t, ht⟩ := hb
  have hread := reads_of_reply h t (encoded (replyWrite q.apiForward v seqid)).length
  rw [ht, hdec _ (by omega) more] at hread
  cases hread
  exact ⟨hsame, t, rfl⟩

/-- An exception is no result. -/
theorem reply_of_exception {q : Request} {fname message : Bytes} (hname : fname.length ≤ INT32_MAX)
    (hmessage : message.length ≤ INT32_MAX) {type seqid : I32} {b b' more : Bytes} {u : q.Result}
    (hb : b <+: encoded (exceptionWrite fname type message seqid) ++ more) :
    q.reply b ≠ .done u b' := by
  intro h
  obtain ⟨t, ht⟩ := hb
  have hread := reads_of_reply h t 2
  rw [ht] at hread
  have hfuel : 2 < b.length + 1 + 2 := by omega
  have hfailed : (q.recv (b.length + 1 + 2)).reads
      (encoded (exceptionWrite fname type message seqid) ++ more) =
        .failed (.TApplicationException type) more := by
    cases q with
    | spool q =>
      rw [← ApiForwardRequest.spool_recv]
      exact recv_exception (.spool q) hname hmessage type seqid hfuel more
    | usb q =>
      rw [← ApiForwardRequest.usb_recv]
      exact recv_exception (.usb q) hname hmessage type seqid hfuel more
  rw [hfailed] at hread
  cases hread

/-- The message of a call of the client. -/
def ClientCall.message (c : ClientCall) : Message := .call c.1.apiForward 0

/-- The handler's result for a call can be written. -/
def HandlerCall.Fits (h : HandlerCall) : Prop := ∀ v, h.2 = .ok v → h.1.success.fits v

/-- The results are those of the handler's calls, each of its own. -/
theorem replied_results {what : Bytes} (hwhat : what.length ≤ INT32_MAX) {b : Bytes}
    {cs : List ClientCall} (h : Replied b cs) {xs : List Exchange}
    (hmessages : xs.map Exchange.message <+: cs.map ClientCall.message)
    (hanswered : ∀ x ∈ xs.dropLast, ¬ x.Unanswerable what) (hb : b <+: replies what xs)
    (hfits : ∀ h ∈ xs.flatMap Exchange.handled, HandlerCall.Fits h) {i : Nat} {q : Request}
    {v : q.Result} (hi : cs[i]? = some ⟨q, .ok v⟩) :
    ∃ v', (xs.flatMap Exchange.handled)[i]? = some ⟨q.apiForward, .ok v'⟩ ∧
      q.SameResult v' v := by
  induction h generalizing xs i with
  | nil b => cases hi
  | failed b q' e =>
    cases i with
    | zero => cases hi
    | succ i => cases hi
  | @returned b b' q' v' cs hreply _ ih =>
    cases xs with
    | nil =>
      obtain rfl : b = [] := List.prefix_nil.mp hb
      rw [reply_nil] at hreply
      cases hreply
    | cons x xs =>
      rw [List.map_cons, List.map_cons, List.cons_prefix_cons] at hmessages
      obtain ⟨hx, hmessages⟩ := hmessages
      rw [replies_cons] at hb
      cases x with
      | unknown fname seqid => cases hx
      | call q'' seqid r =>
        cases hx
        rw [List.flatMap_cons] at hfits ⊢
        have hrest : ∀ h ∈ xs.flatMap Exchange.handled, HandlerCall.Fits h :=
          fun h hh => hfits h (List.mem_append_right _ hh)
        cases r with
        | ok success =>
          have hfit := hfits ⟨q'.apiForward, .ok success⟩ List.mem_cons_self success rfl
          obtain ⟨hsame, hb'⟩ := reply_of_result hfit hb hreply
          have hanswered' : ∀ x ∈ xs.dropLast, ¬ x.Unanswerable what := by
            cases xs with
            | nil => simp
            | cons y ys =>
              rw [List.dropLast_cons_cons] at hanswered
              exact fun x hx => hanswered x (List.mem_cons_of_mem _ hx)
          cases i with
          | zero =>
            cases hi
            exact ⟨success, rfl, hsame⟩
          | succ i => exact ih hmessages hanswered' hb' hrest hi
        | error a =>
          by_cases hlength : a = .length_error
          · subst hlength
            exact absurd hreply (reply_of_exception (SelfService.name_length _) hwhat hb)
          · -- The handler has ended the server, so that there is no reply behind it.
            have haborts : (Exchange.call q'.apiForward 0 (.error a)).Unanswerable what :=
              Or.inl ⟨_, _, a, rfl, hlength⟩
            obtain rfl : xs = [] := by
              cases xs with
              | nil => rfl
              | cons y ys =>
                rw [List.dropLast_cons_cons] at hanswered
                exact absurd haborts (hanswered _ List.mem_cons_self)
            have hnone : b <+: [] := by
              cases a <;> first | exact hb | exact absurd rfl hlength
            obtain rfl := List.prefix_nil.mp hnone
            rw [reply_nil] at hreply
            cases hreply

/-! ## Both sides -/

/-- The bytes of a call's request, and the message in them. -/
def ClientCall.part (c : ClientCall) : Bytes × Message := (c.1.encoding, c.message)

theorem parts_encode {cs : List ClientCall} (hshort : ∀ c ∈ cs, c.1.Short) :
    ∀ part ∈ cs.map ClientCall.part, part.2.Encodes part.1 := by
  intro part hpart
  obtain ⟨c, hc, rfl⟩ := List.mem_map.mp hpart
  obtain ⟨q', hsame, hencodes⟩ := decodes_request (Request.fits_apiForward (hshort c hc)) 0
  rw [Request.eq_of_same hsame, Request.messageWrite_apiForward] at hencodes
  exact hencodes

theorem parts_bytes (cs : List ClientCall) :
    (cs.map ClientCall.part).flatMap Prod.fst = cs.flatMap fun c => c.1.encoding := by
  rw [List.flatMap_map]
  rfl

theorem parts_messages (cs : List ClientCall) :
    (cs.map ClientCall.part).map Prod.snd = cs.map ClientCall.message := by
  rw [List.map_map]
  rfl

/-- The messages of the client's requests that have come as a whole. -/
theorem messages_of_calls {cs : List ClientCall} (hshort : ∀ c ∈ cs, c.1.Short) {stream : Bytes}
    (hs : stream <+: cs.flatMap fun c => c.1.encoding) {fuel : Nat} (hfuel : stream.length < fuel) :
    messages fuel fuel stream <+: cs.map ClientCall.message := by
  rw [← parts_bytes] at hs
  obtain ⟨whole, more, tail, hsplit, -, -, hvalues⟩ :=
    messages_of_parts (parts_encode hshort) hs hfuel
  rw [hvalues, ← parts_messages, hsplit, List.map_append]
  exact List.prefix_append _ _

/-- A stream with all the requests has all their messages. -/
theorem messages_of_all_calls {cs : List ClientCall} (hshort : ∀ c ∈ cs, c.1.Short) {fuel : Nat}
    (hfuel : (cs.flatMap fun c => c.1.encoding).length < fuel) :
    messages fuel fuel (cs.flatMap fun c => c.1.encoding) = cs.map ClientCall.message := by
  rw [← parts_bytes] at hfuel ⊢
  obtain ⟨whole, more, tail, hsplit, htail, hcut, hvalues⟩ :=
    messages_of_parts (parts_encode hshort) (List.prefix_refl _) hfuel
  have hnone : more = [] := by
    cases more with
    | nil => rfl
    | cons part more =>
      have hlong := hcut part rfl
      rw [hsplit, List.flatMap_append, List.append_cancel_left_eq, List.flatMap_cons] at htail
      rw [← htail, List.length_append] at hlong
      omega
  rw [hvalues, ← parts_messages, hsplit, hnone, List.append_nil]

/-- The exchanges of calls: each has called the handler once. -/
theorem handled_requests {xs : List Exchange} {cs : List ClientCall}
    (h : xs.map Exchange.message <+: cs.map ClientCall.message) :
    (xs.flatMap Exchange.handled).map Sigma.fst <+: cs.map fun c => c.1.apiForward := by
  induction xs generalizing cs with
  | nil => exact List.nil_prefix
  | cons x xs ih =>
    cases cs with
    | nil => cases List.prefix_nil.mp h
    | cons c cs =>
      rw [List.map_cons, List.map_cons, List.cons_prefix_cons] at h
      cases x with
      | unknown fname seqid => cases h.1
      | call q seqid r =>
        obtain ⟨rfl, rfl⟩ := Message.call.inj h.1
        exact List.cons_prefix_cons.mpr ⟨rfl, ih h.2⟩

/-- A client and the thread that serves its connection. Each side receives some first part of what
the network has taken from the other. -/
theorem calls_results {σ : Type}
    {handler : σ → (q : ApiForwardRequest) → Except HandlerAbort q.Result → σ → Prop}
    {what : Bytes} (hwhat : what.length ≤ INT32_MAX) {c c' : Link} {cs : List ClientCall}
    (hcatt : Attached c) (hcnew : c.output = []) (hclient : Calls c cs c')
    (hshort : ∀ call ∈ cs, call.1.Short) {s s' : Link} {w w' : σ} {fuel : Nat}
    {tr : List (Obs TaskOp TaskOp.Answer Unit)} {r : Except Outage Unit}
    (hsatt : Attached s) (hsnew : s.output = []) (hfuel : s.stream.length < fuel)
    (hserver : (TThreadedServer.Task.run what fuel).RunsIn (taskEnv handler) (s, w) tr r (s', w'))
    (hfits : ∀ h ∈ calls tr, (∃ q : Request, h.1 = q.apiForward) → HandlerCall.Fits h)
    (hup : s.stream <+: c'.sent) (hdown : c.stream <+: s'.sent) :
    (calls tr).map Sigma.fst <+: cs.map (fun call => call.1.apiForward) ∧
      ∀ (i : Nat) (q : Request) (v : q.Result), cs[i]? = some ⟨q, .ok v⟩ →
        ∃ v', (calls tr)[i]? = some ⟨q.apiForward, .ok v'⟩ ∧ q.SameResult v' v := by
  obtain ⟨hcsent, hcbuf⟩ := List.append_eq_nil_iff.mp hcnew
  obtain ⟨hssent, hsbuf⟩ := List.append_eq_nil_iff.mp hsnew
  obtain ⟨-, hsent, hreplied⟩ := calls_runs hclient hcatt hcbuf
  rw [hcsent, List.nil_append] at hsent
  have hstream := hup.trans hsent
  obtain ⟨⟨xs, session⟩, -⟩ := run_runs hsatt hsbuf hfuel hserver
  have hmessages := session.taken.trans (messages_of_calls hshort hstream hfuel)
  have hreplies := hdown.trans session.sent
  rw [hssent, List.nil_append] at hreplies
  rw [session.handled] at hfits ⊢
  have hrequests := handled_requests hmessages
  have hall : ∀ h ∈ xs.flatMap Exchange.handled, HandlerCall.Fits h := by
    intro h hh
    refine hfits h hh ?_
    obtain ⟨call, -, hcall⟩ := List.mem_map.mp (hrequests.subset (List.mem_map_of_mem hh))
    exact ⟨call.1, hcall.symm⟩
  exact ⟨hrequests, fun i q v hi =>
    replied_results hwhat hreplied hmessages session.answered hreplies hall hi⟩

end RemotePrinter
