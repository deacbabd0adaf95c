-- The server with all its connections: `TThreadedServer` starts a thread for
-- each, and the threads share the handler. In every order in which they take
-- turns each connection is answered as if it were alone, and a client's call
-- has the result of its own handler.
import RemotePrinter.Lanes
import RemotePrinter.RemoteCalls

open Interactive

namespace RemotePrinter

/-! ## The server -/

/-- The transports of a connection are new, and its thread starts with `run`. The steps of the
loops are enough for the stream. -/
def Accepted (what : Bytes) (s : Link) (p : ServerTask Unit) : Prop :=
  Attached s ∧ s.output = [] ∧ ∃ fuel, s.stream.length < fuel ∧
    p = TThreadedServer.Task.run what fuel

/-- An access violation ends the process, with all threads. -/
def EndsServer (o : Outage) : Prop := ∃ a, o = .aborted a

abbrev TThreadedServer (ι σ : Type) := Lanes ι TaskOp TaskOp.Answer Outage Unit Link σ

abbrev TThreadedServerEvent (ι : Type) := LaneEvent ι TaskOp TaskOp.Answer Outage Unit Link Unit

def TThreadedServer.Step {ι σ : Type} [DecidableEq ι] (what : Bytes)
    (handler : σ → (q : ApiForwardRequest) → Except HandlerAbort q.Result → σ → Prop) :
    TThreadedServer ι σ → TThreadedServerEvent ι → TThreadedServer ι σ → Prop :=
  Lanes.Step (taskEnv handler) (Accepted what) EndsServer

section
variable {ι σ : Type} [DecidableEq ι]
  {handler : σ → (q : ApiForwardRequest) → Except HandlerAbort q.Result → σ → Prop}

/-- What one thread sees of the handler. -/
def anyState (handler : σ → (q : ApiForwardRequest) → Except HandlerAbort q.Result → σ → Prop) :
    Unit → (q : ApiForwardRequest) → Except HandlerAbort q.Result → Unit → Prop :=
  fun _ q r _ => ∃ w w', handler w q r w'

theorem taskEnv_alone {s s' : Link × Unit} {e : TaskOp} {a : e.Answer}
    (h : Lanes.alone (taskEnv handler) s e a () s') : taskEnv (anyState handler) s e a () s' := by
  obtain ⟨s, ⟨⟩⟩ := s
  obtain ⟨s', ⟨⟩⟩ := s'
  obtain ⟨w, w', h⟩ := h
  cases e with
  | call q => exact ⟨⟨w, w', h.1⟩, h.2⟩
  | readAll len => exact ⟨h.1, rfl⟩
  | peek => exact ⟨h.1, rfl⟩
  | write buf => exact ⟨h.1, rfl⟩
  | flush => exact ⟨h.1, rfl⟩
  | closeInput => exact ⟨h.1, rfl⟩
  | closeOutput => exact ⟨h.1, rfl⟩

/-- A connection whose thread has ended was served by a run of its own. -/
theorem connection_runs {what : Bytes} {S S' : TThreadedServer ι σ}
    {es : List (TThreadedServerEvent ι)} (hidle : S.Idle)
    (run : Run (TThreadedServer.Step what handler) S es S') {i : ι} {s' : Link}
    {p' : ServerTask Unit} (hi : S'.lanes i = some (s', p')) {r : Except Outage Unit}
    (hended : p'.ended = some r) :
    ∃ s p fuel, .started i s p ∈ es ∧ Attached s ∧ s.output = [] ∧ s.stream.length < fuel ∧
      (TThreadedServer.Task.run what fuel).RunsIn (taskEnv (anyState handler)) (s, ())
        (Lanes.ops i es) r (s', ()) := by
  obtain ⟨s, p, hmem, ⟨hatt, hnew, fuel, hfuel, rfl⟩, hrun⟩ :=
    Lanes.ops_runsIn hidle run hi hended
  exact ⟨s, _, fuel, hmem, hatt, hnew, hfuel, hrun.mono fun s e a l s' h => taskEnv_alone h⟩

end

/-! ## The handlers of the server -/

/-- What the handler of a request can come to, whatever Windows and the libraries answer. -/
def servedBy (w : PtrWidth) (fp : Proc → Bool) :
    Unit → (q : ApiForwardRequest) → Except HandlerAbort q.Result → Unit → Prop :=
  fun _ q r _ => ∃ tr, (serve w fp q).RunsIn (answersAnything w) () tr r ()

theorem fits_set {T : Type} {val : Scalar T} {m : StdMap T} (h : (Codec.map val).fits m)
    (hlen : m.length < INT32_MAX) {name : Bytes} (hname : name.length ≤ INT32_MAX) {value : T}
    (hvalue : val.fits value) : (Codec.map val).fits (m.set name value) := by
  obtain ⟨hkeyed, -, hentries⟩ := h
  have hle : (m.filter fun e => e.1 != name).length ≤ m.length := List.length_filter_le _ _
  refine ⟨StdMap.keyed_set hkeyed name value, ?_, ?_⟩
  · unfold StdMap.set
    rw [List.length_cons]
    omega
  · intro e he
    rcases List.mem_cons.mp he with rfl | he
    · exact ⟨hname, hvalue⟩
    · exact hentries e (List.mem_filter.mp he).1

theorem fits_nil {T : Type} (val : Scalar T) : (Codec.map val).fits [] :=
  ⟨List.nodup_nil, Nat.zero_le _, by simp⟩

theorem kReturn_length : kReturn.length ≤ INT32_MAX := by simp [kReturn, ascii, INT32_MAX]

theorem fits_failed {T : Type} (val : Scalar T) {failed : T} (hfailed : val.fits failed) :
    (Codec.map val).fits (StdMap.set [] kReturn failed) :=
  fits_set (fits_nil val) (by simp [INT32_MAX]) kReturn_length hfailed

/-- A map with `return` and one more entry. -/
theorem fits_return {T : Type} (val : Scalar T) {name : Bytes} (hname : name.length ≤ INT32_MAX)
    {failed ok value : T} (hfailed : val.fits failed) (hok : val.fits ok)
    (hvalue : val.fits value) :
    (Codec.map val).fits (((StdMap.set [] kReturn failed).set kReturn ok).set name value) := by
  refine fits_set (fits_set (fits_failed val hfailed) ?_ kReturn_length hok) ?_ hname hvalue
  · simp [StdMap.set, INT32_MAX]
  · simp [StdMap.set, INT32_MAX]

theorem kPhPrinter_length : kPhPrinter.length ≤ INT32_MAX := by
  simp [kPhPrinter, ascii, INT32_MAX]

theorem kPcWritten_length : kPcWritten.length ≤ INT32_MAX := by
  simp [kPcWritten, ascii, INT32_MAX]

theorem packOpen_fits {w : PtrWidth} (r : OpenRet (HANDLE w)) :
    (Codec.map .i64).fits (ApiForwardHandler.packOpen r) := by
  unfold ApiForwardHandler.packOpen
  split
  · exact fits_return .i64 kPhPrinter_length trivial trivial trivial
  · exact fits_failed .i64 trivial

theorem failure_fits (q : SpoolRequest) : (ApiForwardRequest.spool q).success.fits q.failure := by
  cases q with
  | OpenPrinterA name e dt dm acc => exact fits_failed .i64 trivial
  | OpenPrinterW name e dt dm acc => exact fits_failed .i64 trivial
  | WritePrinter h b n => exact fits_failed .i32 trivial
  | _ => trivial

theorem pack_fits {w : PtrWidth} (q : SpoolRequest) (r : (q.original w).Ret) :
    (ApiForwardRequest.spool q).success.fits (q.pack w r) := by
  cases q with
  | OpenPrinterA name e dt dm acc => exact packOpen_fits r
  | OpenPrinterW name e dt dm acc => exact packOpen_fits r
  | WritePrinter h b n =>
    rw [SpoolRequest.pack]
    split
    · exact fits_return .i32 kPcWritten_length trivial trivial trivial
    · exact fits_failed .i32 trivial
  | _ => trivial

/-- The results for the requests of the client are not too long to be written. -/
theorem servedBy_fits {w : PtrWidth} {fp : Proc → Bool} {q : Request}
    {r : Except HandlerAbort q.apiForward.Result} (h : servedBy w fp () q.apiForward r ()) :
    HandlerCall.Fits ⟨q.apiForward, r⟩ := by
  intro v hv
  cases q with
  | usb q => trivial
  | spool q =>
    obtain ⟨tr, hrun⟩ := h
    have hensures : (serve w fp (.spool q)).Ensures (fun _ => True)
        fun r => ∀ v, r = .ok v → (ApiForwardRequest.spool q).success.fits v := by
      apply Prog.Ensures.embed
      rw [ApiForwardHandler.handle_eq]
      unfold ApiForwardHandler.guarded ApiForwardHandler.callOriginal
      split_ifs
      · rw [Prog.perform_bind, Prog.ensures_call]
        refine ⟨trivial, fun a v hv => ?_⟩
        cases hv
        exact pack_fits q a
      · intro v hv
        cases hv
      · intro v hv
        cases hv
        exact failure_fits q
    exact hensures.runsIn hrun v hv

/-- The calls of the handler in a run are some that it can come to. -/
theorem calls_handled {σ : Type}
    {handler : σ → (q : ApiForwardRequest) → Except HandlerAbort q.Result → σ → Prop}
    {α : Type} {p : ServerTask α} {s s' : Link × σ} {tr : List (Obs TaskOp TaskOp.Answer Unit)}
    {r : Except Outage α} (h : p.RunsIn (taskEnv handler) s tr r s') :
    ∀ c ∈ calls tr, ∃ w w', handler w c.1 c.2 w' := by
  have hobs := h.forall_obs
    (P := fun o => ∀ c, c ∈ calls [o] → ∃ w w', handler w c.1 c.2 w') (by
      rintro ⟨s, w⟩ e a l ⟨s', w'⟩ henv c hc
      cases e with
      | call q =>
        obtain rfl := List.mem_singleton.mp hc
        exact ⟨w, w', henv.1⟩
      | _ => cases hc)
  intro c hc
  obtain ⟨o, ho, hco⟩ := List.mem_filterMap.mp hc
  exact hobs o ho c (List.mem_filterMap.mpr ⟨o, List.mem_singleton_self o, hco⟩)

/-! ## Two clients

The runs of the examples below are computed: one client ends a document and begins another, the
other client starts a page and ends it, and both connections are open at once. -/

abbrev endDoc : Request := .spool (.EndDocPrinter 1)

abbrev startDoc : Request := .spool (.StartDocPrinterW 1 1 [65, 0] [] [])

abbrev startPage : Request := .spool (.StartPagePrinter 2)

abbrev endPage : Request := .spool (.EndPagePrinter 2)

/-- What the handler answers. The end of the page fails. -/
def pageAnswers : (q : ApiForwardRequest) → Except HandlerAbort q.Result
  | .spool (.StartDocPrinterW ..) => .ok (5 : I32)
  | .spool (.StartPagePrinter _) => .ok true
  | .spool (.EndPagePrinter _) => .ok false
  | .spool (.EndDocPrinter _) => .ok true
  | _ => .error .length_error

def onPages : ApiForwardRequest → Bool
  | .spool (.StartDocPrinterW ..) => true
  | .spool (.StartPagePrinter _) => true
  | .spool (.EndPagePrinter _) => true
  | .spool (.EndDocPrinter _) => true
  | _ => false

theorem servedBy_pages (w : PtrWidth) (q : ApiForwardRequest) (h : onPages q = true) :
    servedBy w (fun _ => true) () q (pageAnswers q) () := by
  cases q with
  | spool q =>
    cases q with
    | StartDocPrinterW => exact ⟨_, (5 : DWORD), (), (), [], trivial, rfl, rfl, rfl, rfl⟩
    | StartPagePrinter x => exact ⟨_, (1 : BOOL), (), (), [], trivial, rfl, rfl, rfl, rfl⟩
    | EndPagePrinter x => exact ⟨_, (0 : BOOL), (), (), [], trivial, rfl, rfl, rfl, rfl⟩
    | EndDocPrinter x => exact ⟨_, (1 : BOOL), (), (), [], trivial, rfl, rfl, rfl, rfl⟩
    | _ => cases h
  | _ => cases h

def pagesServed (b : Bytes) :
    List (Obs TaskOp TaskOp.Answer Unit) × Except Outage Unit × (Link × Unit) :=
  (TThreadedServer.Task.run [] 256).trace (taskAct pageAnswers) (linkWith b, ())

/-- The thread of such a connection has steps enough, calls no other handler and ends by itself. -/
def ServedWhole (b : Bytes) : Prop :=
  (linkWith b).stream.length < 256 ∧
    ((pagesServed b).1.all fun o => callsOnly onPages o.op) = true ∧
    (pagesServed b).2.1.toBool = true

instance (b : Bytes) : Decidable (ServedWhole b) := inferInstanceAs (Decidable (_ ∧ _ ∧ _))

theorem pagesServed_runsIn {b : Bytes} (h : ServedWhole b)
    {handler : Unit → (q : ApiForwardRequest) → Except HandlerAbort q.Result → Unit → Prop}
    (hhandler : ∀ q, onPages q = true → handler () q (pageAnswers q) ()) :
    (TThreadedServer.Task.run [] 256).RunsIn (taskEnv handler) (linkWith b, ()) (pagesServed b).1
      (pagesServed b).2.1 ((pagesServed b).2.2.1, ()) :=
  Prog.trace_runsIn (taskAct_env hhandler) _ _ h.2.1

/-- A run of the server with two connections, both served to their ends. -/
def ServedTogether (w : PtrWidth) (stream : Bool → Bytes)
    (es : List (TThreadedServerEvent Bool)) : Prop :=
  ∃ (S S' : TThreadedServer Bool Unit) (p : Bool → ServerTask Unit), S.Idle ∧
    Run (TThreadedServer.Step [] (servedBy w fun _ => true)) S es S' ∧
    (∀ i, S'.lanes i = some ((pagesServed (stream i)).2.2.1, p i) ∧
      (p i).ended = some (pagesServed (stream i)).2.1) ∧
    ∀ i s p, .started i s p ∈ es → s = linkWith (stream i)

theorem two_connections (w : PtrWidth) {stream : Bool → Bytes} (h : ∀ i, ServedWhole (stream i)) :
    ∃ es, ServedTogether w stream es := by
  have hidle : ({ shared := (), lanes := fun _ => none } : TThreadedServer Bool Unit).Idle :=
    fun _ => rfl
  have haccepted (i : Bool) :
      Accepted [] (linkWith (stream i)) (TThreadedServer.Task.run [] 256) :=
    ⟨linkWith_attached _, rfl, 256, (h i).1, rfl⟩
  have hends (i : Bool) : ∀ o, (pagesServed (stream i)).2.1 = .error o → ¬ EndsServer o := by
    intro o ho
    have hok := (h i).2.2
    rw [ho] at hok
    cases hok
  have hruns (i : Bool) := pagesServed_runsIn (h i) (servedBy_pages w)
  obtain ⟨S', p₁, p₂, hrun, h₁, h₂⟩ : ∃ S' p₁ p₂,
      Run (TThreadedServer.Step [] (servedBy w fun _ => true)) _ (_ :: _ :: (_ ++ _)) S' ∧ _ ∧ _ :=
    Lanes.run_two hidle Bool.false_ne_true (haccepted false) (haccepted true) (hruns false)
      (hends false) (hruns true) (hends true)
  refine ⟨_, _, S', fun i => if i then p₂ else p₁, hidle, hrun, ?_, ?_⟩
  · rintro (_ | _)
    · exact h₁
    · exact h₂
  · intro i s p hmem
    rcases List.mem_cons.mp hmem with h | hmem
    · cases h
      rfl
    · rcases List.mem_cons.mp hmem with h | hmem
      · cases h
        rfl
      · rcases List.mem_append.mp hmem with h | h
        · obtain ⟨o, -, ho⟩ := List.mem_map.mp h
          cases ho
        · obtain ⟨o, -, ho⟩ := List.mem_map.mp h
          cases ho

/-- What the two clients ask. -/
def pageCalls : Bool → List ClientCall
  | false => [⟨endDoc, .ok true⟩, ⟨startDoc, .ok (5 : I32)⟩]
  | true => [⟨startPage, .ok true⟩, ⟨endPage, .ok false⟩]

def pageStream (i : Bool) : Bytes := (pageCalls i).flatMap fun c => c.1.encoding

theorem pageStream_served (i : Bool) : ServedWhole (pageStream i) := by
  cases i <;> decide +kernel

theorem linkWith_pageStream (i : Bool) : (linkWith (pageStream i)).stream = pageStream i := by
  cases i <;> decide +kernel

theorem pageCalls_short (i : Bool) : ∀ call ∈ pageCalls i, call.1.Short := by
  cases i <;> simp [pageCalls, startDoc, startPage, endPage, endDoc, Request.Short, Request.args,
    INT32_MAX]

/-- What the server sends to them. -/
def pageReplies : Bool → Bytes
  | false => encoded (SelfServiceProcessor.replyWrite endDoc.apiForward true 0) ++
      encoded (SelfServiceProcessor.replyWrite startDoc.apiForward (5 : I32) 0)
  | true => encoded (SelfServiceProcessor.replyWrite startPage.apiForward true 0) ++
      encoded (SelfServiceProcessor.replyWrite endPage.apiForward false 0)

theorem pagesServed_sent (i : Bool) :
    (pagesServed (pageStream i)).2.2.1.sent = pageReplies i := by
  cases i <;> decide +kernel

theorem linkWith_pageReplies (i : Bool) : (linkWith (pageReplies i)).stream = pageReplies i := by
  cases i <;> decide +kernel

/-- Two calls that return. -/
theorem calls_two {s : Link} (q₁ q₂ : Request) {v₁ : q₁.Result} {v₂ : q₂.Result}
    (h₁ : (q₁.api s).1.toOption = some v₁)
    (h₂ : (q₂.api (q₁.api s).2).1.toOption = some v₂) :
    Calls s [⟨q₁, .ok v₁⟩, ⟨q₂, .ok v₂⟩] (q₂.api (q₁.api s).2).2 := by
  have hok {q : Request} {s : Link} {v : q.Result} (h : (q.api s).1.toOption = some v) :
      q.api s = (.ok v, (q.api s).2) := by
    generalize q.api s = out at h ⊢
    obtain ⟨r, s'⟩ := out
    cases r with
    | error e => cases h
    | ok u =>
      cases h
      rfl
  exact .returned (hok h₁) (.returned (hok h₂) (.nil _))

theorem pageClient (i : Bool) :
    ∃ c', Calls (linkWith (pageReplies i)) (pageCalls i) c' ∧ c'.sent = pageStream i := by
  cases i with
  | false =>
    refine ⟨_, calls_two endDoc startDoc ?_ ?_, ?_⟩ <;> decide +kernel
  | true =>
    refine ⟨_, calls_two startPage endPage ?_ ?_, ?_⟩ <;> decide +kernel

/-! ## In every order of the threads -/

section
variable {ι : Type} [DecidableEq ι]

/-- Every connection that was served to its end, whatever bytes came, however reads and writes have
failed and however the threads took turns: a first part of the messages of its stream was taken, in
their order, and all but the last of these were answered. There are more just if the last one's
reply was not to be sent. The thread had steps enough. -/
theorem every_connection_is_answered_as_if_it_were_alone {σ : Type}
    {handler : σ → (q : ApiForwardRequest) → Except HandlerAbort q.Result → σ → Prop}
    {what : Bytes} {S S' : TThreadedServer ι σ} {es : List (TThreadedServerEvent ι)}
    (hidle : S.Idle) (run : Run (TThreadedServer.Step what handler) S es S') {i : ι} {s' : Link}
    {p' : ServerTask Unit} (hi : S'.lanes i = some (s', p')) {r : Except Outage Unit}
    (hended : p'.ended = some r) :
    ∃ s p steps xs, .started i s p ∈ es ∧ s.stream.length < steps ∧
      Session what (messages steps steps s.stream) s s' (calls (Lanes.ops i es)) xs ∧
      r ≠ .error .unfinished := by
  obtain ⟨s, p, fuel, hmem, hatt, hnew, hfuel, hrun⟩ := connection_runs hidle run hi hended
  obtain ⟨⟨xs, session⟩, hfinished⟩ :=
    run_runs hatt (List.append_eq_nil_iff.mp hnew).2 hfuel hrun
  exact ⟨s, p, fuel, xs, hmem, hfuel, session, hfinished⟩

/-- The two connections at once. Each has the messages of its client. -/
theorem two_clients_are_answered_as_if_they_were_alone :
    ∃ (es : List (TThreadedServerEvent Bool)) (s' : Bool → Link) (xs : Bool → List Exchange),
      ServedTogether .x64 pageStream es ∧ ∀ i, Session [] ((pageCalls i).map ClientCall.message)
        (linkWith (pageStream i)) (s' i) (calls (Lanes.ops i es)) (xs i) := by
  obtain ⟨es, htogether⟩ := two_connections .x64 pageStream_served
  have ⟨S, S', p', hidle, hrun, hlanes, hlink⟩ := htogether
  have hsession (i : Bool) : ∃ xs, Session [] ((pageCalls i).map ClientCall.message)
      (linkWith (pageStream i)) (pagesServed (pageStream i)).2.2.1 (calls (Lanes.ops i es)) xs := by
    obtain ⟨s, p, steps, xs, hmem, hsteps, session, -⟩ :=
      every_connection_is_answered_as_if_it_were_alone hidle hrun (hlanes i).1 (hlanes i).2
    obtain rfl := hlink i s p hmem
    rw [linkWith_pageStream] at hsteps session
    rw [pageStream, messages_of_all_calls (pageCalls_short i) hsteps] at session
    exact ⟨xs, session⟩
  choose xs h using hsession
  exact ⟨es, _, xs, htogether, h⟩

/-- A client and one of the connections of the server, whatever the network does: each side
receives some first part of what the network has taken from the other. The handler is called for
the client's requests in their order and for each once at most, and a call that returns has the
result that the handler gave for it. -/
theorem a_call_returns_what_its_own_handler_gave {w : PtrWidth} {fp : Proc → Bool} {what : Bytes}
    (hwhat : what.length ≤ INT32_MAX) {S S' : TThreadedServer ι Unit}
    {es : List (TThreadedServerEvent ι)} (hidle : S.Idle)
    (run : Run (TThreadedServer.Step what (servedBy w fp)) S es S') {i : ι} {s' : Link}
    {p' : ServerTask Unit} (hi : S'.lanes i = some (s', p')) (hended : p'.ended ≠ none) :
    ∃ s p, .started i s p ∈ es ∧
      ∀ c cs c', Attached c → c.output = [] → Calls c cs c' → (∀ call ∈ cs, call.1.Short) →
        s.stream <+: c'.sent → c.stream <+: s'.sent →
        (calls (Lanes.ops i es)).map Sigma.fst <+: cs.map (fun call => call.1.apiForward) ∧
          ∀ (k : Nat) (q : Request) (v : q.Result), cs[k]? = some ⟨q, .ok v⟩ →
            ∃ v', (calls (Lanes.ops i es))[k]? = some ⟨q.apiForward, .ok v'⟩ ∧
              q.SameResult v' v := by
  obtain ⟨r, hr⟩ := Option.ne_none_iff_exists'.mp hended
  obtain ⟨s, p, fuel, hmem, hatt, hnew, hfuel, hrun⟩ := connection_runs hidle run hi hr
  refine ⟨s, p, hmem, fun c cs c' hcatt hcnew hclient hshort hup hdown => ?_⟩
  refine calls_results hwhat hcatt hcnew hclient hshort hatt hnew hfuel hrun ?_ hup hdown
  rintro ⟨q', r'⟩ hcall ⟨q, hq⟩
  obtain ⟨_, _, _, _, hhandled⟩ := calls_handled hrun _ hcall
  obtain rfl : q' = q.apiForward := hq
  exact servedBy_fits hhandled

/-- The calls of both clients return what the handler gave for them. -/
theorem the_calls_of_two_clients_return :
    ∃ es : List (TThreadedServerEvent Bool), ServedTogether .x64 pageStream es ∧
      (∃ v, (calls (Lanes.ops false es))[0]? = some ⟨endDoc.apiForward, .ok v⟩ ∧
        endDoc.SameResult v true) ∧
      (∃ v, (calls (Lanes.ops false es))[1]? = some ⟨startDoc.apiForward, .ok v⟩ ∧
        startDoc.SameResult v (5 : I32)) ∧
      (∃ v, (calls (Lanes.ops true es))[0]? = some ⟨startPage.apiForward, .ok v⟩ ∧
        startPage.SameResult v true) ∧
      ∃ v, (calls (Lanes.ops true es))[1]? = some ⟨endPage.apiForward, .ok v⟩ ∧
        endPage.SameResult v false := by
  obtain ⟨es, htogether⟩ := two_connections .x64 pageStream_served
  have ⟨S, S', p', hidle, hrun, hlanes, hlink⟩ := htogether
  have hresults (i : Bool) (k : Nat) (q : Request) (v : q.Result)
      (hk : (pageCalls i)[k]? = some ⟨q, .ok v⟩) :
      ∃ v', (calls (Lanes.ops i es))[k]? = some ⟨q.apiForward, .ok v'⟩ ∧ q.SameResult v' v := by
    obtain ⟨s, p, hmem, hall⟩ := a_call_returns_what_its_own_handler_gave (by simp) hidle hrun
      (hlanes i).1 (by simp [hlanes i])
    obtain rfl := hlink i s p hmem
    obtain ⟨c', hclient, hsent⟩ := pageClient i
    refine (hall _ _ c' (linkWith_attached _) rfl hclient (pageCalls_short i) ?_ ?_).2 k q v hk
    · rw [linkWith_pageStream, hsent]
    · rw [linkWith_pageReplies, pagesServed_sent]
  exact ⟨es, htogether, hresults false 0 endDoc _ rfl, hresults false 1 startDoc _ rfl,
    hresults true 0 startPage _ rfl, hresults true 1 endPage _ rfl⟩

/-- Every connection whose stream is a part of messages, cut anywhere: what is left behind those
that have come as a whole is less than one, and only these are carried out, each at most once, in
their order and all of them if the replies can be sent. -/
theorem a_cut_connection_carries_out_its_whole_messages {σ : Type}
    {handler : σ → (q : ApiForwardRequest) → Except HandlerAbort q.Result → σ → Prop}
    {what : Bytes} {S S' : TThreadedServer ι σ} {es : List (TThreadedServerEvent ι)}
    (hidle : S.Idle) (run : Run (TThreadedServer.Step what handler) S es S') {i : ι} {s' : Link}
    {p' : ServerTask Unit} (hi : S'.lanes i = some (s', p')) (hended : p'.ended ≠ none) :
    ∃ s p, .started i s p ∈ es ∧
      ∀ parts : List (Bytes × Message), (∀ part ∈ parts, part.2.Encodes part.1) →
        s.stream <+: parts.flatMap Prod.fst →
        ∃ whole more tail xs, parts = whole ++ more ∧ s.stream = whole.flatMap Prod.fst ++ tail ∧
          (∀ part ∈ more.head?, tail.length < part.1.length) ∧
          Session what (whole.map Prod.snd) s s' (calls (Lanes.ops i es)) xs := by
  obtain ⟨r, hr⟩ := Option.ne_none_iff_exists'.mp hended
  obtain ⟨s, p, fuel, hmem, hatt, hnew, hfuel, hrun⟩ := connection_runs hidle run hi hr
  refine ⟨s, p, hmem, fun parts hparts hs => ?_⟩
  obtain ⟨⟨xs, session⟩, -⟩ := run_runs hatt (List.append_eq_nil_iff.mp hnew).2 hfuel hrun
  obtain ⟨whole, more, tail, hsplit, htail, hcut, hvalues⟩ := messages_of_parts hparts hs hfuel
  rw [hvalues] at session
  exact ⟨whole, more, tail, xs, hsplit, htail, hcut, session⟩

/-- The streams, cut in the second message: within the name of the document, and within the length
of the method's name. -/
def cutStream : Bool → Bytes
  | false => endDoc.encoding ++ startDoc.encoding.take 54
  | true => startPage.encoding ++ endPage.encoding.take 6

theorem cutStream_served (i : Bool) : ServedWhole (cutStream i) := by
  cases i <;> decide +kernel

theorem linkWith_cutStream (i : Bool) : (linkWith (cutStream i)).stream = cutStream i := by
  cases i <;> decide +kernel

theorem cutStream_prefix (i : Bool) : cutStream i <+: pageStream i := by
  cases i <;> decide +kernel

/-- What is whole of two messages, if the stream ends in the second. -/
theorem whole_of_two {a b : Bytes × Message} {whole more : List (Bytes × Message)}
    {stream tail : Bytes} (hsplit : [a, b] = whole ++ more)
    (hstream : stream = whole.flatMap Prod.fst ++ tail)
    (hcut : ∀ part ∈ more.head?, tail.length < part.1.length)
    (hfirst : a.1.length ≤ stream.length) (hsecond : stream.length < a.1.length + b.1.length) :
    whole = [a] := by
  cases whole with
  | nil =>
    obtain rfl : [a, b] = more := hsplit
    have hlong := hcut a rfl
    rw [List.flatMap_nil, List.nil_append] at hstream
    rw [← hstream] at hlong
    omega
  | cons c whole =>
    rw [List.cons_append, List.cons.injEq] at hsplit
    obtain ⟨rfl, hsplit⟩ := hsplit
    cases whole with
    | nil => rfl
    | cons d whole =>
      rw [List.cons_append, List.cons.injEq] at hsplit
      obtain ⟨rfl, -⟩ := hsplit
      rw [hstream] at hsecond
      simp only [List.flatMap_cons, List.length_append] at hsecond
      omega

/-- On both connections just the first message is whole. -/
theorem the_first_messages_are_carried_out :
    ∃ es : List (TThreadedServerEvent Bool), ServedTogether .x64 cutStream es ∧
      (calls (Lanes.ops false es)).map Sigma.fst = [endDoc.apiForward] ∧
      (calls (Lanes.ops true es)).map Sigma.fst = [startPage.apiForward] := by
  obtain ⟨es, htogether⟩ := two_connections .x64 cutStream_served
  have ⟨S, S', p', hidle, hrun, hlanes, hlink⟩ := htogether
  have hcut (i : Bool) : ∃ whole more tail xs,
      (pageCalls i).map ClientCall.part = whole ++ more ∧
      cutStream i = whole.flatMap Prod.fst ++ tail ∧
      (∀ part ∈ more.head?, tail.length < part.1.length) ∧
      Session [] (whole.map Prod.snd) (linkWith (cutStream i))
        (pagesServed (cutStream i)).2.2.1 (calls (Lanes.ops i es)) xs := by
    obtain ⟨s, p, hmem, hall⟩ :=
      a_cut_connection_carries_out_its_whole_messages hidle hrun (hlanes i).1 (by simp [hlanes i])
    obtain rfl := hlink i s p hmem
    rw [linkWith_cutStream] at hall
    refine hall _ (parts_encode (pageCalls_short i)) ?_
    rw [parts_bytes]
    exact cutStream_prefix i
  obtain ⟨whole₁, more₁, tail₁, xs₁, hsplit₁, hstream₁, hmore₁, session₁⟩ := hcut false
  obtain ⟨whole₂, more₂, tail₂, xs₂, hsplit₂, hstream₂, hmore₂, session₂⟩ := hcut true
  obtain rfl := whole_of_two hsplit₁ hstream₁ hmore₁ (by decide +kernel) (by decide +kernel)
  obtain rfl := whole_of_two hsplit₂ hstream₂ hmore₂ (by decide +kernel) (by decide +kernel)
  exact ⟨es, htogether, session₁.handled_alone, session₂.handled_alone⟩

end

end RemotePrinter
