-- What a call reads. The read buffer and the bytes that the network delivers
-- make one stream: `readAll` hands out its bytes in order, however the network
-- cuts it, and fails when there are too few.
import RemotePrinter.ThriftClient

open Interactive

namespace RemotePrinter

/-! ## The stream -/

theorem incoming_pushBack (b : Bytes) (rest : List RecvResult) :
    incoming TSocket.maxRecvRetries (pushBack b rest) =
      b ++ incoming TSocket.maxRecvRetries rest := by
  cases b with
  | nil => rfl
  | cons x xs => rfl

/-! ## What a read changes -/

/-- The bytes in the read buffer came on the newest connection. -/
def Fresh (s : Link) : Prop := s.rBuf ≠ [] → s.rFrom = s.connections.length

/-- Bytes that came on the connections `ns` have been read. -/
def consumed (ns : List Nat) : List Connection → List Connection :=
  onNewest fun c => { c with consumed := c.consumed ++ ns }

@[simp] theorem consumed_nil (cs : List Connection) : consumed [] cs = cs := by
  cases cs <;> simp [consumed, onNewest]

@[simp] theorem consumed_consumed (ns ns' : List Nat) (cs : List Connection) :
    consumed ns' (consumed ns cs) = consumed (ns ++ ns') cs := by
  cases cs <;> simp [consumed, onNewest]

@[simp] theorem onNewest_length (f : Connection → Connection) (cs : List Connection) :
    (onNewest f cs).length = cs.length := by
  cases cs <;> rfl

@[simp] theorem consumed_length (ns : List Nat) (cs : List Connection) :
    (consumed ns cs).length = cs.length := onNewest_length _ cs

/-- A read changes nothing that a write looks at. If the read buffer is fresh, all that it takes
came on the newest connection. -/
structure Received (s s' : Link) : Prop where
  isOpen : s'.isOpen = s.isOpen
  wBuf : s'.wBuf = s.wBuf
  recursion_depth : s'.recursion_depth = s.recursion_depth
  created : s'.created = s.created
  connections : ∃ ns, s'.connections = consumed ns s.connections ∧
    (Fresh s → Fresh s' ∧ ∀ n ∈ ns, n = s.connections.length)

theorem Received.refl (s : Link) : Received s s :=
  ⟨rfl, rfl, rfl, rfl, [], (consumed_nil _).symm, fun h => ⟨h, by simp⟩⟩

theorem Received.trans {s s' s'' : Link} (h : Received s s') (h' : Received s' s'') :
    Received s s'' := by
  obtain ⟨ns, hc, hfresh⟩ := h.connections
  obtain ⟨ns', hc', hfresh'⟩ := h'.connections
  refine ⟨h'.isOpen.trans h.isOpen, h'.wBuf.trans h.wBuf,
    h'.recursion_depth.trans h.recursion_depth, h'.created.trans h.created, ns ++ ns', ?_, ?_⟩
  · rw [hc', hc, consumed_consumed]
  · intro hf
    obtain ⟨hf₁, hns⟩ := hfresh hf
    obtain ⟨hf₂, hns'⟩ := hfresh' hf₁
    refine ⟨hf₂, fun n hn => ?_⟩
    rcases List.mem_append.mp hn with hn | hn
    · exact hns n hn
    · rw [hns' n hn, hc, consumed_length]

/-- A failure of `recv` is noted. -/
def RecvNoted (s : Link) : Prop := ∃ f, Fault.recv f ∈ s.faults

/-- How a read fails: a transport error that is noted, or a wait for ever. -/
def ReadFails (e : Stop) (s : Link) : Prop :=
  e = .blocked ∨ (∃ type, e = .thrown (.TTransportException type)) ∧ RecvNoted s

/-! ## `TSocket::read` -/

/-- The bytes that are pending are read in part, or there are none. -/
inductive SocketRead (s : Link) (len : Nat) (pending : Bytes) : Except Stop Bytes → Link → Prop
  | got (b : Bytes) (t : List RecvResult) (hne : b ≠ []) (hle : b.length ≤ len)
      (hpending : pending = b ++ incoming TSocket.maxRecvRetries t) :
      SocketRead s len pending (.ok b) { s with recvs := t }
  | ended (t : List RecvResult) (fs : List Fault) (hnone : pending = [])
      (hnoted : ∃ f, Fault.recv f ∈ fs) :
      SocketRead s len pending (.ok []) { s with recvs := t, faults := s.faults ++ fs }
  | failed (e : Stop) (t : List RecvResult) (fs : List Fault) (hnone : pending = [])
      (hfails : ReadFails e { s with recvs := t, faults := s.faults ++ fs }) :
      SocketRead s len pending (.error e) { s with recvs := t, faults := s.faults ++ fs }

theorem readFailed_spec (s : Link) (len : Nat) (f : RecvFault) (t : List RecvResult) :
    SocketRead s len [] (TSocket.readFailed f { s with recvs := t }).1
      (TSocket.readFailed f { s with recvs := t }).2 := by
  have hnoted : RecvNoted { s with recvs := t, faults := s.faults ++ [Fault.recv f] } :=
    ⟨f, List.mem_append_right _ (List.mem_singleton_self _)⟩
  have hended : SocketRead s len [] (.ok [])
      { s with recvs := t, faults := s.faults ++ [Fault.recv f] } :=
    .ended t _ rfl ⟨f, List.mem_singleton_self _⟩
  have hfailed : ∀ type, SocketRead s len [] (.error (.thrown (.TTransportException type)))
      { s with recvs := t, faults := s.faults ++ [Fault.recv f] } :=
    fun type => .failed _ t _ rfl (Or.inr ⟨⟨type, rfl⟩, hnoted⟩)
  unfold TSocket.readFailed
  rw [Action.bind_run]
  cases f with
  | closed => exact hended
  | error code =>
    simp only [noteRecvFault]
    by_cases h₁ : code = WSAEWOULDBLOCK
    · rw [if_pos h₁]
      exact hfailed _
    · rw [if_neg h₁]
      by_cases h₂ : code = WSAECONNRESET
      · rw [if_pos h₂]
        exact hended
      · rw [if_neg h₂]
        by_cases h₃ : code = WSAENOTCONN
        · rw [if_pos h₃]
          exact hfailed _
        · rw [if_neg h₃]
          by_cases h₄ : code = WSAETIMEDOUT
          · rw [if_pos h₄]
            exact hfailed _
          · rw [if_neg h₄]
            exact hfailed _

theorem recv_data {s : Link} {len : Nat} (b : UInt8) (bs : Bytes) (rest : List RecvResult)
    (hlen : 0 < len) :
    SocketRead s len (b :: bs ++ incoming TSocket.maxRecvRetries rest)
      (.ok ((b :: bs).take len)) { s with recvs := pushBack ((b :: bs).drop len) rest } := by
  refine SocketRead.got (s := s) _ _ ?_ (List.length_take_le _ _) ?_
  · intro hnil
    have hl := congrArg List.length hnil
    rw [List.length_take, List.length_cons, List.length_nil] at hl
    omega
  · rw [incoming_pushBack, ← List.append_assoc, List.take_append_drop]

theorem tryRead_spec {len : Nat} (hlen : 0 < len) (retries : Nat) (s : Link) :
    SocketRead s len (incoming retries s.recvs) (TSocket.tryRead len retries s).1
      (TSocket.tryRead len retries s).2 := by
  cases hrecvs : s.recvs with
  | nil =>
    have hwait : SocketRead s len [] (.error .blocked) s := by
      have hfailed : SocketRead s len [] (.error .blocked)
          { s with recvs := [], faults := s.faults ++ [] } :=
        .failed .blocked [] [] rfl (Or.inl rfl)
      have hs : { s with recvs := [], faults := s.faults ++ [] } = s := by
        rw [List.append_nil, ← hrecvs]
      rw [hs] at hfailed
      exact hfailed
    cases retries <;>
    · unfold TSocket.tryRead
      rw [Action.bind_run]
      simp only [recv, hrecvs]
      exact hwait
  | cons r rest =>
    cases r with
    | data b bs =>
      have hgot := recv_data (s := s) b bs rest hlen
      cases retries <;>
      · unfold TSocket.tryRead
        rw [Action.bind_run]
        simp only [recv, hrecvs]
        exact hgot
    | fails f =>
      have hfailed := readFailed_spec s len f rest
      cases retries with
      | zero =>
        unfold TSocket.tryRead
        rw [Action.bind_run]
        simp only [recv, hrecvs]
        exact hfailed
      | succ retries =>
        unfold TSocket.tryRead incoming
        rw [Action.bind_run]
        simp only [recv, hrecvs]
        by_cases hf : f = .error WSAEINTR
        · rw [if_pos hf, if_pos hf]
          have hagain := tryRead_spec hlen retries { s with recvs := rest }
          generalize TSocket.tryRead len retries _ = out at hagain ⊢
          obtain ⟨r, s'⟩ := out
          cases hagain with
          | got b t hne hle hpending => exact SocketRead.got (s := s) b t hne hle hpending
          | ended t fs hnone hnoted => exact SocketRead.ended (s := s) t fs hnone hnoted
          | failed e t fs hnone hfails => exact SocketRead.failed (s := s) e t fs hnone hfails
        · rw [if_neg hf, if_neg hf]
          exact hfailed

theorem socket_read_spec {s : Link} (hopen : s.isOpen = true) {n : Nat} (hn : 0 < n) :
    SocketRead s n (incoming TSocket.maxRecvRetries s.recvs) (TSocket.read n s).1
      (TSocket.read n s).2 := by
  unfold TSocket.read
  rw [hopen, Bool.not_true, if_neg Bool.false_ne_true]
  exact tryRead_spec hn _ s

/-! ## The read buffer over it -/

theorem consume_received (n : Nat) (s : Link) :
    Received s (TBufferedTransport.consume n s).2 := by
  refine ⟨rfl, rfl, rfl, rfl, (s.rBuf.take n).map fun _ => s.rFrom, rfl, fun hfresh => ⟨?_, ?_⟩⟩
  · intro hne
    have hbuf : s.rBuf ≠ [] := by
      intro hnil
      simp [TBufferedTransport.consume, hnil] at hne
    simp only [TBufferedTransport.consume, onNewest_length]
    exact hfresh hbuf
  · intro m hm
    obtain ⟨x, hx, rfl⟩ := List.mem_map.mp hm
    exact hfresh (List.ne_nil_of_mem (List.mem_of_mem_take hx))

theorem consume_stream {n : Nat} {s : Link} (hn : n ≤ s.rBuf.length) :
    (TBufferedTransport.consume n s).1 = .ok (s.stream.take n) ∧
      (TBufferedTransport.consume n s).2.stream = s.stream.drop n := by
  unfold TBufferedTransport.consume Link.stream
  constructor
  · rw [List.take_append_of_le_length hn]
  · rw [List.drop_append_of_le_length hn]

/-- A buffered read gets some bytes of the stream, or there are none. -/
inductive BufferedRead (s : Link) (len : Nat) : Except Stop Bytes → Link → Prop
  | got (b : Bytes) (s' : Link) (hne : b ≠ []) (hle : b.length ≤ len)
      (hstream : s.stream = b ++ s'.stream) (hrec : Received s s') : BufferedRead s len (.ok b) s'
  | ended (s' : Link) (hnone : s.stream = []) (hrec : Received s s') (hnoted : RecvNoted s') :
      BufferedRead s len (.ok []) s'
  | failed (e : Stop) (s' : Link) (hnone : s.stream = []) (hrec : Received s s')
      (hfails : ReadFails e s') : BufferedRead s len (.error e) s'

theorem bufferedRead_consume {n len : Nat} {s : Link} (hn : n ≤ s.rBuf.length) (hpos : 0 < n)
    (hle : n ≤ len) :
    BufferedRead s len (TBufferedTransport.consume n s).1 (TBufferedTransport.consume n s).2 := by
  obtain ⟨hgot, hstream⟩ := consume_stream hn
  have hlen : n ≤ s.stream.length := by
    unfold Link.stream
    rw [List.length_append]
    omega
  rw [hgot]
  refine .got _ _ ?_ ?_ ?_ (consume_received n s)
  · intro hnil
    have hl := congrArg List.length hnil
    rw [List.length_take, List.length_nil] at hl
    omega
  · rw [List.length_take]
    omega
  · rw [hstream, List.take_append_drop]

theorem BufferedRead.of_received {s s₁ s' : Link} {len : Nat} {r : Except Stop Bytes}
    (hrec : Received s s₁) (hstream : s₁.stream = s.stream) (h : BufferedRead s₁ len r s') :
    BufferedRead s len r s' := by
  cases h with
  | got b _ hne hle hsplit hrec' =>
    exact .got b _ hne hle (hstream.symm.trans hsplit) (hrec.trans hrec')
  | ended _ hnone hrec' hnoted =>
    exact .ended _ (hstream.symm.trans hnone) (hrec.trans hrec') hnoted
  | failed e _ hnone hrec' hfails =>
    exact .failed e _ (hstream.symm.trans hnone) (hrec.trans hrec') hfails

/-- More bytes than the buffer has are asked for: all are handed out. -/
theorem consume_all {n : Nat} {s : Link} (hn : s.rBuf.length ≤ n) :
    TBufferedTransport.consume n s = TBufferedTransport.consume s.rBuf.length s := by
  unfold TBufferedTransport.consume
  rw [List.take_of_length_le hn, List.drop_of_length_le hn, List.take_length, List.drop_length]

/-- What `TSocket::read` leaves as it is. -/
theorem received_of_recvs (s : Link) (t : List RecvResult) (fs : List Fault) :
    Received s { s with recvs := t, faults := s.faults ++ fs } :=
  ⟨rfl, rfl, rfl, rfl, [], (consumed_nil _).symm, fun h => ⟨h, by simp⟩⟩

/-- The buffer is filled with bytes of the newest connection. -/
theorem setReadBuffer_received (b : Bytes) (s : Link) :
    Received s (TBufferedTransport.setReadBuffer b s).2 :=
  ⟨rfl, rfl, rfl, rfl, [], (consumed_nil _).symm, fun _ => ⟨fun _ => rfl, by simp⟩⟩

theorem buffered_read_spec {s : Link} (hopen : s.isOpen = true) (len : Nat) (hlen : 0 < len) :
    BufferedRead s len (TBufferedTransport.read len s).1 (TBufferedTransport.read len s).2 := by
  unfold TBufferedTransport.read
  by_cases hfit : len ≤ s.rBuf.length
  · rw [if_pos hfit]
    exact bufferedRead_consume hfit hlen (Nat.le_refl _)
  · rw [if_neg hfit]
    unfold TBufferedTransport.readSlow
    by_cases hhave : s.rBuf.length > 0
    · rw [if_pos hhave]
      exact bufferedRead_consume (Nat.le_refl _) hhave (by omega)
    · rw [if_neg hhave]
      have hnil : s.rBuf = [] := List.length_eq_zero_iff.mp (by omega)
      have hsock := socket_read_spec hopen (n := rBufSize) (by simp [rBufSize])
      have hview : s.stream = incoming TSocket.maxRecvRetries s.recvs := by
        unfold Link.stream
        rw [hnil, List.nil_append]
      rw [← hview] at hsock
      rw [Action.bind_run]
      generalize TSocket.read rBufSize s = out at hsock ⊢
      obtain ⟨r, s₁⟩ := out
      cases hsock with
      | got b t hne hle hpending =>
        have hset : TBufferedTransport.setReadBuffer b { s with recvs := t } =
          (.ok (), { s with recvs := t, rBuf := b, rFrom := s.connections.length }) := rfl
        have hpos : 0 < b.length := List.length_pos_iff.mpr hne
        simp only
        rw [Action.bind_ok hset]
        have hrec : Received s
            { s with recvs := t, rBuf := b, rFrom := s.connections.length } :=
          ⟨rfl, rfl, rfl, rfl, [], (consumed_nil _).symm, fun _ => ⟨fun _ => rfl, by simp⟩⟩
        refine BufferedRead.of_received hrec hpending.symm ?_
        by_cases hall : len ≤ b.length
        · exact bufferedRead_consume hall hlen (Nat.le_refl _)
        · rw [consume_all (Nat.le_of_not_le hall)]
          exact bufferedRead_consume (Nat.le_refl _) hpos (Nat.le_of_not_le hall)
      | ended t fs hnone hnoted =>
        obtain ⟨f, hf⟩ := hnoted
        have hset : TBufferedTransport.setReadBuffer []
            { s with recvs := t, faults := s.faults ++ fs } =
          (.ok (), { s with recvs := t, faults := s.faults ++ fs, rBuf := [],
                            rFrom := s.connections.length }) := rfl
        have hrec := (received_of_recvs s t fs).trans
          ((setReadBuffer_received [] _).trans (consume_received 0 _))
        simp only
        rw [Action.bind_ok hset, consume_all (Nat.zero_le _)]
        exact .ended _ hnone hrec ⟨f, List.mem_append_right _ hf⟩
      | failed e t fs hnone hfails => exact .failed e _ hnone (received_of_recvs s t fs) hfails

/-! ## `readAll` -/

/-- The bytes that are asked for are handed out, or there are too few. -/
inductive AllRead (s : Link) (len : Nat) (got : Bytes) : Except Stop Bytes → Link → Prop
  | done (s' : Link) (hlen : len ≤ s.stream.length) (hstream : s'.stream = s.stream.drop len)
      (hrec : Received s s') : AllRead s len got (.ok (got ++ s.stream.take len)) s'
  | failed (e : Stop) (s' : Link) (hlen : s.stream.length < len) (hrec : Received s s')
      (hfails : ReadFails e s') : AllRead s len got (.error e) s'

theorem allRead_nothing (s : Link) (got : Bytes) : AllRead s 0 got (.ok got) s := by
  have hdone : AllRead s 0 got (.ok (got ++ s.stream.take 0)) s :=
    .done s (Nat.zero_le _) rfl (Received.refl s)
  rw [List.take_zero, List.append_nil] at hdone
  exact hdone

/-- The loop, when `need` bytes are missing and there are rounds enough. -/
theorem readLoop_spec {fuel need len : Nat} {got : Bytes} {s : Link} (hopen : s.isOpen = true)
    (hneed : got.length + need = len) (hfuel : need ≤ fuel) :
    AllRead s need got (TBufferedTransport.readLoop fuel len got s).1
      (TBufferedTransport.readLoop fuel len got s).2 := by
  induction fuel generalizing need got s with
  | zero =>
    obtain rfl : need = 0 := Nat.le_zero.mp hfuel
    exact allRead_nothing s got
  | succ fuel ih =>
    unfold TBufferedTransport.readLoop
    by_cases hmore : got.length < len
    · rw [if_pos hmore]
      have hsome := buffered_read_spec hopen (len - got.length) (by omega)
      rw [Action.bind_run]
      generalize TBufferedTransport.read (len - got.length) s = out at hsome ⊢
      obtain ⟨r, s₁⟩ := out
      cases hsome with
      | got b _ hne hle hstream hrec =>
        have hpos : 0 < b.length := List.length_pos_iff.mpr hne
        have hnz : b.length ≠ 0 := by omega
        simp only
        rw [if_neg hnz]
        have hmissing : (got ++ b).length + (need - b.length) = len := by
          rw [List.length_append]
          omega
        have hrest := ih (s := s₁) (hrec.isOpen.trans hopen) hmissing (by omega)
        have hlen₁ : s.stream.length = b.length + s₁.stream.length := by
          rw [hstream, List.length_append]
        generalize TBufferedTransport.readLoop fuel len (got ++ b) s₁ = out at hrest ⊢
        obtain ⟨r, s₂⟩ := out
        cases hrest with
        | done _ hlen hstream₂ hrec₂ =>
          have hb : need = b.length + (need - b.length) := by omega
          have htake : got ++ b ++ s₁.stream.take (need - b.length) =
              got ++ s.stream.take need := by
            rw [hstream, List.append_assoc]
            conv_rhs => rw [hb, List.take_length_add_append]
          simp only
          rw [htake]
          refine .done _ (by omega) ?_ (hrec.trans hrec₂)
          rw [hstream₂, hstream]
          conv_rhs => rw [hb, List.drop_length_add_append]
        | failed e _ hlen hrec₂ hfails =>
          exact .failed e _ (by omega) (hrec.trans hrec₂) hfails
      | ended _ hnone hrec hnoted =>
        refine .failed _ _ ?_ hrec (Or.inr ⟨⟨.END_OF_FILE, rfl⟩, hnoted⟩)
        rw [hnone, List.length_nil]
        omega
      | failed e _ hnone hrec hfails =>
        refine .failed e _ ?_ hrec hfails
        rw [hnone, List.length_nil]
        omega
    · rw [if_neg hmore]
      obtain rfl : need = 0 := by omega
      exact allRead_nothing s got

theorem readAll_spec {s : Link} (hopen : s.isOpen = true) (len : Nat) :
    AllRead s len [] (TBufferedTransport.readAll len s).1 (TBufferedTransport.readAll len s).2 := by
  unfold TBufferedTransport.readAll
  by_cases hfit : len ≤ s.rBuf.length
  · rw [if_pos hfit]
    obtain ⟨hgot, hstream⟩ := consume_stream hfit
    rw [hgot]
    have hlen : len ≤ s.stream.length := by
      unfold Link.stream
      rw [List.length_append]
      omega
    exact .done _ hlen hstream (consume_received len s)
  · rw [if_neg hfit]
    exact readLoop_spec hopen (by simp) (Nat.le_refl _)

/-- The transport is a source of the bytes of the stream. -/
theorem readAll_source :
    Prog.Source TBufferedTransport.readAll Link.stream (fun s => s.isOpen = true) where
  enough := by
    intro s n hopen hn
    have hall := readAll_spec hopen n
    generalize TBufferedTransport.readAll n s = out at hall ⊢
    obtain ⟨r, s'⟩ := out
    cases hall with
    | done _ hlen hstream hrec => exact ⟨s', rfl, hstream, hrec.isOpen.trans hopen⟩
    | failed e _ hlen hrec hfails => omega
  short := by
    intro s n hopen hn
    have hall := readAll_spec hopen n
    generalize TBufferedTransport.readAll n s = out at hall ⊢
    obtain ⟨r, s'⟩ := out
    cases hall with
    | done _ hlen hstream hrec => omega
    | failed e _ hlen hrec hfails => exact ⟨e, s', rfl⟩

/-! ## The steps of a reading are enough -/

open TBinaryProtocol

section
variable {α β : Type} {n : Nat}

/-- On a list with fewer than `n` bytes the reading comes to an end. -/
def Completes (n : Nat) (d : Decoder α) : Prop :=
  ∀ s rest, s.length < n → d.reads s ≠ .failed .unfinished rest

/-- A reading that ends with a value has read a byte at least. -/
def Consumes (d : Decoder α) : Prop :=
  ∀ s a rest, d.reads s = .done a rest → rest.length < s.length

theorem completes_pure (a : α) : Completes n (pure a : Decoder α) := by
  intro s rest _ h
  cases h

theorem completes_throw {x : ReadFault} (hx : x ≠ .unfinished) :
    Completes n (Decoder.throw x : Decoder α) := by
  intro s rest _ h
  cases h
  exact hx rfl

theorem completes_readAll (k : Nat) : Completes n (readAll k) := by
  intro s rest _ h
  unfold readAll Prog.perform at h
  rw [Prog.reads_call] at h
  by_cases hk : k ≤ s.length
  · rw [if_pos hk] at h
    cases h
  · rw [if_neg hk] at h
    cases h

/-- Each part comes to an end on what the parts before it leave. -/
theorem completes_bind_of {m : Nat} {d : Decoder α} {f : α → Decoder β} (hd : Completes n d)
    (hrest : ∀ s a rest, s.length < n → d.reads s = .done a rest → rest.length < m)
    (hf : ∀ a, Completes m (f a)) : Completes n (d >>= f) := by
  intro s rest hs h
  rw [Prog.reads_bind] at h
  cases hread : d.reads s with
  | done a rest' =>
    rw [hread] at h
    exact hf a rest' rest (hrest s a rest' hs hread) h
  | failed x rest' =>
    rw [hread] at h
    cases h
    exact hd s _ hs hread
  | short =>
    rw [hread] at h
    cases h

theorem completes_bind {d : Decoder α} {f : α → Decoder β} (hd : Completes n d)
    (hf : ∀ a, Completes n (f a)) : Completes n (d >>= f) :=
  completes_bind_of hd
    (fun _ _ _ hs hread => Nat.lt_of_le_of_lt (Prog.rest_length_le hread) hs) hf

/-- Behind a part that reads a byte at least, one byte fewer is left. -/
theorem completes_bind_succ {d : Decoder α} {f : α → Decoder β} (hc : Consumes d)
    (hd : Completes (n + 1) d) (hf : ∀ a, Completes n (f a)) : Completes (n + 1) (d >>= f) := by
  refine completes_bind_of hd (fun s a rest hs hread => ?_) hf
  have hlt := hc s a rest hread
  omega

theorem Completes.mono {d : Decoder α} {m : Nat} (h : Completes n d) (hm : m ≤ n) : Completes m d :=
  fun s rest hs => h s rest (Nat.lt_of_lt_of_le hs hm)

theorem consumes_readAll (k : Nat) : Consumes (readAll (k + 1)) := by
  intro s a rest h
  unfold readAll Prog.perform at h
  rw [Prog.reads_call] at h
  by_cases hk : k + 1 ≤ s.length
  · rw [if_pos hk] at h
    cases h
    rw [List.length_drop]
    omega
  · rw [if_neg hk] at h
    cases h

theorem consumes_bind {d : Decoder α} {f : α → Decoder β} (hd : Consumes d) :
    Consumes (d >>= f) := by
  intro s b rest h
  rw [Prog.reads_bind] at h
  cases hread : d.reads s with
  | done a rest' =>
    rw [hread] at h
    exact Nat.lt_of_le_of_lt (Prog.rest_length_le h) (hd s a rest' hread)
  | failed x rest' =>
    rw [hread] at h
    cases h
  | short =>
    rw [hread] at h
    cases h

theorem completes_readByte : Completes n readByte :=
  completes_bind (completes_readAll 1) fun _ => completes_pure _

theorem completes_readI16 : Completes n readI16 :=
  completes_bind (completes_readAll 2) fun _ => completes_pure _

theorem completes_readI32 : Completes n readI32 :=
  completes_bind (completes_readAll 4) fun _ => completes_pure _

theorem completes_readI64 : Completes n readI64 :=
  completes_bind (completes_readAll 8) fun _ => completes_pure _

theorem completes_readBool : Completes n readBool :=
  completes_bind completes_readByte fun _ => completes_pure _

theorem completes_readStringBody (size : I32) : Completes n (readStringBody size) := by
  unfold readStringBody
  split
  · exact completes_throw (by simp)
  · split
    · exact completes_pure _
    · exact completes_readAll _

theorem completes_readString : Completes n readString :=
  completes_bind completes_readI32 fun size => completes_readStringBody size

theorem completes_readSize : Completes n readSize := by
  refine completes_bind completes_readI32 fun sizei => ?_
  split
  · exact completes_throw (by simp)
  · exact completes_pure _

theorem completes_readMessageBegin : Completes n readMessageBegin := by
  refine completes_bind completes_readI32 fun sz => ?_
  split
  · split
    · exact completes_throw (by simp)
    · exact completes_bind completes_readString fun _ =>
        completes_bind completes_readI32 fun _ => completes_pure _
  · exact completes_bind (completes_readStringBody sz) fun _ =>
      completes_bind completes_readByte fun _ =>
        completes_bind completes_readI32 fun _ => completes_pure _

theorem completes_readFieldBegin : Completes n readFieldBegin := by
  refine completes_bind completes_readByte fun type => ?_
  split
  · exact completes_pure _
  · exact completes_bind completes_readI16 fun _ => completes_pure _

theorem completes_readMapBegin : Completes n readMapBegin :=
  completes_bind completes_readByte fun _ => completes_bind completes_readByte fun _ =>
    completes_bind completes_readSize fun _ => completes_pure _

theorem completes_readListBegin : Completes n readListBegin :=
  completes_bind completes_readByte fun _ => completes_bind completes_readSize fun _ =>
    completes_pure _

theorem consumes_readByte : Consumes readByte := consumes_bind (consumes_readAll 0)

theorem completes_times {d : Decoder Unit} (hd : Completes n d) (size : Nat) :
    Completes n (times size d) := by
  induction size with
  | zero => exact completes_pure ()
  | succ size ih => exact completes_bind hd fun _ => ih

/-- Each turn of the loop over the fields reads a byte at least. -/
theorem completes_fields {field : α → TType → BitVec 16 → Decoder α} {fuel : Nat}
    (hfield : ∀ a type id, Completes n (field a type id)) (hfuel : fuel ≤ n + 1) (a : α) :
    Completes fuel (fields field fuel a) := by
  induction fuel generalizing a with
  | zero =>
    intro s rest hs
    omega
  | succ fuel ih =>
    refine completes_bind_succ (consumes_bind consumes_readByte) completes_readFieldBegin ?_
    rintro ⟨type, id⟩
    simp only
    split
    · exact completes_pure a
    · exact completes_bind ((hfield a type id).mono (by omega)) fun a' => ih (by omega) a'

theorem completes_skip (fuel : Nat) (type : TType) : Completes fuel (skip fuel type) := by
  induction fuel generalizing type with
  | zero =>
    intro s rest hs
    omega
  | succ fuel ih =>
    unfold skip
    split
    · exact completes_bind (completes_readAll 1) fun _ => completes_pure ()
    split
    · exact completes_bind (completes_readAll 2) fun _ => completes_pure ()
    split
    · exact completes_bind (completes_readAll 4) fun _ => completes_pure ()
    split
    · exact completes_bind (completes_readAll 8) fun _ => completes_pure ()
    split
    · exact completes_bind completes_readString fun _ => completes_pure ()
    split
    · exact completes_fields (fun _ type' _ => ih type') (Nat.le_refl _) ()
    split
    · refine completes_bind_succ (consumes_bind consumes_readByte) completes_readMapBegin ?_
      rintro ⟨keyType, valType, size⟩
      exact completes_times (completes_bind (ih keyType) fun _ => ih valType) size
    split
    · refine completes_bind_succ (consumes_bind consumes_readByte) completes_readListBegin ?_
      rintro ⟨elemType, size⟩
      exact completes_times (ih elemType) size
    · exact completes_pure ()

theorem completes_readMap {T : Type} {readVal : Decoder T} (hval : Completes n readVal) (size : Nat)
    (m : StdMap T) : Completes n (readMap readVal size m) := by
  induction size generalizing m with
  | zero => exact completes_pure m
  | succ size ih =>
    exact completes_bind completes_readString fun _ => completes_bind hval fun _ => ih _

theorem completes_readStdMap {T : Type} {readVal : Decoder T} (hval : Completes n readVal) :
    Completes n (readStdMap readVal) := by
  refine completes_bind completes_readMapBegin ?_
  rintro ⟨keyType, valType, size⟩
  exact completes_readMap hval size []

theorem completes_readSuccess (q : Request) : Completes n q.readSuccess := by
  cases q with
  | usb q => exact completes_readI32
  | spool q =>
    cases q with
    | OpenPrinterA => exact completes_readStdMap completes_readI64
    | OpenPrinterW => exact completes_readStdMap completes_readI64
    | StartDocPrinterW => exact completes_readI32
    | WritePrinter => exact completes_readStdMap completes_readI32
    | _ => exact completes_readBool

theorem completes_readTApplicationException (fuel : Nat) :
    Completes fuel (readTApplicationException fuel) := by
  refine completes_fields (n := fuel) ?_ (Nat.le_succ _) _
  intro type_ ftype fid
  split
  · exact completes_bind completes_readString fun _ => completes_pure _
  split
  · exact completes_readI32
  · exact completes_bind (completes_skip fuel ftype) fun _ => completes_pure _

theorem completes_readResult (fuel : Nat) (q : Request) : Completes fuel (q.readResult fuel) := by
  refine completes_fields (n := fuel) ?_ (Nat.le_succ _) _
  intro success ftype fid
  split
  · exact completes_bind (completes_readSuccess q) fun _ => completes_pure _
  · exact completes_bind (completes_skip fuel ftype) fun _ => completes_pure _

/-- A part that is read on a condition, before the rest. -/
theorem completes_when {c : Prop} [Decidable c] {d : Decoder Unit} {k : Decoder α}
    (hd : Completes n d) (hk : Completes n k) :
    Completes n (if c then d >>= fun _ => k else k) := by
  split
  · exact completes_bind hd fun _ => hk
  · exact hk

theorem completes_recv (fuel : Nat) (q : Request) : Completes fuel (q.recv fuel) := by
  refine completes_bind completes_readMessageBegin ?_
  rintro ⟨fname, mtype⟩
  simp only
  split
  · exact completes_bind (completes_readTApplicationException fuel)
      fun _ => completes_throw (by simp)
  · refine completes_when (completes_skip fuel T_STRUCT) ?_
    refine completes_when (completes_skip fuel T_STRUCT) ?_
    refine completes_bind (completes_readResult fuel q) fun r => ?_
    cases r with
    | some success => exact completes_pure success
    | none => exact completes_throw (by simp)

end

/-! ## A reply -/

/-- What the bytes of the stream are, read as the reply to a request. -/
def Request.reply (q : Request) (stream : Bytes) : Reading UInt8 ReadFault q.Result :=
  (q.recv (stream.length + 1)).reads stream

theorem reply_finished (q : Request) (stream rest : Bytes) :
    q.reply stream ≠ .failed .unfinished rest :=
  completes_recv _ q stream rest (Nat.lt_succ_self _)

theorem receive_ok_iff {s : Link} (hopen : s.isOpen = true) (q : Request) (v : q.Result) :
    (q.receive s).1 = .ok v ↔ ∃ rest, q.reply s.stream = .done v rest :=
  Prog.readFrom_ok_iff readAll_source hopen v

/-- How a reading of a reply ends: a transport error is noted. -/
structure ReceiveEnds (s : Link) {α : Type} (r : Except Stop α) (s' : Link) : Prop where
  received : Received s s'
  noted : ∀ type, r = .error (.thrown (.TTransportException type)) → RecvNoted s'

theorem receive_spec {s : Link} (hopen : s.isOpen = true) (q : Request) :
    ReceiveEnds s (q.receive s).1 (q.receive s).2 := by
  have hends : (∃ a s', q.receive s = (.ok a, s') ∧ Received s s') ∨
      ∃ e s', q.receive s = (.error e, s') ∧
        ReceiveEnds s (.error e : Except Stop q.Result) s' := by
    refine Prog.readFrom_ends ?_ ?_ ?_ (Received.refl s)
    · intro n s₁ b s' hrec hget
      have hall := readAll_spec (hrec.isOpen.trans hopen) n
      rw [hget] at hall
      cases hall with
      | done _ hlen hstream hrec' => exact hrec.trans hrec'
    · intro n s₁ e s' hrec hget
      have hall := readAll_spec (hrec.isOpen.trans hopen) n
      rw [hget] at hall
      cases hall with
      | failed _ _ hlen hrec' hfails =>
        refine ⟨hrec.trans hrec', fun type he => ?_⟩
        cases he
        rcases hfails with hblocked | ⟨-, hnoted⟩
        · cases hblocked
        · exact hnoted
    · intro x s' hrec
      refine ⟨hrec, fun type he => ?_⟩
      cases x <;> cases he
  rcases hends with ⟨a, s', hrun, hrec⟩ | ⟨e, s', hrun, hend⟩
  · rw [hrun]
    exact ⟨hrec, by simp⟩
  · rw [hrun]
    exact hend

end RemotePrinter
