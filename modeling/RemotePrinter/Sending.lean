-- What reaches the network when the client writes. Every write of the
-- transport either takes all its bytes into the connection and the buffer,
-- or stops with a part of them sent.
import RemotePrinter.ThriftClient

open Interactive

namespace RemotePrinter

/-- The bytes that the network takes before a `send` fails or waits for ever. -/
def room : List SendResult → Nat
  | .took n :: rest => n + 1 + room rest
  | _ => 0

/-- What `write` throws for a failed `send`. -/
def SendFault.type : SendFault → TTransportExceptionType
  | error code =>
    if code = WSAEWOULDBLOCK then .TIMED_OUT
    else if TSocket.closes (.error code) then .NOT_OPEN
    else .UNKNOWN
  | zero => .NOT_OPEN

/-- How a write ends that does not send all its bytes, whether the socket is open after it, and
the fault that it noted. -/
inductive Stops : Stop → Bool → List Fault → Prop
  | blocked : Stops .blocked true []
  | failed (f : SendFault) :
      Stops (.thrown (.TTransportException f.type)) (!TSocket.closes f) [.send f]

/-! ## The loop of `TSocket::write` -/

inductive SocketWrite (s : Link) (b : Bytes) : Except Stop Unit → Link → Prop
  | ok (t : List SendResult) (hroom : room s.sends = b.length + room t) :
      SocketWrite s b (.ok ()) { s with sends := t, connections := wrote b s.connections }
  | stop (e : Stop) (o : Bool) (fs : List Fault) (t : List SendResult) (sent : Bytes)
      (hstop : Stops e o fs) (hsent : sent <+: b) (hroom : room s.sends < b.length) :
      SocketWrite s b (.error e)
        { s with sends := t, connections := wrote sent s.connections, isOpen := o,
                 faults := s.faults ++ fs }

/-- One `send`. -/
inductive PartialWrite (s : Link) (b : Bytes) : Except Stop Nat → Link → Prop
  | took (n : Nat) (t : List SendResult) (hn : 0 < n) (hle : n ≤ b.length)
      (hroom : room s.sends = n + room t) :
      PartialWrite s b (.ok n)
        { s with sends := t, connections := wrote (b.take n) s.connections }
  | busy (t : List SendResult) (hroom : room s.sends = 0) :
      PartialWrite s b (.ok 0)
        { s with sends := t, faults := s.faults ++ [.send (.error WSAEWOULDBLOCK)] }
  | stop (e : Stop) (o : Bool) (fs : List Fault) (t : List SendResult) (hstop : Stops e o fs)
      (hroom : room s.sends = 0) :
      PartialWrite s b (.error e)
        { s with sends := t, isOpen := o, faults := s.faults ++ fs }

theorem write_partial_spec {s : Link} (hopen : s.isOpen = true) {buf : Bytes} (hbuf : buf ≠ []) :
    PartialWrite s buf (TSocket.write_partial buf s).1 (TSocket.write_partial buf s).2 := by
  have hlen : 0 < buf.length := List.length_pos_iff.mpr hbuf
  unfold TSocket.write_partial
  rw [hopen, Bool.not_true, if_neg Bool.false_ne_true, Action.bind_run]
  cases hsends : s.sends with
  | nil =>
    have hstop := PartialWrite.stop (s := s) (b := buf) .blocked true [] [] .blocked
      (by simp [hsends, room])
    have hs : { s with sends := [], isOpen := true, faults := s.faults ++ [] } = s := by
      rw [← hsends, ← hopen, List.append_nil]
    rw [hs] at hstop
    simp only [send, hsends]
    exact hstop
  | cons x rest =>
    cases x with
    | took n =>
      by_cases hn : n < buf.length
      · simp only [send, hsends, hn, if_true]
        exact .took (n + 1) rest (Nat.succ_pos n) hn (by simp [hsends, room])
      · simp only [send, hsends, hn, if_false]
        have htake : buf.take buf.length = buf := List.take_length
        have hgot := PartialWrite.took (s := s) (b := buf) buf.length
          (.took (n - buf.length) :: rest) hlen (Nat.le_refl _) (by simp [hsends, room]; omega)
        rw [htake] at hgot
        exact hgot
    | fails f =>
      have hroom : room s.sends = 0 := by simp [hsends, room]
      cases f with
      | zero =>
        have hstop := PartialWrite.stop (s := s) (b := buf) _ _ _ rest (.failed .zero) hroom
        simp only [send, hsends, hopen]
        exact hstop
      | error code =>
        simp only [send, hsends, hopen]
        by_cases hbusy : code = WSAEWOULDBLOCK
        · subst hbusy
          have hgot := PartialWrite.busy (s := s) (b := buf) rest hroom
          rw [hopen] at hgot
          exact hgot
        · have hstop := PartialWrite.stop (s := s) (b := buf) _ _ _ rest
            (.failed (.error code)) hroom
          by_cases hcl : TSocket.closes (.error code) = true
          · simp only [SendFault.type, hbusy, hcl, if_false, if_true] at hstop ⊢
            exact hstop
          · have hkeep : TSocket.closes (.error code) = false := Bool.eq_false_iff.mpr hcl
            simp only [SendFault.type, hbusy, hkeep, Bool.false_eq_true, if_false] at hstop ⊢
            exact hstop

/-- The loop, with as many rounds as there are bytes or more. -/
theorem writeLoop_spec {fuel : Nat} {s : Link} (hopen : s.isOpen = true) {buf : Bytes}
    (hfuel : buf.length ≤ fuel) :
    SocketWrite s buf (TSocket.writeLoop fuel buf s).1 (TSocket.writeLoop fuel buf s).2 := by
  induction fuel generalizing s buf with
  | zero =>
    have hnil : buf = [] := List.length_eq_zero_iff.mp (Nat.le_zero.mp hfuel)
    subst hnil
    have hok := SocketWrite.ok (s := s) (b := []) s.sends (by simp)
    rw [wrote_nil] at hok
    exact hok
  | succ fuel ih =>
    unfold TSocket.writeLoop
    by_cases hbuf : buf = []
    · subst hbuf
      have hok := SocketWrite.ok (s := s) (b := []) s.sends (by simp)
      rw [wrote_nil] at hok
      exact hok
    · rw [if_neg hbuf]
      have hpart := write_partial_spec hopen hbuf
      rw [Action.bind_run]
      cases hrun : TSocket.write_partial buf s with
      | mk r s₁ =>
        rw [hrun] at hpart
        cases hpart with
        | took n t hn hle hroom =>
          have hne : n ≠ 0 := Nat.pos_iff_ne_zero.mp hn
          have hdrop : (buf.drop n).length = buf.length - n := List.length_drop
          simp only [hne, if_false]
          have hrest := ih
            (s := { s with sends := t, connections := wrote (buf.take n) s.connections })
            hopen (show (buf.drop n).length ≤ fuel by omega)
          generalize TSocket.writeLoop fuel (buf.drop n) _ = out at hrest ⊢
          obtain ⟨r, s₂⟩ := out
          cases hrest with
          | ok t' hroom' =>
            have hok := SocketWrite.ok (s := s) (b := buf) t' (by simp only at hroom'; omega)
            simp only [wrote_wrote, List.take_append_drop]
            exact hok
          | stop e o fs t' sent hstop hsent hroom' =>
            have hpre : buf.take n ++ sent <+: buf := by
              obtain ⟨more, hmore⟩ := hsent
              exact ⟨more, by rw [List.append_assoc, hmore, List.take_append_drop]⟩
            have hlt : room s.sends < buf.length := by simp only at hroom'; omega
            simp only [wrote_wrote]
            exact SocketWrite.stop (s := s) e o fs t' _ hstop hpre hlt
        | busy t hroom =>
          have hlt : room s.sends < buf.length := by
            rw [hroom]
            exact List.length_pos_iff.mpr hbuf
          have hstop := SocketWrite.stop (s := s) (b := buf) _ _ _ t []
            (.failed (.error WSAEWOULDBLOCK)) (List.nil_prefix) hlt
          rw [wrote_nil] at hstop
          simp only [if_true]
          rw [hopen]
          exact hstop
        | stop e o fs t hstop hroom =>
          have hlt : room s.sends < buf.length := by
            rw [hroom]
            exact List.length_pos_iff.mpr hbuf
          have hstop' := SocketWrite.stop (s := s) (b := buf) e o fs t [] hstop
            (List.nil_prefix) hlt
          rw [wrote_nil] at hstop'
          exact hstop'

theorem socket_write_spec {s : Link} (hopen : s.isOpen = true) (buf : Bytes) :
    SocketWrite s buf (TSocket.write buf s).1 (TSocket.write buf s).2 :=
  writeLoop_spec hopen (Nat.le_refl _)

/-- Nothing is sent if the first `send` fails. -/
theorem socket_write_none {s : Link} (hopen : s.isOpen = true) (hroom : room s.sends = 0)
    {buf : Bytes} (hbuf : buf ≠ []) :
    ∃ e o fs t, Stops e o fs ∧ TSocket.write buf s =
      (.error e, { s with sends := t, isOpen := o, faults := s.faults ++ fs }) := by
  obtain ⟨n, hn⟩ := Nat.exists_eq_add_one.mpr (List.length_pos_iff.mpr hbuf)
  have hpart := write_partial_spec hopen hbuf
  unfold TSocket.write
  rw [hn, TSocket.writeLoop, if_neg hbuf, Action.bind_run]
  cases hrun : TSocket.write_partial buf s with
  | mk r s₁ =>
    rw [hrun] at hpart
    cases hpart with
    | took n t hn hle hroom' => omega
    | busy t _ =>
      refine ⟨_, _, _, t, .failed (.error WSAEWOULDBLOCK), ?_⟩
      simp only [if_true]
      rw [hopen]
      rfl
    | stop e o fs t hstop _ => exact ⟨e, o, fs, t, hstop, rfl⟩

/-! ## The buffer over it -/

/-- The bytes `b` are written behind those in the buffer. The writer stops by itself if `l`
holds. The recursion depth and the buffer that are left if the socket stops the write have `k`. -/
inductive BufferedWrite (s : Link) (b : Bytes) (l : Prop) (k : BitVec 32 → Bytes → Prop) :
    Except Stop Unit → Link → Prop
  | ok (t : List SendResult) (sent left : Bytes) (hfull : ¬ l)
      (hsplit : sent ++ left = s.wBuf ++ b) (hroom : room s.sends = sent.length + room t) :
      BufferedWrite s b l k (.ok ())
        { s with sends := t, connections := wrote sent s.connections, wBuf := left }
  | limit (x : TProtocolExceptionType) (d : BitVec 32) (t : List SendResult) (sent left : Bytes)
      (hlimit : l) :
      BufferedWrite s b l k (.error (.thrown (.TProtocolException x)))
        { s with sends := t, connections := wrote sent s.connections, wBuf := left,
                 recursion_depth := d }
  | stop (e : Stop) (o : Bool) (fs : List Fault) (d : BitVec 32) (t : List SendResult)
      (sent left : Bytes) (hstop : Stops e o fs) (hsent : sent <+: s.wBuf ++ b)
      (hroom : room s.sends < (s.wBuf ++ b).length) (hkept : k d left) :
      BufferedWrite s b l k (.error e)
        { s with sends := t, connections := wrote sent s.connections, wBuf := left,
                 recursion_depth := d, isOpen := o, faults := s.faults ++ fs }

/-- A write leaves the depth as it is. -/
def SameDepth (s : Link) (left : Bytes) (d : BitVec 32) (l : Bytes) : Prop :=
  d = s.recursion_depth ∧ l = left

/-- Two writes of the socket, one behind the other. -/
theorem socket_write_twice {s : Link} (hopen : s.isOpen = true) (b b' : Bytes) :
    SocketWrite s (b ++ b')
      ((do TSocket.write b; TSocket.write b' : Action Unit) s).1
      ((do TSocket.write b; TSocket.write b' : Action Unit) s).2 := by
  have hfirst := socket_write_spec hopen b
  rw [Action.bind_run]
  cases hrun : TSocket.write b s with
  | mk r s₁ =>
    rw [hrun] at hfirst
    cases hfirst with
    | ok t hroom =>
      have hsecond := socket_write_spec
        (s := { s with sends := t, connections := wrote b s.connections }) hopen b'
      simp only
      generalize TSocket.write b' _ = out at hsecond ⊢
      obtain ⟨r, s₂⟩ := out
      cases hsecond with
      | ok t' hroom' =>
        simp only [wrote_wrote]
        refine SocketWrite.ok (s := s) t' ?_
        simp only [List.length_append] at hroom' ⊢
        omega
      | stop e o fs t' sent hstop hsent hroom' =>
        simp only [wrote_wrote]
        refine SocketWrite.stop (s := s) e o fs t' _ hstop ?_ ?_
        · obtain ⟨more, hmore⟩ := hsent
          exact ⟨more, by rw [List.append_assoc, hmore]⟩
        · simp only [List.length_append] at hroom' ⊢
          omega
    | stop e o fs t sent hstop hsent hroom =>
      refine SocketWrite.stop (s := s) e o fs t sent hstop (hsent.trans (List.prefix_append _ _)) ?_
      rw [List.length_append]
      omega

/-- A write of the socket with the buffer in front, after which `left` is in the buffer. -/
theorem bufferedWrite_of_socketWrite {s : Link} {buf b : Bytes} (left : Bytes)
    (hb : b ++ left = s.wBuf ++ buf) {x : Action Unit}
    (h : SocketWrite s b (x s).1 (x s).2) :
    BufferedWrite s buf False (SameDepth s s.wBuf)
      ((do x; TBufferedTransport.setWriteBuffer left : Action Unit) s).1
      ((do x; TBufferedTransport.setWriteBuffer left : Action Unit) s).2 := by
  rw [Action.bind_run]
  cases hrun : x s with
  | mk r s₁ =>
    rw [hrun] at h
    cases h with
    | ok t hroom => exact BufferedWrite.ok t b left not_false hb hroom
    | stop e o fs t sent hstop hsent hroom =>
      refine BufferedWrite.stop e o fs _ t sent s.wBuf hstop ?_ ?_ ⟨rfl, rfl⟩
      · rw [← hb]
        exact hsent.trans (List.prefix_append _ _)
      · rw [← hb, List.length_append]
        omega

theorem write_spec {s : Link} (hopen : s.isOpen = true) (buf : Bytes) :
    BufferedWrite s buf False (SameDepth s s.wBuf) (TBufferedTransport.write buf s).1
      (TBufferedTransport.write buf s).2 := by
  unfold TBufferedTransport.write
  by_cases hfit : s.wBuf.length + buf.length ≤ wBufSize
  · rw [if_pos hfit]
    have hok := BufferedWrite.ok (s := s) (b := buf) (k := SameDepth s s.wBuf) s.sends []
      (s.wBuf ++ buf) not_false rfl (by simp)
    rw [wrote_nil] at hok
    exact hok
  · rw [if_neg hfit]
    unfold TBufferedTransport.writeSlow
    by_cases htwo : s.wBuf.length + buf.length ≥ 2 * wBufSize ∨ s.wBuf.length = 0
    · rw [if_pos htwo]
      by_cases hhave : s.wBuf.length > 0
      · rw [if_pos hhave]
        have htwice := socket_write_twice hopen s.wBuf buf
        rw [← Action.bind_assoc]
        exact bufferedWrite_of_socketWrite [] (List.append_nil _) htwice
      · rw [if_neg hhave]
        have hnil : s.wBuf = [] := List.length_eq_zero_iff.mp (by omega)
        have hone := socket_write_spec hopen buf
        exact bufferedWrite_of_socketWrite [] (by simp [hnil]) hone
    · rw [if_neg htwo]
      have hone := socket_write_spec hopen (s.wBuf ++ buf.take (wBufSize - s.wBuf.length))
      refine bufferedWrite_of_socketWrite _ ?_ hone
      rw [List.append_assoc, List.take_append_drop]

/-- A flush leaves nothing in the buffer, whether it succeeds or not. -/
theorem flush_spec {s : Link} (hopen : s.isOpen = true) :
    BufferedWrite s [] False (SameDepth s []) (TBufferedTransport.flush s).1
        (TBufferedTransport.flush s).2 ∧
      (TBufferedTransport.flush s).2.wBuf = [] := by
  unfold TBufferedTransport.flush
  by_cases hhave : s.wBuf.length > 0
  · rw [if_pos hhave]
    have hone := socket_write_spec (s := { s with wBuf := [] }) hopen s.wBuf
    have hset : TBufferedTransport.setWriteBuffer [] s = (.ok (), { s with wBuf := [] }) := rfl
    rw [Action.bind_ok hset]
    generalize TSocket.write s.wBuf _ = out at hone ⊢
    obtain ⟨r, s₁⟩ := out
    cases hone with
    | ok t hroom =>
      exact ⟨BufferedWrite.ok (s := s) t s.wBuf [] not_false rfl hroom, rfl⟩
    | stop e o fs t sent hstop hsent hroom =>
      refine ⟨BufferedWrite.stop (s := s) e o fs _ t sent [] hstop ?_ ?_ ⟨rfl, rfl⟩, rfl⟩
      · rw [List.append_nil]
        exact hsent
      · rw [List.append_nil]
        exact hroom
  · rw [if_neg hhave]
    have hnil : s.wBuf = [] := List.length_eq_zero_iff.mp (by omega)
    have hok := BufferedWrite.ok (s := s) (b := []) (l := False) (k := SameDepth s []) s.sends []
      [] not_false (by rw [hnil]) (by simp)
    have hs : { s with wBuf := [] } = s := by rw [← hnil]
    rw [wrote_nil, hs] at hok
    exact ⟨hok, hnil⟩

/-! ## The pieces of a message -/

/-- One write behind another. -/
theorem BufferedWrite.seq {s : Link} {x y : Action Unit} {b c : Bytes} {l m : Prop}
    {k j : BitVec 32 → Bytes → Prop} (hopen : s.isOpen = true)
    (hx : BufferedWrite s b l k (x s).1 (x s).2)
    (hy : ∀ s₁, x s = (.ok (), s₁) → s₁.isOpen = true →
      s₁.recursion_depth = s.recursion_depth →
      BufferedWrite s₁ c m j (y s₁).1 (y s₁).2) :
    BufferedWrite s (b ++ c) (l ∨ m) (fun d left => k d left ∨ j d left)
      ((do x; y : Action Unit) s).1 ((do x; y : Action Unit) s).2 := by
  rw [Action.bind_run]
  cases hrun : x s with
  | mk r s₁ =>
    rw [hrun] at hx
    cases hx with
    | ok t sent left hfull hsplit hroom =>
      have hrest := hy _ hrun hopen rfl
      simp only
      generalize y _ = out at hrest ⊢
      obtain ⟨r, s₂⟩ := out
      cases hrest with
      | ok t' sent' left' hfull' hsplit' hroom' =>
        simp only [wrote_wrote]
        refine BufferedWrite.ok (s := s) t' (sent ++ sent') left' ?_ ?_ ?_
        · rintro (h | h)
          · exact hfull h
          · exact hfull' h
        · rw [List.append_assoc, hsplit', ← List.append_assoc, hsplit, List.append_assoc]
        · simp only [List.length_append] at hroom' ⊢
          omega
      | limit x d t' sent' left' hlimit' =>
        simp only [wrote_wrote]
        exact BufferedWrite.limit (s := s) x d t' (sent ++ sent') left' (Or.inr hlimit')
      | stop e o fs d t' sent' left' hstop hsent hroom' hkept =>
        simp only [wrote_wrote]
        refine BufferedWrite.stop (s := s) e o fs d t' (sent ++ sent') left' hstop ?_ ?_
          (Or.inr hkept)
        · obtain ⟨more, hmore⟩ := hsent
          refine ⟨more, ?_⟩
          rw [List.append_assoc, hmore, ← List.append_assoc, hsplit, List.append_assoc]
        · have hlen := congrArg List.length hsplit
          simp only [List.length_append] at hroom' hlen ⊢
          omega
    | limit x d t sent left hlimit => exact BufferedWrite.limit x d t sent left (Or.inl hlimit)
    | stop e o fs d t sent left hstop hsent hroom hkept =>
      refine BufferedWrite.stop e o fs d t sent left hstop ?_ ?_ (Or.inl hkept)
      · rw [← List.append_assoc]
        exact hsent.trans (List.prefix_append _ _)
      · rw [← List.append_assoc, List.length_append]
        omega

theorem BufferedWrite.isOpen {s s' : Link} {b : Bytes} {l : Prop}
    {k : BitVec 32 → Bytes → Prop} (h : BufferedWrite s b l k (.ok ()) s')
    (hopen : s.isOpen = true) : s'.isOpen = true := by
  cases h
  exact hopen

theorem BufferedWrite.mono {s : Link} {b : Bytes} {l m : Prop}
    {k j : BitVec 32 → Bytes → Prop} {r : Except Stop Unit} {s' : Link}
    (h : BufferedWrite s b l k r s') (hlimit : l ↔ m)
    (hkept : ∀ d left, k d left → j d left) : BufferedWrite s b m j r s' := by
  cases h with
  | ok t sent left hfull hsplit hroom =>
    exact .ok t sent left (fun h => hfull (hlimit.mpr h)) hsplit hroom
  | limit x d t sent left hl => exact .limit x d t sent left (hlimit.mp hl)
  | stop e o fs d t sent left hstop hsent hroom hk =>
    exact .stop e o fs d t sent left hstop hsent hroom (hkept d left hk)

theorem writePieces_spec {s : Link} (hopen : s.isOpen = true) (ps : List Piece) :
    BufferedWrite s (encoded ps) (Piece.SIZE_LIMIT ∈ ps) (fun d _ => d = s.recursion_depth)
      (writePieces ps s).1 (writePieces ps s).2 := by
  induction ps generalizing s with
  | nil =>
    have hok := BufferedWrite.ok (s := s) (b := encoded []) (l := Piece.SIZE_LIMIT ∈ [])
      (k := fun d _ => d = s.recursion_depth) s.sends [] s.wBuf (by simp) (by simp) (by simp)
    rw [wrote_nil] at hok
    exact hok
  | cons p ps ih =>
    cases p with
    | write b =>
      have hseq := (write_spec hopen b).seq (y := writePieces ps) (c := encoded ps)
        (m := Piece.SIZE_LIMIT ∈ ps) (j := fun d _ => d = s.recursion_depth) hopen ?_
      · exact hseq.mono (by simp) fun d l h => h.elim And.left id
      · intro s₁ _ hopen₁ hdepth
        have hrest := ih hopen₁
        rw [hdepth] at hrest
        exact hrest
    | SIZE_LIMIT =>
      have hlimit := BufferedWrite.limit (s := s) (b := encoded (Piece.SIZE_LIMIT :: ps))
        (l := Piece.SIZE_LIMIT ∈ Piece.SIZE_LIMIT :: ps)
        (k := fun d _ => d = s.recursion_depth) .SIZE_LIMIT s.recursion_depth s.sends [] s.wBuf
        (by simp)
      rw [wrote_nil] at hlimit
      exact hlimit

/-! ## What is left in the buffer -/

theorem socket_write_wBuf {s : Link} (hopen : s.isOpen = true) (buf : Bytes) :
    (TSocket.write buf s).2.wBuf = s.wBuf := by
  have hspec := socket_write_spec hopen buf
  generalize TSocket.write buf s = out at hspec ⊢
  obtain ⟨r, s₁⟩ := out
  cases hspec <;> rfl

theorem socket_write_isOpen {s s₁ : Link} (hopen : s.isOpen = true) {buf : Bytes}
    (hrun : TSocket.write buf s = (.ok (), s₁)) : s₁.isOpen = true := by
  have hspec := socket_write_spec hopen buf
  rw [hrun] at hspec
  cases hspec
  exact hopen

/-- The buffer after a write of `buf`, and whether the write has stopped. -/
inductive Left (s : Link) (buf : Bytes) : Except Stop Unit → Bytes → Prop
  | kept (e : Stop) (hfull : wBufSize < s.wBuf.length + buf.length) : Left s buf (.error e) s.wBuf
  | added (hfit : s.wBuf.length + buf.length ≤ wBufSize) : Left s buf (.ok ()) (s.wBuf ++ buf)
  | nothing (hlong : wBufSize ≤ buf.length) : Left s buf (.ok ()) []
  | rest (hfull : wBufSize < s.wBuf.length + buf.length)
      (hshort : s.wBuf.length + buf.length < 2 * wBufSize) :
      Left s buf (.ok ()) (buf.drop (wBufSize - s.wBuf.length))

/-- A write of the socket before the buffer is set. -/
theorem left_of_write {s : Link} {buf left : Bytes} {x : Action Unit}
    (hx : (x s).2.wBuf = s.wBuf) (hkept : ∀ e, Left s buf (.error e) s.wBuf)
    (hleft : Left s buf (.ok ()) left) :
    Left s buf ((do x; TBufferedTransport.setWriteBuffer left : Action Unit) s).1
      ((do x; TBufferedTransport.setWriteBuffer left : Action Unit) s).2.wBuf := by
  rw [Action.bind_run]
  cases hrun : x s with
  | mk r s₁ =>
    rw [hrun] at hx
    cases r with
    | ok u => exact hleft
    | error e =>
      simp only
      rw [hx]
      exact hkept e

theorem write_left {s : Link} (hopen : s.isOpen = true) (hlen : s.wBuf.length ≤ wBufSize)
    (buf : Bytes) :
    Left s buf (TBufferedTransport.write buf s).1 (TBufferedTransport.write buf s).2.wBuf := by
  unfold TBufferedTransport.write
  by_cases hfit : s.wBuf.length + buf.length ≤ wBufSize
  · rw [if_pos hfit]
    exact .added hfit
  · rw [if_neg hfit]
    have hfull := Nat.lt_of_not_le hfit
    have hkept : ∀ e, Left s buf (.error e) s.wBuf := fun e => .kept e hfull
    unfold TBufferedTransport.writeSlow
    by_cases htwo : s.wBuf.length + buf.length ≥ 2 * wBufSize ∨ s.wBuf.length = 0
    · rw [if_pos htwo]
      have hlong : wBufSize ≤ buf.length := by omega
      by_cases hhave : s.wBuf.length > 0
      · rw [if_pos hhave, ← Action.bind_assoc]
        refine left_of_write ?_ hkept (.nothing hlong)
        rw [Action.bind_run]
        have hfirst := socket_write_wBuf hopen s.wBuf
        cases hrun : TSocket.write s.wBuf s with
        | mk r s₁ =>
          rw [hrun] at hfirst
          cases r with
          | ok u => exact (socket_write_wBuf (socket_write_isOpen hopen hrun) buf).trans hfirst
          | error e => exact hfirst
      · rw [if_neg hhave]
        exact left_of_write (socket_write_wBuf hopen buf) hkept (.nothing hlong)
    · rw [if_neg htwo]
      have hshort : s.wBuf.length + buf.length < 2 * wBufSize := by omega
      exact left_of_write (socket_write_wBuf hopen _) hkept (.rest hfull hshort)

/-- A long write comes behind a short one, and so does an end by `SIZE_LIMIT`. -/
def Padded : Bool → List Piece → Prop
  | _, [] => True
  | behind, .write b :: ps =>
    (b ≠ [] ∧ b.length < wBufSize ∧ Padded true ps) ∨ (behind = true ∧ Padded false ps)
  | behind, .SIZE_LIMIT :: _ => behind = true

/-- A short write leaves something in the buffer. -/
theorem write_short {s : Link} (hopen : s.isOpen = true) (hlen : s.wBuf.length ≤ wBufSize)
    {b : Bytes} (hne : b ≠ []) (hshort : b.length < wBufSize) :
    (TBufferedTransport.write b s).2.wBuf ≠ [] := by
  have hleft := write_left hopen hlen b
  have hpos : 0 < b.length := List.length_pos_iff.mpr hne
  intro hnil
  rw [hnil] at hleft
  generalize (TBufferedTransport.write b s).1 = r at hleft
  generalize hl : ([] : Bytes) = l at hleft
  cases hleft with
  | kept e hfull =>
    rw [← hl, List.length_nil] at hfull
    omega
  | added hfit => exact hne (List.append_eq_nil_iff.mp hl.symm).2
  | nothing hlong => omega
  | rest hfull hsum =>
    have hdrop := congrArg List.length hl
    rw [List.length_nil, List.length_drop] at hdrop
    omega

theorem write_isOpen {s s₁ : Link} (hopen : s.isOpen = true) {b : Bytes}
    (hrun : TBufferedTransport.write b s = (.ok (), s₁)) : s₁.isOpen = true := by
  have hspec := write_spec hopen b
  rw [hrun] at hspec
  exact hspec.isOpen hopen

theorem write_wBuf_length {s : Link} (hopen : s.isOpen = true) (hlen : s.wBuf.length ≤ wBufSize)
    (b : Bytes) : (TBufferedTransport.write b s).2.wBuf.length ≤ wBufSize := by
  have hleft := write_left hopen hlen b
  generalize (TBufferedTransport.write b s).1 = r at hleft
  generalize (TBufferedTransport.write b s).2.wBuf = l at hleft
  cases hleft with
  | kept e hfull => exact hlen
  | added hfit =>
    rw [List.length_append]
    exact hfit
  | nothing hlong => exact Nat.zero_le _
  | rest hfull hsum =>
    rw [List.length_drop]
    omega

/-- Padded writes that do not come to their end leave something in the buffer. -/
theorem writePieces_residue {ps : List Piece} {behind : Bool} (hps : Padded behind ps) {s : Link}
    (hopen : s.isOpen = true) (hlen : s.wBuf.length ≤ wBufSize)
    (hbehind : behind = true → s.wBuf ≠ []) {e : Stop} (he : (writePieces ps s).1 = .error e) :
    (writePieces ps s).2.wBuf ≠ [] := by
  induction ps generalizing s behind with
  | nil => cases he
  | cons p ps ih =>
    cases p with
    | SIZE_LIMIT => exact hbehind hps
    | write b =>
      unfold writePieces at he ⊢
      rw [Action.bind_run] at he ⊢
      have hlen' := write_wBuf_length hopen hlen b
      cases hrun : TBufferedTransport.write b s with
      | mk r s₁ =>
        rw [hrun] at he hlen'
        cases r with
        | ok u =>
          have hopen₁ := write_isOpen hopen hrun
          rcases hps with ⟨hne, hshort, hrest⟩ | ⟨-, hrest⟩
          · have hnext := write_short hopen hlen hne hshort
            rw [hrun] at hnext
            exact ih hrest hopen₁ hlen' (fun _ => hnext) he
          · exact ih hrest hopen₁ hlen' (by simp) he
        | error e' =>
          have hleft := write_left hopen hlen b
          rw [hrun] at hleft
          simp only at hleft ⊢
          rcases hps with ⟨hne, hshort, -⟩ | ⟨hb, -⟩
          · have hnext := write_short hopen hlen hne hshort
            rw [hrun] at hnext
            exact hnext
          · generalize s₁.wBuf = l at hleft ⊢
            cases hleft
            exact hbehind hb

/-! ## A whole request -/

/-- No string of the request is too long for the protocol. -/
def Request.Short (q : Request) : Prop :=
  ∀ str, TArg.string str ∈ q.args → str.length ≤ INT32_MAX

/-- The client stops before the request is sent. -/
def Request.Limited (q : Request) (s : Link) : Prop :=
  ¬ q.Short ∨ DEFAULT_RECURSION_LIMIT < s.recursion_depth + 1

theorem size_limit_mem_writeString (str : Bytes) :
    Piece.SIZE_LIMIT ∈ TBinaryProtocol.writeString str ↔ INT32_MAX < str.length := by
  unfold TBinaryProtocol.writeString
  by_cases hlong : INT32_MAX < str.length
  · simp [hlong]
  · rw [if_neg hlong]
    by_cases hpos : str.length > 0 <;> simp [TBinaryProtocol.writeI32, hlong, hpos]

theorem size_limit_mem_writeFields (id : Nat) (args : List TArg) :
    Piece.SIZE_LIMIT ∈ writeFields id args ↔
      ∃ str, TArg.string str ∈ args ∧ INT32_MAX < str.length := by
  induction args generalizing id with
  | nil => simp [writeFields, TBinaryProtocol.writeFieldStop, TBinaryProtocol.writeByte]
  | cons arg args ih =>
    have hbegin : Piece.SIZE_LIMIT ∉
        TBinaryProtocol.writeFieldBegin arg.type (BitVec.ofNat 16 id) := by
      simp [TBinaryProtocol.writeFieldBegin, TBinaryProtocol.writeByte, TBinaryProtocol.writeI16]
    have harg : Piece.SIZE_LIMIT ∈ arg.write ↔
        ∃ str, TArg.string str = arg ∧ INT32_MAX < str.length := by
      cases arg with
      | string str => simp [TArg.write, size_limit_mem_writeString]
      | _ => simp [TArg.write, TBinaryProtocol.writeBool, TBinaryProtocol.writeI32,
          TBinaryProtocol.writeI64]
    unfold writeFields
    rw [List.mem_append, List.mem_append, harg, ih]
    constructor
    · rintro ((h | ⟨str, hstr, hlong⟩) | ⟨str, hstr, hlong⟩)
      · exact absurd h hbegin
      · exact ⟨str, by rw [hstr]; exact List.mem_cons_self .., hlong⟩
      · exact ⟨str, List.mem_cons_of_mem _ hstr, hlong⟩
    · rintro ⟨str, hstr, hlong⟩
      rcases List.mem_cons.mp hstr with h | h
      · exact Or.inl (Or.inr ⟨str, h, hlong⟩)
      · exact Or.inr ⟨str, h, hlong⟩

theorem short_iff (q : Request) : q.Short ↔ Piece.SIZE_LIMIT ∉ q.argsWrite := by
  unfold Request.argsWrite
  rw [size_limit_mem_writeFields]
  unfold Request.Short
  push Not
  exact Iff.rfl

/-- The names of the methods are short. -/
theorem size_limit_messageBegin (q : Request) : Piece.SIZE_LIMIT ∉ q.messageBegin := by
  have hname : ¬ INT32_MAX < q.name.length := by
    cases q with
    | spool q => cases q <;> simp [Request.name, ascii, INT32_MAX]
    | usb q => cases q <;> simp [Request.name, ascii, INT32_MAX]
  unfold Request.messageBegin TBinaryProtocol.writeMessageBegin
  simp [size_limit_mem_writeString, TBinaryProtocol.writeI32, hname]

theorem padded_append {behind : Bool} {b : Bytes} {ps : List Piece} (hne : b ≠ [])
    (hshort : b.length < wBufSize) (h : Padded true ps) : Padded behind (.write b :: ps) :=
  Or.inl ⟨hne, hshort, h⟩

theorem bigEndian_length (k n : Nat) : (bigEndian k n).length = k := by
  induction k generalizing n with
  | zero => rfl
  | succ k ih => simp [bigEndian, ih]

/-- A number of a few bytes is a short write. -/
theorem padded_bigEndian {behind : Bool} {k n : Nat} {ps : List Piece} (hpos : 0 < k)
    (hle : k < wBufSize) (h : Padded true ps) : Padded behind (.write (bigEndian k n) :: ps) := by
  have hlen := bigEndian_length k n
  refine padded_append ?_ (by omega) h
  intro hnil
  rw [hnil, List.length_nil] at hlen
  omega

theorem padded_byte {behind : Bool} {b : UInt8} {ps : List Piece} (h : Padded true ps) :
    Padded behind (.write [b] :: ps) :=
  padded_append (List.cons_ne_nil _ _) (by simp [wBufSize]) h

/-- The payload of a string comes behind its size. -/
theorem padded_writeFields (behind : Bool) (id : Nat) (args : List TArg) :
    Padded behind (writeFields id args) := by
  induction args generalizing id behind with
  | nil => exact padded_byte trivial
  | cons arg args ih =>
    refine padded_byte (padded_bigEndian (by omega) (by simp [wBufSize]) ?_)
    cases arg with
    | bool value => exact padded_byte (ih _ _)
    | i32 n => exact padded_bigEndian (by omega) (by simp [wBufSize]) (ih _ _)
    | i64 n => exact padded_bigEndian (by omega) (by simp [wBufSize]) (ih _ _)
    | string str =>
      simp only [TArg.write, TBinaryProtocol.writeString]
      by_cases hlong : INT32_MAX < str.length
      · rw [if_pos hlong]
        exact rfl
      · rw [if_neg hlong]
        refine padded_bigEndian (by omega) (by simp [wBufSize]) ?_
        by_cases hpos : str.length > 0
        · rw [if_pos hpos]
          exact Or.inr ⟨rfl, ih _ _⟩
        · rw [if_neg hpos]
          exact ih _ _

theorem writePieces_wBuf_length (ps : List Piece) {s : Link} (hopen : s.isOpen = true)
    (hlen : s.wBuf.length ≤ wBufSize) : (writePieces ps s).2.wBuf.length ≤ wBufSize := by
  induction ps generalizing s with
  | nil => exact hlen
  | cons p ps ih =>
    cases p with
    | SIZE_LIMIT => exact hlen
    | write b =>
      unfold writePieces
      rw [Action.bind_run]
      have hlen' := write_wBuf_length hopen hlen b
      cases hrun : TBufferedTransport.write b s with
      | mk r s₁ =>
        rw [hrun] at hlen'
        cases r with
        | ok u => exact ih (write_isOpen hopen hrun) hlen'
        | error e => exact hlen'

/-- What is left if a request is stopped: the recursion depth is counted up only with something
in the buffer. -/
def Residue (s : Link) (d : BitVec 32) (l : Bytes) : Prop :=
  d = s.recursion_depth ∨ (s.wBuf.length ≤ wBufSize → l ≠ [])

theorem pargsWrite_spec {s : Link} (hopen : s.isOpen = true) (q : Request) :
    BufferedWrite s (encoded q.argsWrite) (q.Limited s) (Residue s) (q.pargsWrite s).1
      (q.pargsWrite s).2 := by
  unfold Request.pargsWrite
  rw [Action.bind_run]
  unfold incrementRecursionDepth
  by_cases hdepth : DEFAULT_RECURSION_LIMIT < s.recursion_depth + 1
  · have hlimit := BufferedWrite.limit (s := s) (b := encoded q.argsWrite) (k := Residue s)
      .DEPTH_LIMIT (s.recursion_depth + 1) s.sends [] s.wBuf (show q.Limited s from Or.inr hdepth)
    rw [wrote_nil] at hlimit
    simp only [hdepth, if_true]
    exact hlimit
  · simp only [hdepth, if_false]
    rw [Action.bind_run]
    have hargs := writePieces_spec (s := { s with recursion_depth := s.recursion_depth + 1 })
      hopen q.argsWrite
    have hres := writePieces_residue (padded_writeFields false 1 q.args)
      (s := { s with recursion_depth := s.recursion_depth + 1 }) hopen
    unfold Request.argsWrite at hargs ⊢
    cases hrun : writePieces (writeFields 1 q.args)
        { s with recursion_depth := s.recursion_depth + 1 } with
    | mk r s₁ =>
      rw [hrun] at hargs hres
      have hshort := short_iff q
      unfold Request.argsWrite at hshort
      cases hargs with
      | ok t sent left hfull hsplit hroom =>
        have hback : s.recursion_depth + 1 - 1 = s.recursion_depth := BitVec.add_sub_cancel _ _
        have hok := BufferedWrite.ok (s := s) (b := encoded (writeFields 1 q.args))
          (l := q.Limited s) (k := Residue s) t sent left
          (fun h => h.elim (fun hs => hs (hshort.mpr hfull)) hdepth) hsplit hroom
        simp only [decrementRecursionDepth, hback]
        exact hok
      | limit x d t sent left hlimit =>
        have hlong : ¬ q.Short := fun h => hshort.mp h hlimit
        exact BufferedWrite.limit (s := s) x d t sent left (Or.inl hlong)
      | stop e o fs d t sent left hstop hsent hroom hkept =>
        refine BufferedWrite.stop (s := s) e o fs d t sent left hstop hsent hroom (Or.inr ?_)
        intro hlen
        exact hres hlen (by simp) rfl

theorem Request.limited_congr (q : Request) {s s₁ : Link}
    (h : s₁.recursion_depth = s.recursion_depth) : q.Limited s₁ ↔ q.Limited s := by
  unfold Request.Limited
  rw [h]

/-- The sending of a request. -/
theorem send_spec {s : Link} (hopen : s.isOpen = true) (q : Request) :
    BufferedWrite s q.encoding (q.Limited s) (Residue s) (q.send s).1 (q.send s).2 := by
  have hall : q.encoding = encoded q.messageBegin ++ (encoded q.argsWrite ++ []) := by
    unfold Request.encoding
    rw [encoded_append, List.append_nil]
  have hseq := (writePieces_spec hopen q.messageBegin).seq
    (y := do q.pargsWrite; TBufferedTransport.flush) (c := encoded q.argsWrite ++ [])
    (m := q.Limited s) (j := Residue s) hopen ?_
  · rw [hall]
    refine hseq.mono (by simp [size_limit_messageBegin]) ?_
    rintro d l (h | h)
    · exact Or.inl h
    · exact h
  · intro s₁ hrun hopen₁ hdepth
    have hseq₁ := (pargsWrite_spec hopen₁ q).seq (y := TBufferedTransport.flush) (c := [])
      (m := False) (j := fun d _ => d = s.recursion_depth) hopen₁ ?_
    · refine hseq₁.mono (by rw [or_false, q.limited_congr hdepth]) ?_
      rintro d l ((h | h) | h)
      · exact Or.inl (h.trans hdepth)
      · refine Or.inr fun hlen => h ?_
        have hlen₁ := writePieces_wBuf_length q.messageBegin hopen hlen
        rw [hrun] at hlen₁
        exact hlen₁
      · exact Or.inl h
    · intro s₂ _ hopen₂ hdepth₂
      exact (flush_spec hopen₂).1.mono Iff.rfl fun d l h => h.1.trans (hdepth₂.trans hdepth)

/-- A request that is sent leaves nothing in the buffer. -/
theorem send_wBuf {s s' : Link} (hopen : s.isOpen = true) {q : Request}
    (hrun : q.send s = (.ok (), s')) : s'.wBuf = [] := by
  obtain ⟨_, s₁, hbegin, hrest⟩ := Action.bind_eq_ok.mp hrun
  obtain ⟨_, s₂, hargs, hflush⟩ := Action.bind_eq_ok.mp hrest
  have hpieces := writePieces_spec hopen q.messageBegin
  rw [hbegin] at hpieces
  have hpargs := pargsWrite_spec (hpieces.isOpen hopen) q
  rw [hargs] at hpargs
  have hempty := (flush_spec (hpargs.isOpen (hpieces.isOpen hopen))).2
  rw [hflush] at hempty
  exact hempty

/-! ## A request that fits the buffer -/

theorem encoded_cons (b : Bytes) (ps : List Piece) :
    encoded (.write b :: ps) = b ++ encoded ps := rfl

theorem writePieces_fits (ps : List Piece) {s : Link} (hfull : Piece.SIZE_LIMIT ∉ ps)
    (hfits : s.wBuf.length + (encoded ps).length ≤ wBufSize) :
    writePieces ps s = (.ok (), { s with wBuf := s.wBuf ++ encoded ps }) := by
  induction ps generalizing s with
  | nil =>
    rw [encoded_nil, List.append_nil]
    rfl
  | cons p ps ih =>
    rw [List.mem_cons, not_or] at hfull
    cases p with
    | SIZE_LIMIT => exact absurd rfl hfull.1
    | write b =>
      rw [encoded_cons, List.length_append] at hfits
      have hwrite : TBufferedTransport.write b s = (.ok (), { s with wBuf := s.wBuf ++ b }) := by
        unfold TBufferedTransport.write
        rw [if_pos (by omega)]
        rfl
      unfold writePieces
      rw [Action.bind_ok hwrite, ih hfull.2 (by simp only [List.length_append]; omega),
        encoded_cons, List.append_assoc]

theorem encoding_ne_nil (q : Request) : q.encoding ≠ [] := by
  intro hnil
  have hlen := congrArg List.length hnil
  unfold Request.encoding Request.messageBegin TBinaryProtocol.writeMessageBegin at hlen
  rw [encoded_append, List.length_append] at hlen
  simp [TBinaryProtocol.writeI32, encoded_cons, bigEndian_length] at hlen

/-- Its bytes are sent by `flush` only. -/
theorem send_fits {s : Link} {q : Request} (hcan : ¬ q.Limited s)
    (hfits : s.wBuf.length + q.encoding.length ≤ wBufSize) :
    q.send s = TBufferedTransport.flush { s with wBuf := s.wBuf ++ q.encoding } := by
  unfold Request.Limited at hcan
  rw [not_or, not_not] at hcan
  obtain ⟨hshort, hdepth⟩ := hcan
  have hall : q.encoding = encoded q.messageBegin ++ encoded q.argsWrite := by
    unfold Request.encoding
    rw [encoded_append]
  rw [hall, List.length_append] at hfits
  have hbegin := writePieces_fits q.messageBegin (s := s) (size_limit_messageBegin q) (by omega)
  have hargs := writePieces_fits q.argsWrite
    (s := { s with wBuf := s.wBuf ++ encoded q.messageBegin
                   recursion_depth := s.recursion_depth + 1 })
    ((short_iff q).mp hshort) (by simp only [List.length_append]; omega)
  have hinc : incrementRecursionDepth { s with wBuf := s.wBuf ++ encoded q.messageBegin } =
      (.ok (), { s with wBuf := s.wBuf ++ encoded q.messageBegin
                        recursion_depth := s.recursion_depth + 1 }) := if_neg hdepth
  have hback : s.recursion_depth + 1 - 1 = s.recursion_depth := BitVec.add_sub_cancel _ _
  have hpargs : q.pargsWrite { s with wBuf := s.wBuf ++ encoded q.messageBegin } =
      (.ok (), { s with wBuf := s.wBuf ++ q.encoding }) := by
    unfold Request.pargsWrite
    rw [Action.bind_ok hinc, Action.bind_ok hargs]
    unfold decrementRecursionDepth
    simp only [hback, hall, List.append_assoc]
  unfold Request.send
  rw [Action.bind_ok hbegin, Action.bind_ok hpargs]

/-- If the first `send` fails, then nothing of it is sent, and nothing of it is left. -/
theorem send_none {s : Link} (hopen : s.isOpen = true) {q : Request} (hcan : ¬ q.Limited s)
    (hempty : s.wBuf = []) (hfits : q.encoding.length ≤ wBufSize) (hroom : room s.sends = 0) :
    ∃ e o fs t, Stops e o fs ∧ q.send s =
      (.error e, { s with sends := t, isOpen := o, faults := s.faults ++ fs }) := by
  have hsend := send_fits hcan (by rw [hempty, List.length_nil]; omega)
  obtain ⟨e, o, fs, t, hstop, hwrite⟩ :=
    socket_write_none (s := { s with wBuf := [] }) hopen hroom (encoding_ne_nil q)
  refine ⟨e, o, fs, t, hstop, ?_⟩
  have hpos := List.length_pos_iff.mpr (encoding_ne_nil q)
  have hset : TBufferedTransport.setWriteBuffer [] { s with wBuf := q.encoding } =
      (.ok (), { s with wBuf := [] }) := rfl
  rw [hsend, hempty, List.nil_append]
  unfold TBufferedTransport.flush
  rw [if_pos hpos, Action.bind_ok hset, hwrite, ← hempty]

end RemotePrinter
