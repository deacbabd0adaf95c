-- The one connection that all detours of a host share. A forwarded call
-- appends its request and later takes the next reply. Nothing keeps two
-- threads from doing so at the same time, and a reply carries no name but
-- that of its method, so a thread can take a reply that is meant for another.
import RemotePrinter.Fifo
import RemotePrinter.Threads
import RemotePrinter.Steps
import RemotePrinter.BinaryProtocol

open Interactive

namespace RemotePrinter

/-! ## A forwarded call in two halves -/

inductive WireOp (w : PtrWidth) where
  | own (op : ClientOp w)
  /-- `send_X`: the request is appended to the connection. -/
  | send (q : Request)
  /-- `recv_X`: the next reply is taken off the connection. -/
  | recv (q : Request)

section
variable {w : PtrWidth}

@[reducible] def WireOp.Answer : WireOp w → Type
  | own op => op.Answer
  | send _ => Unit
  | recv q => Except TException q.Result

/-- `SelfServiceClient::X`: `send_X(...)`, and then `return recv_X()`. -/
def halves : (op : ClientOp w) → Prog (WireOp w) WireOp.Answer Abnormal op.Answer
  | .api q => do
    Prog.perform (WireOp.send q)
    Prog.perform (WireOp.recv q)
  | .ensure_connection => Prog.perform (WireOp.own .ensure_connection)
  | .isBixolonPrinterByName x => Prog.perform (WireOp.own (.isBixolonPrinterByName x))
  | .isBixolonPrinterByHandle h => Prog.perform (WireOp.own (.isBixolonPrinterByHandle h))
  | .addBixolonPrinter h => Prog.perform (WireOp.own (.addBixolonPrinter h))
  | .closeBixolonPrinter h => Prog.perform (WireOp.own (.closeBixolonPrinter h))
  | .original c => Prog.perform (WireOp.own (.original c))
  | .read_from_file x => Prog.perform (WireOp.own (.read_from_file x))

def wired (c : HostCall w) : Prog (WireOp w) WireOp.Answer Abnormal c.Ret :=
  c.detour.subst halves

/-- Whether a thread waits for a reply. -/
inductive Phase where
  | ready
  | waiting
  deriving DecidableEq

/-- Every `send_X` is followed by its `recv_X`. -/
def sendThenRecv : Discipline (WireOp w) WireOp.Answer Phase where
  allowed s
    | .own _ => s = .ready
    | .send _ => s = .ready
    | .recv _ => s = .waiting
  possible _ _ := True
  next s
    | .own _, _ => s
    | .send _, _ => .waiting
    | .recv _, _ => .ready

theorem wired_follows (c : HostCall w) :
    (wired c).Follows sendThenRecv (fun s _ => s = .ready) .ready := by
  refine Prog.Follows.subst (fun op => ?_) _
  cases op with
  | api q => exact ⟨rfl, fun _ _ => ⟨rfl, fun _ _ => rfl⟩⟩
  | _ => exact ⟨rfl, fun _ _ => rfl⟩

end

/-! ## The connection -/

/-- The field `success` of a result. -/
inductive Success where
  | handles (m : StdMap I64)
  | counts (m : StdMap I32)
  | bool (b : Bool)
  | i32 (n : I32)

def Request.success : (q : Request) → q.Result → Success
  | spool (.OpenPrinterA ..), m => .handles m
  | spool (.OpenPrinterW ..), m => .handles m
  | spool (.StartPagePrinter _), b => .bool b
  | spool (.StartDocPrinterW ..), n => .i32 n
  | spool (.WritePrinter ..), m => .counts m
  | spool (.EndPagePrinter _), b => .bool b
  | spool (.EndDocPrinter _), b => .bool b
  | spool (.ClosePrinter _), b => .bool b
  | usb _, n => .i32 n

/-- A reply, with the number of the request that it answers. The number is not sent: the
sequence id of every message is 0. -/
structure Reply where
  number : Nat
  name : Bytes
  success : Success

variable {d : Deployment} {ι : Type}

/-- All requests and replies of the connection, and how many replies were taken off it. -/
structure Wire (d : Deployment) where
  world : World d
  requests : List Request := []
  replies : List Reply := []
  taken : Nat := 0

inductive WireNote (d : Deployment) where
  | own (n : Served d)
  | sent
  | took (r : Reply)

/-- The operations on the connection. A reply of the same method is read as it is; what a call
reads behind a reply of another method is not said. -/
def Wire.env : Env (WireOp d.client) WireOp.Answer (WireNote d) (Wire d) := fun V op a n V' =>
  match op, a with
  | .own (.api _), _ => False
  | .own op, a =>
    ∃ served W, n = .own served ∧ World.env V.world op a served W ∧
      UpAt V.world.server.pid ⟨op, a, served⟩ ∧ V' = { V with world := W }
  | .send q, _ => n = .sent ∧ V' = { V with requests := V.requests ++ [q] }
  | .recv q, a =>
    ∃ r, V.replies[V.taken]? = some r ∧ n = .took r ∧
      (r.name = q.name → ∃ v, a = .ok v ∧ q.success v = r.success) ∧
      V' = { V with taken := V.taken + 1 }

/-- The handler of a request, on the spooler of the server. -/
def Wire.Serves (W : World d) : (q : Request) → q.Result → World d → Prop
  | .spool q, v, W' =>
    ∃ calls spooler, (ApiForwardHandler.handle d.server W.server.fp q).RunsIn Spooler.env
      W.server.spooler calls (.ok v) spooler ∧ W' = W.withSpooler spooler
  | .usb _, _, W' => W' = W

/-- The server answers the first request that has no reply. -/
def Wire.Answers (V : Wire d) (r : Reply) (V' : Wire d) : Prop :=
  ∃ q v W, V.requests[V.replies.length]? = some q ∧ Wire.Serves V.world q v W ∧
    r = { number := V.replies.length, name := q.name, success := q.success v } ∧
    V' = { V with world := W, replies := V.replies ++ [r] }

abbrev WirePool (d : Deployment) (ι : Type) :=
  Pool ι (WireOp d.client) WireOp.Answer Abnormal (HostCall d.client) HostCall.Ret (Wire d)

abbrev WireEvent (d : Deployment) (ι : Type) :=
  Event ι (WireOp d.client) WireOp.Answer Abnormal (HostCall d.client) HostCall.Ret (WireNote d)
    Reply

/-- A thread makes one step in its detour, or the server answers a request. -/
def WirePool.Step [DecidableEq ι] : WirePool d ι → WireEvent d ι → WirePool d ι → Prop :=
  Pool.Step Wire.env Wire.Answers wired

/-! ## Whose reply a call takes -/

def turnOf : WireEvent d ι → Option (Turn ι)
  | .acted i ⟨.send _, _, _⟩ => some (.send i)
  | .acted i ⟨.recv _, _, _⟩ => some (.take i)
  | _ => none

/-- The requests and replies of the run, by the threads that sent and took them. -/
def turns (es : List (WireEvent d ι)) : List (Turn ι) := es.filterMap turnOf

/-- The reply that a call takes is the reply to the request that its thread sent last. -/
def OwnReply (es : List (WireEvent d ι)) : WireEvent d ι → Prop
  | .acted i ⟨.recv _, _, .took r⟩ => LastAt (senders (turns es)) i r.number
  | _ => True

/-! ## Every take is a turn -/

/-- A thread that waits has one reply to get. -/
def Phase.due : Phase → Nat
  | ready => 0
  | waiting => 1

section
variable [DecidableEq ι] {es : List (WireEvent d ι)} {e : WireEvent d ι} {P P' : WirePool d ι}
  {st : ι → Phase}

structure InTurn (es : List (WireEvent d ι)) (P : WirePool d ι) (st : ι → Phase) : Prop where
  sent : P.shared.requests.length = (senders (turns es)).length
  taken : P.shared.taken = (takers (turns es)).length
  answered : P.shared.replies.length ≤ P.shared.requests.length
  numbered : ∀ (k : Nat) (r : Reply), P.shared.replies[k]? = some r → r.number = k
  due : ∀ i, (senders (turns es)).count i = (takers (turns es)).count i + (st i).due
  staged : P.Staged sendThenRecv (fun _ s _ => s = .ready) .ready st

omit [DecidableEq ι] in
theorem turns_none (h : turnOf e = none) : turns (es ++ [e]) = turns es := by
  simp [turns, h]

omit [DecidableEq ι] in
theorem turns_some {t : Turn ι} (h : turnOf e = some t) : turns (es ++ [e]) = turns es ++ [t] := by
  simp [turns, h]

/-- A step of a thread that neither sends nor takes. -/
theorem InTurn.quiet {u : ι → Phase} (h : InTurn es P st) (he : turnOf e = none)
    (hV : P'.shared.requests = P.shared.requests ∧ P'.shared.replies = P.shared.replies ∧
      P'.shared.taken = P.shared.taken)
    (hdue : ∀ i, (u i).due = (st i).due)
    (hst : P'.Staged sendThenRecv (fun _ s _ => s = .ready) .ready u) :
    InTurn (es ++ [e]) P' u := by
  obtain ⟨hreq, hrep, htaken⟩ := hV
  constructor
  · rw [turns_none he, hreq]
    exact h.sent
  · rw [turns_none he, htaken]
    exact h.taken
  · rw [hreq, hrep]
    exact h.answered
  · rw [hrep]
    exact h.numbered
  · intro i
    rw [turns_none he, hdue]
    exact h.due i
  · exact hst

theorem InTurn.send {i : ι} {q : Request} {n : WireNote d} {V : Wire d} (h : InTurn es P st)
    (hst : st i = .ready) (hV : V = { P.shared with requests := P.shared.requests ++ [q] })
    (hP : P'.shared = V)
    (hstaged : P'.Staged sendThenRecv (fun _ s _ => s = .ready) .ready
      (Function.update st i .waiting)) :
    InTurn (es ++ [.acted i ⟨.send q, (), n⟩]) P' (Function.update st i .waiting) := by
  have hturn : turns (es ++ [.acted i ⟨.send q, (), n⟩]) = turns es ++ [.send i] := turns_some rfl
  subst hV
  constructor
  · rw [hturn, hP, senders_send, List.length_append, List.length_append, h.sent]
    rfl
  · rw [hturn, hP, takers_send]
    exact h.taken
  · rw [hP, List.length_append]
    exact Nat.le_add_right_of_le h.answered
  · rw [hP]
    exact h.numbered
  · intro j
    rw [hturn, senders_send, takers_send, List.count_append, h.due j]
    by_cases hji : j = i
    · subst hji
      simp [hst, Phase.due]
    · have hij : i ≠ j := fun he => hji he.symm
      simp [hji, hij]
  · exact hstaged

theorem InTurn.take {i : ι} {q : Request} {a : Except TException q.Result} {n : WireNote d}
    {V : Wire d} (h : InTurn es P st) (hst : st i = .waiting)
    (hV : V = { P.shared with taken := P.shared.taken + 1 }) (hP : P'.shared = V)
    (hstaged : P'.Staged sendThenRecv (fun _ s _ => s = .ready) .ready
      (Function.update st i .ready)) :
    InTurn (es ++ [.acted i ⟨.recv q, a, n⟩]) P' (Function.update st i .ready) := by
  have hturn : turns (es ++ [.acted i ⟨.recv q, a, n⟩]) = turns es ++ [.take i] := turns_some rfl
  subst hV
  constructor
  · rw [hturn, hP, senders_take]
    exact h.sent
  · rw [hturn, hP, takers_take, List.length_append, h.taken]
    rfl
  · rw [hP]
    exact h.answered
  · rw [hP]
    exact h.numbered
  · intro j
    rw [hturn, senders_take, takers_take, List.count_append, h.due j]
    by_cases hji : j = i
    · subst hji
      simp [hst, Phase.due]
    · have hij : i ≠ j := fun he => hji he.symm
      simp [hji, hij]
  · exact hstaged

theorem InTurn.answer {r : Reply} {V : Wire d} (h : InTurn es P st)
    (hV : Wire.Answers P.shared r V) :
    InTurn (es ++ [.outside r]) { P with shared := V } st := by
  obtain ⟨q, v, W, hq, -, rfl, rfl⟩ := hV
  constructor
  · rw [turns_none rfl]
    exact h.sent
  · rw [turns_none rfl]
    exact h.taken
  · obtain ⟨hlt, -⟩ := List.getElem?_eq_some_iff.mp hq
    simp only [List.length_append, List.length_singleton]
    omega
  · intro k r hr
    by_cases hk : k < P.shared.replies.length
    · rw [List.getElem?_append_left hk] at hr
      exact h.numbered k r hr
    · rw [List.getElem?_append_right (Nat.le_of_not_lt hk)] at hr
      obtain ⟨hlt, hr⟩ := List.getElem?_eq_some_iff.mp hr
      have hk' : k = P.shared.replies.length := by
        rw [List.length_singleton] at hlt
        omega
      rw [List.getElem_singleton] at hr
      rw [← hr, hk']
  · intro i
    rw [turns_none rfl]
    exact h.due i
  · exact h.staged.share _

/-- One step: a take is due and comes after its answer, and takes the reply with the number of
the takes before it. -/
theorem InTurn.step (h : InTurn es P st) (hs : WirePool.Step P e P') :
    (∃ st', InTurn (es ++ [e]) P' st') ∧
      (∀ t, turnOf e = some t → TakesDue (turns es) t ∧ TakesAnswered (turns es) t) ∧
      (OwnReply es e ↔ ∀ t, turnOf e = some t → TakesOwn (turns es) t) := by
  cases hs with
  | @start i c hi =>
    refine ⟨⟨_, h.quiet (u := Function.update st i .ready) rfl ⟨rfl, rfl, rfl⟩ ?_
      (h.staged.set ?_ (by simp))⟩, by simp [turnOf], by simp [turnOf, OwnReply]⟩
    · intro j
      rw [← h.staged.idle i hi, Function.update_eq_self]
    · intro t ht
      cases ht
      exact wired_follows c
  | @act i c op k a n V hi henv =>
    obtain ⟨hallowed, hnext⟩ := h.staged.busy i _ hi
    have hstaged := (h.staged.share V).set (i := i) (t := some ⟨c, k a⟩)
      (fun t ht => by cases ht; exact hnext a trivial) (by simp)
    cases op with
    | own op =>
      refine ⟨⟨st, h.quiet rfl ?_ (fun _ => rfl) ?_⟩, by simp [turnOf], by simp [turnOf, OwnReply]⟩
      · cases op with
        | api q => exact absurd henv id
        | _ =>
          obtain ⟨served, W, -, -, -, rfl⟩ := henv
          exact ⟨rfl, rfl, rfl⟩
      · have hsame : Function.update st i (sendThenRecv.next (st i) (WireOp.own op) a) = st :=
          Function.update_eq_self i st
        rw [hsame] at hstaged
        exact hstaged
    | send q =>
      obtain ⟨-, hV⟩ := henv
      refine ⟨⟨_, h.send hallowed hV rfl hstaged⟩, ?_, by simp [turnOf, OwnReply, TakesOwn]⟩
      intro t ht
      cases ht
      exact ⟨trivial, trivial⟩
    | recv q =>
      obtain ⟨r, hr, rfl, -, hV⟩ := henv
      have hnumber : r.number = (takers (turns es)).length := by
        rw [h.numbered _ r hr, h.taken]
      refine ⟨⟨_, h.take hallowed hV rfl hstaged⟩, ?_, ?_⟩
      · intro t ht
        cases ht
        have hphase : st i = .waiting := hallowed
        have hdue := h.due i
        rw [hphase] at hdue
        refine ⟨hdue, ?_⟩
        obtain ⟨hlt, -⟩ := List.getElem?_eq_some_iff.mp hr
        have hans := h.answered
        have hsent := h.sent
        have htaken := h.taken
        unfold TakesAnswered
        omega
      · simp [turnOf, OwnReply, TakesOwn, hnumber]
  | @done i c a hi =>
    have hphase : st i = .ready := h.staged.busy i _ hi
    refine ⟨⟨_, h.quiet (u := Function.update st i .ready) rfl ⟨rfl, rfl, rfl⟩ ?_
      (h.staged.set (by simp) (fun _ => rfl))⟩, by simp [turnOf], by simp [turnOf, OwnReply]⟩
    intro j
    rw [← hphase, Function.update_eq_self]
  | @fail i c x hi =>
    have hphase : st i = .ready := h.staged.busy i _ hi
    refine ⟨⟨_, h.quiet (u := Function.update st i .ready) rfl ⟨rfl, rfl, rfl⟩ ?_
      (h.staged.set (by simp) (fun _ => rfl))⟩, by simp [turnOf], by simp [turnOf, OwnReply]⟩
    intro j
    rw [← hphase, Function.update_eq_self]
  | tick ht => exact ⟨⟨st, h.answer ht⟩, by simp [turnOf], by simp [turnOf, OwnReply]⟩

/-- A connection on which nothing was sent yet. -/
def Wire.Fresh (V : Wire d) : Prop := V.requests = [] ∧ V.replies = [] ∧ V.taken = 0

theorem inTurn_idle {V : Wire d} (hV : V.Fresh) :
    InTurn ([] : List (WireEvent d ι)) (Pool.idle V) (fun _ => .ready) := by
  obtain ⟨hreq, hrep, htaken⟩ := hV
  constructor
  · simp [Pool.idle, hreq, turns, senders]
  · simp [Pool.idle, htaken, turns, takers]
  · simp [Pool.idle, hrep]
  · simp [Pool.idle, hrep]
  · simp [turns, senders, takers, Phase.due]
  · exact Pool.staged_idle V

/-- Each call gets its own reply just if the threads take the replies in the order in which they
sent the requests. Calls that do not overlap do so. -/
theorem own_replies_just_if_taken_in_order {V : Wire d} (hV : V.Fresh)
    (run : Run WirePool.Step (Pool.idle V) es P) :
    (Along OwnReply es ↔ takers (turns es) <+: senders (turns es)) ∧
      (Along SendsAlone (turns es) → Along OwnReply es) := by
  have hlaw : Along (fun pre e => (∀ t, turnOf e = some t →
      TakesDue (turns pre) t ∧ TakesAnswered (turns pre) t) ∧
      (OwnReply pre e ↔ ∀ t, turnOf e = some t → TakesOwn (turns pre) t)) es := by
    refine run.along (J := fun es Q => ∃ st, InTurn es Q st) (Q := fun _ _ => True)
      ⟨_, inTurn_idle hV⟩ ?_ (fun _ _ _ _ => trivial)
    rintro pre Q e Q' ⟨st, hin⟩ - hs
    exact hin.step hs
  have hdue : Along TakesDue (turns es) :=
    along_filterMap.mpr (hlaw.mono fun pre e he t ht => (he.1 t ht).1)
  have hans : Along TakesAnswered (turns es) :=
    along_filterMap.mpr (hlaw.mono fun pre e he t ht => (he.1 t ht).2)
  have hown : Along OwnReply es ↔ Along TakesOwn (turns es) := by
    rw [turns, along_filterMap]
    constructor
    · intro h pre e post hsplit
      exact (hlaw pre e post hsplit).2.mp (h pre e post hsplit)
    · intro h pre e post hsplit
      exact (hlaw pre e post hsplit).2.mpr (h pre e post hsplit)
  have hiff : Along OwnReply es ↔ takers (turns es) <+: senders (turns es) :=
    hown.trans (takesOwn_iff hdue hans)
  exact ⟨hiff, fun halone => hiff.mpr (prefix_of_sendsAlone hdue hans halone).1⟩

end

/-! ### Two threads that write at the same time -/

def sharedHandle : HANDLE x86Deployment.client := x86Deployment.clientHandle remoteHandle

def writeCall (b : Bytes) : HostCall x86Deployment.client :=
  .spool (.WritePrinter sharedHandle (some b) (BitVec.ofNat 32 b.length) true)

def writeRequest (b : Bytes) : Request :=
  .spool (.WritePrinter (SAFE_HANDLE sharedHandle) (b.take (BitVec.ofNat 32 b.length).toNat)
    (BitVec.ofNat 32 b.length))

def writeEvents (i : Bool) (b : Bytes) : List (WireEvent x86Deployment Bool) :=
  [.started i (writeCall b),
    .acted i ⟨.own .ensure_connection, true, .own { pid := 1 }⟩,
    .acted i ⟨.own (.isBixolonPrinterByHandle sharedHandle), true, .own { pid := 1 }⟩,
    .acted i ⟨.send (writeRequest b), (), .sent⟩]

/-- A thread starts a write on the tracked handle, up to the request. -/
theorem run_writeEvents {P : WirePool x86Deployment Bool} {i : Bool} (b : Bytes)
    (hi : P.threads i = none) (hW : P.shared.world = freshWorld.opened remoteHandle) :
    ∃ P' k, Run WirePool.Step P (writeEvents i b) P' ∧
      P'.threads i = some ⟨writeCall b, .call (.recv (writeRequest b)) k⟩ ∧
      P'.threads (!i) = P.threads (!i) ∧
      P'.shared = { P.shared with requests := P.shared.requests ++ [writeRequest b] } := by
  have hc : (freshWorld.opened remoteHandle).connected ≠ none := by
    simp [freshWorld, World.opened]
  have hb : sharedHandle ∈ (freshWorld.opened remoteHandle).bxprinters := by
    simp [freshWorld, World.opened, sharedHandle]
  have hensure : Wire.env P.shared (.own .ensure_connection) true (.own { pid := 1 }) P.shared := by
    refine ⟨{ pid := 1 }, P.shared.world, rfl, ?_, ?_, rfl⟩
    · rw [hW]
      exact World.env_connected hc
    · rw [hW]
      exact ⟨rfl, rfl⟩
  have htest : Wire.env P.shared (.own (.isBixolonPrinterByHandle sharedHandle)) true
      (.own { pid := 1 }) P.shared := by
    refine ⟨{ pid := 1 }, P.shared.world, rfl, ?_, ?_, rfl⟩
    · rw [hW]
      exact World.env_tracked hb
    · rw [hW]
      exact ⟨rfl, trivial⟩
  refine ⟨_, _, .cons (.start _ hi) (.cons (.act (Pool.set_threads_self _ i _) hensure)
    (.cons (.act (Pool.set_threads_self _ i _) htest)
      (.cons (.act (Pool.set_threads_self _ i _) ⟨rfl, rfl⟩) (.nil _)))),
    Pool.set_threads_self _ i _, ?_, rfl⟩
  have hne : (!i) ≠ i := by cases i <;> decide
  simp [Pool.set, hne]

/-- The result of a write that is carried out as a whole. -/
def written (b : Bytes) : StdMap I32 :=
  (ApiForwardHandler.notWritten.set kReturn 1).set kPcWritten (BitVec.ofNat 32 b.length)

/-- The reply to it. -/
def replyTo (number : Nat) (b : Bytes) : Reply :=
  { number := number, name := (writeRequest b).name, success := .counts (written b) }

theorem answers_replyTo {V : Wire x86Deployment} (b : Bytes)
    (hW : V.world = freshWorld.opened remoteHandle)
    (hnext : V.requests[V.replies.length]? = some (writeRequest b)) :
    V.Answers (replyTo V.replies.length b)
      { V with replies := V.replies ++ [replyTo V.replies.length b] } := by
  obtain ⟨world, requests, replies, taken⟩ := V
  obtain rfl : world = freshWorld.opened remoteHandle := hW
  have hrun := ApiForwardHandler.runsIn_handle (w := x86Deployment.server) Spooler.env
    freshWorld.server.fp (.WritePrinter (SAFE_HANDLE sharedHandle)
      (b.take (BitVec.ofNat 32 b.length).toNat) (BitVec.ofNat 32 b.length))
    (r := { ret := 1, pcWritten := BitVec.ofNat 32 b.length }) (l := ())
    (s := (freshWorld.opened remoteHandle).server.spooler) rfl rfl rfl
  exact ⟨writeRequest b, written b, freshWorld.opened remoteHandle, hnext, ⟨_, _, hrun, rfl⟩, rfl,
    rfl⟩

/-- Whoever waits for the reply to a write can take this one. -/
theorem env_replyTo {V : Wire x86Deployment} (number : Nat) (b b' : Bytes)
    (hnext : V.replies[V.taken]? = some (replyTo number b)) :
    Wire.env V (.recv (writeRequest b')) (.ok (written b)) (.took (replyTo number b))
      { V with taken := V.taken + 1 } :=
  ⟨replyTo number b, hnext, rfl, fun _ => ⟨written b, rfl, rfl⟩, rfl⟩

/-- The thread `i`, which waits for the reply to its write of `b'`, takes this one. -/
def takeEvent (i : Bool) (b' : Bytes) (number : Nat) (b : Bytes) : WireEvent x86Deployment Bool :=
  .acted i ⟨.recv (writeRequest b'), .ok (written b), .took (replyTo number b)⟩

/-- Two threads have sent a write each, and the first is answered. -/
theorem run_twoWrites : ∃ P : WirePool x86Deployment Bool,
    Run WirePool.Step (Pool.idle { world := freshWorld.opened remoteHandle })
      (writeEvents false [1] ++ writeEvents true [1, 2] ++ [.outside (replyTo 0 [1])]) P ∧
    (∃ k, P.threads false = some ⟨writeCall [1], .call (.recv (writeRequest [1])) k⟩) ∧
    (∃ k, P.threads true = some ⟨writeCall [1, 2], .call (.recv (writeRequest [1, 2])) k⟩) ∧
    P.shared =
      { world := freshWorld.opened remoteHandle
        requests := [writeRequest [1], writeRequest [1, 2]]
        replies := [replyTo 0 [1]] } := by
  obtain ⟨P₁, k₁, hrun₁, hthread₁, hother₁, hshared₁⟩ := run_writeEvents (i := false) [1]
    (P := Pool.idle { world := freshWorld.opened remoteHandle }) rfl rfl
  obtain ⟨P₂, k₂, hrun₂, hthread₂, hother₂, hshared₂⟩ := run_writeEvents (i := true) [1, 2]
    (P := P₁) (hother₁.trans rfl) (by rw [hshared₁]; rfl)
  have hshared : P₂.shared =
      { world := freshWorld.opened remoteHandle
        requests := [writeRequest [1], writeRequest [1, 2]] } := by
    rw [hshared₂, hshared₁]
    rfl
  have hanswers := answers_replyTo (V := P₂.shared) [1] (by rw [hshared]) (by rw [hshared]; rfl)
  have hnone : P₂.shared.replies = [] := by rw [hshared]
  rw [hnone] at hanswers
  refine ⟨_, (hrun₁.append hrun₂).append (.cons (.tick hanswers) (.nil _)),
    ⟨k₁, hother₂.trans hthread₁⟩, ⟨k₂, hthread₂⟩, ?_⟩
  rw [hshared]
  rfl

/-- Both writes are under way when the first reply is taken. -/
def inOrder : List (WireEvent x86Deployment Bool) :=
  writeEvents false [1] ++ writeEvents true [1, 2] ++ [.outside (replyTo 0 [1])] ++
    [takeEvent false [1] 0 [1], .outside (replyTo 1 [1, 2]), takeEvent true [1, 2] 1 [1, 2]]

theorem two_writes_take_their_own_replies :
    (∃ P, Run WirePool.Step (Pool.idle { world := freshWorld.opened remoteHandle }) inOrder P) ∧
      Along OwnReply inOrder := by
  obtain ⟨P, hrun, ⟨k₁, hthread₁⟩, ⟨k₂, hthread₂⟩, hshared⟩ := run_twoWrites
  have htake₁ := env_replyTo (V := P.shared) 0 [1] [1] (by rw [hshared]; rfl)
  have hanswers := answers_replyTo (V := { P.shared with taken := P.shared.taken + 1 }) [1, 2]
    (by rw [hshared]) (by rw [hshared]; rfl)
  have hone : P.shared.replies.length = 1 := by rw [hshared]; rfl
  simp only [hone] at hanswers
  have htake₂ := env_replyTo (V := { P.shared with
      replies := P.shared.replies ++ [replyTo 1 [1, 2]]
      taken := P.shared.taken + 1 }) 1 [1, 2] [1, 2] (by rw [hshared]; rfl)
  have hrun' : ∃ P', Run WirePool.Step (Pool.idle { world := freshWorld.opened remoteHandle })
      inOrder P' :=
    ⟨_, hrun.append (.cons (.act hthread₁ htake₁) (.cons (.tick hanswers)
      (.cons (.act (by exact hthread₂) htake₂) (.nil _))))⟩
  obtain ⟨P', hinOrder⟩ := hrun'
  refine ⟨⟨P', hinOrder⟩, (own_replies_just_if_taken_in_order ⟨rfl, rfl, rfl⟩ hinOrder).1.mpr ?_⟩
  exact List.prefix_refl [false, true]

/-- A thread can take the reply to the write of another. -/
theorem a_call_can_take_the_reply_of_another :
    ¬ ∀ (d : Deployment) (V : Wire d) (es : List (WireEvent d Bool)) (P : WirePool d Bool),
      V.Fresh → Run WirePool.Step (Pool.idle V) es P → Along OwnReply es := by
  intro law
  obtain ⟨P, hrun, -, ⟨k, hthread⟩, hshared⟩ := run_twoWrites
  have htake := env_replyTo (V := P.shared) 0 [1] [1, 2] (by rw [hshared]; rfl)
  have hown := (along_snoc.mp (law x86Deployment _ _ _ ⟨rfl, rfl, rfl⟩
    (hrun.append (.cons (.act hthread htake) (.nil _))))).2
  -- the reply has number 0, and the first request is one of the other thread
  obtain ⟨before, after, hsplit, hlen, -⟩ := hown
  rw [List.length_eq_zero_iff.mp hlen] at hsplit
  have hfirst : [false, true] = true :: after := hsplit
  cases hfirst

end RemotePrinter
