-- The calls of the generated client `SelfServiceClient` over the transport, and
-- the functions of `thriftlink_client.cpp` that open, check and close it.
import RemotePrinter.ThriftTransport

open Interactive

namespace RemotePrinter

namespace Action

variable {α β γ : Type}

theorem bind_assoc (x : Action α) (f : α → Action β) (g : β → Action γ) :
    (x >>= f) >>= g = x >>= fun a => f a >>= g := by
  funext s
  rw [bind_run, bind_run, bind_run]
  cases hx : x s with
  | mk r s' =>
    cases r with
    | ok a => rfl
    | error e => rfl

theorem bind_eq_ok {x : Action α} {f : α → Action β} {s s' : Link} {b : β} :
    (x >>= f) s = (.ok b, s') ↔ ∃ a s₁, x s = (.ok a, s₁) ∧ f a s₁ = (.ok b, s') := by
  rw [bind_run]
  cases hx : x s with
  | mk r s₁ =>
    cases r with
    | ok a => simp
    | error e => simp

/-- `catch (TException& tx)`: the exceptions of Thrift are caught. -/
def catchTException (x : Action α) (handler : Action α) : Action α := fun s =>
  match x s with
  | (.error (.thrown _), s') => handler s'
  | r => r

end Action

/-! ## Sending a request -/

/-- The writes of the protocol, one after the other. -/
def writePieces : List Piece → Action Unit
  | [] => return ()
  | .write b :: ps => do
    TBufferedTransport.write b
    writePieces ps
  | .SIZE_LIMIT :: _ => fun s => (.error (.thrown (.TProtocolException .SIZE_LIMIT)), s)

def DEFAULT_RECURSION_LIMIT : BitVec 32 := 64

/-- The depth is counted up also when the limit is exceeded. -/
def incrementRecursionDepth : Action Unit := fun s =>
  let s' := { s with recursion_depth := s.recursion_depth + 1 }
  if DEFAULT_RECURSION_LIMIT < s'.recursion_depth then
    (.error (.thrown (.TProtocolException .DEPTH_LIMIT)), s')
  else (.ok (), s')

def decrementRecursionDepth : Action Unit := fun s =>
  (.ok (), { s with recursion_depth := s.recursion_depth - 1 })

/-- `SelfService_X_pargs::write`. An exception leaves the depth counted up. -/
def Request.pargsWrite (q : Request) : Action Unit := do
  incrementRecursionDepth
  writePieces q.argsWrite
  decrementRecursionDepth

/-- `send_X`. -/
def Request.send (q : Request) : Action Unit := do
  writePieces q.messageBegin
  q.pargsWrite
  TBufferedTransport.flush

/-! ## Receiving a reply -/

/-- The bytes that `read` gets before a failure of `recv` that it does not try again. -/
def incoming : Nat → List RecvResult → Bytes
  | _, [] => []
  | _, .data b bs :: rest => b :: bs ++ incoming TSocket.maxRecvRetries rest
  | 0, .fails _ :: _ => []
  | retries + 1, .fails f :: rest => if f = .error WSAEINTR then incoming retries rest else []

/-- The bytes that the calls on the connection can read. -/
def Link.stream (s : Link) : Bytes := s.rBuf ++ incoming TSocket.maxRecvRetries s.recvs

/-- A reading that throws. The steps of a reading are always enough, so that it is finished. -/
def ReadFault.stop : ReadFault → Stop
  | TProtocolException type => .thrown (.TProtocolException type)
  | TApplicationException type => .thrown (.TApplicationException type)
  | unfinished => .blocked

/-- `recv_X`, with more steps than there are bytes. -/
def Request.receive (q : Request) : Action q.Result := fun s =>
  (q.recv (s.stream.length + 1)).readFrom TBufferedTransport.readAll ReadFault.stop s

/-- The call of a method of `_api`. -/
def Request.api (q : Request) : Action q.Result := do
  q.send
  q.receive

/-! ## The record of the calls -/

/-- The request is one of the newest connection. -/
def Link.issue (q : Request) (s : Link) : Link :=
  { s with
    connections := onNewest (fun c => { c with requests := c.requests ++ [q.encoding] })
      s.connections }

/-- The newest connection has failed. -/
def Link.fail (s : Link) : Link :=
  { s with connections := onNewest (fun c => { c with failed := true }) s.connections }

def transportError {α : Type} : Except Stop α → Bool
  | .error (.thrown (.TTransportException _)) => true
  | _ => false

/-- A call that is recorded: its request, and whether it ends with a transport error. -/
def Request.call (q : Request) : Action q.Result := fun s =>
  match q.api (s.issue q) with
  | (r, s') => (r, if transportError r then s'.fail else s')

/-! ## `thriftlink_client.cpp` -/

namespace thriftlink_client

/-- `_transport->isOpen()`. `_socket->isOpen()` looks at the same socket. -/
def isOpen : Action Bool := fun s => (.ok s.isOpen, s)

def connect_internal : Action Bool := fun s =>
  if s.created then
    Action.catchTException
      (do
        if !(← isOpen) then TSocket.open
        isOpen)
      (return false) s
  else (.ok false, s)

def ensure_connection : Action Bool := fun s =>
  if !s.created then (.ok false, s)
  else
    Action.catchTException
      (do
        if !(← isOpen) then connect_internal
        else return true)
      (return false) s

/-- New objects take the place of `_socket`, `_transport`, `_protocol` and `_api`. -/
def newObjects (s : Link) : Link :=
  { s with
    created := true
    isOpen := false
    rBuf := []
    rFrom := 0
    wBuf := []
    recursion_depth := 0 }

def thrift_connect : Action Bool := fun s => connect_internal (newObjects s)

def thrift_close : Action Unit := fun s =>
  if s.created then Action.catchTException TBufferedTransport.close (return ()) s
  else (.ok (), s)

end thriftlink_client

/-- What `connect_internal` does when the socket is closed: it is opened, or it stays closed. -/
inductive Reopens (s : Link) : Except Stop Bool → Link → Prop
  | opened (rest : List Bool) (hnext : s.connects = true :: rest) :
      Reopens s (.ok true)
        { s with isOpen := true, connects := rest, connections := {} :: s.connections }
  | refused (rest : List Bool) (hnext : s.connects = false :: rest ∨ s.connects = [] ∧ rest = []) :
      Reopens s (.ok false) { s with connects := rest }

namespace thriftlink_client

theorem connect_internal_spec {s : Link} (hcreated : s.created = true)
    (hclosed : s.isOpen = false) : Reopens s (connect_internal s).1 (connect_internal s).2 := by
  have hrun : connect_internal s =
      Action.catchTException (do TSocket.open; isOpen) (return false) s := by
    simp [connect_internal, Action.catchTException, Action.bind_run, isOpen, hcreated, hclosed]
  rw [hrun]
  have hnot : ¬ s.isOpen = true := by rw [hclosed]; exact Bool.false_ne_true
  unfold Action.catchTException
  rw [Action.bind_run]
  unfold TSocket.open
  rw [if_neg hnot]
  cases hconn : s.connects with
  | nil =>
    have href := Reopens.refused (s := s) [] (Or.inr ⟨hconn, rfl⟩)
    have hs : { s with connects := [] } = s := by rw [← hconn]
    rw [hs] at href
    exact href
  | cons x rest =>
    cases x with
    | true => exact Reopens.opened rest hconn
    | false => exact Reopens.refused rest (Or.inl hconn)

theorem ensure_connection_spec (s : Link) :
    (s.created = false ∧ ensure_connection s = (.ok false, s)) ∨
    (s.created = true ∧ s.isOpen = true ∧ ensure_connection s = (.ok true, s)) ∨
    (s.created = true ∧ s.isOpen = false ∧
      Reopens s (ensure_connection s).1 (ensure_connection s).2) := by
  cases hcreated : s.created with
  | false =>
    refine Or.inl ⟨rfl, ?_⟩
    unfold ensure_connection
    rw [hcreated]
    rfl
  | true =>
    cases hopen : s.isOpen with
    | true =>
      refine Or.inr (Or.inl ⟨rfl, rfl, ?_⟩)
      simp [ensure_connection, Action.catchTException, Action.bind_run, isOpen, hcreated, hopen]
      rfl
    | false =>
      refine Or.inr (Or.inr ⟨rfl, rfl, ?_⟩)
      have hspec := connect_internal_spec hcreated hopen
      have hrun : ensure_connection s =
          Action.catchTException connect_internal (return false) s := by
        simp [ensure_connection, Action.catchTException, Action.bind_run, isOpen, hcreated, hopen]
      rw [hrun]
      unfold Action.catchTException
      generalize connect_internal s = out at hspec ⊢
      obtain ⟨r, s'⟩ := out
      cases hspec with
      | opened rest hnext => exact Reopens.opened rest hnext
      | refused rest hnext => exact Reopens.refused rest hnext

end thriftlink_client

end RemotePrinter
