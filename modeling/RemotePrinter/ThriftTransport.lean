-- The transport of the client: `TSocket` under `TBufferedTransport`, as they
-- are in `3rdparty/thrift-0.9.2` on Windows. What the network does is given
-- by scripts. The client's record of its connections is kept beside them.
import RemotePrinter.BinaryProtocol

open Interactive

namespace RemotePrinter

/-! ## The network -/

def WSAEINTR : Nat := 10004
/-- `THRIFT_EAGAIN` is the same code. -/
def WSAEWOULDBLOCK : Nat := 10035
def WSAECONNRESET : Nat := 10054
def WSAENOTCONN : Nat := 10057
def WSAETIMEDOUT : Nat := 10060

inductive SendFault where
  | error (code : Nat)
  | zero
  deriving DecidableEq

inductive RecvFault where
  | error (code : Nat)
  /-- `recv` answers 0: the peer has closed the connection. -/
  | closed
  deriving DecidableEq

/-- The next `n + 1` bytes are taken, by one `send` or by several, or a `send` fails. -/
inductive SendResult where
  | took (n : Nat)
  | fails (f : SendFault)

inductive RecvResult where
  | data (b : UInt8) (bs : Bytes)
  | fails (f : RecvFault)

inductive Fault where
  | send (f : SendFault)
  | recv (f : RecvFault)
  deriving DecidableEq

/-- What is known of one TCP connection: the bytes that the network took, the messages of the
calls that were made on it, for each byte that these calls read the number of the connection that
it came from, and whether a call has ended with a transport error on it. -/
structure Connection where
  written : Bytes := []
  requests : List Bytes := []
  consumed : List Nat := []
  failed : Bool := false

/-- `created` says that `_transport` is not NULL, `isOpen` that `socket_` is a valid socket: the
one of the newest connection. `rBuf` and `wBuf` are the bytes from `rBase_` to `rBound_` and from
the start of the write buffer to `wBase_`; the first were received on the connection `rFrom`. -/
structure Link where
  created : Bool := false
  isOpen : Bool := false
  rBuf : Bytes := []
  rFrom : Nat := 0
  wBuf : Bytes := []
  recursion_depth : BitVec 32 := 0
  connects : List Bool := []
  sends : List SendResult := []
  recvs : List RecvResult := []
  connections : List Connection := []
  faults : List Fault := []

/-- An action throws, or it waits for ever. -/
inductive Stop where
  | thrown (x : TException)
  | blocked

def Action (α : Type) : Type := Link → Except Stop α × Link

instance : Monad Action where
  pure a s := (.ok a, s)
  bind x f s :=
    match x s with
    | (.ok a, s') => f a s'
    | (.error e, s') => (.error e, s')

namespace Action

variable {α β : Type}

def throw (type : TTransportExceptionType) : Action α := fun s =>
  (.error (.thrown (.TTransportException type)), s)

theorem bind_run (x : Action α) (f : α → Action β) (s : Link) :
    (x >>= f) s =
      match x s with
      | (.ok a, s') => f a s'
      | (.error e, s') => (.error e, s') := rfl

theorem bind_ok {x : Action α} {f : α → Action β} {s s' : Link} {a : α}
    (h : x s = (.ok a, s')) : (x >>= f) s = f a s' := by
  rw [bind_run, h]

theorem bind_error {x : Action α} {f : α → Action β} {s s' : Link} {e : Stop}
    (h : x s = (.error e, s')) : (x >>= f) s = (.error e, s') := by
  rw [bind_run, h]

end Action

/-- The record of the newest connection is changed. -/
def onNewest (f : Connection → Connection) : List Connection → List Connection
  | [] => []
  | c :: rest => f c :: rest

/-- The bytes that the network took. -/
def wrote (b : Bytes) : List Connection → List Connection :=
  onNewest fun c => { c with written := c.written ++ b }

@[simp] theorem wrote_nil (cs : List Connection) : wrote [] cs = cs := by
  cases cs <;> simp [wrote, onNewest]

@[simp] theorem wrote_wrote (b b' : Bytes) (cs : List Connection) :
    wrote b' (wrote b cs) = wrote (b ++ b') cs := by
  cases cs <;> simp [wrote, onNewest]

/-! ## Winsock -/

def send (buf : Bytes) : Action (Except SendFault Nat) := fun s =>
  match s.sends with
  | [] => (.error .blocked, s)
  | .took n :: rest =>
    if n < buf.length then
      (.ok (.ok (n + 1)),
        { s with sends := rest, connections := wrote (buf.take (n + 1)) s.connections })
    else
      (.ok (.ok buf.length),
        { s with sends := .took (n - buf.length) :: rest, connections := wrote buf s.connections })
  | .fails f :: rest => (.ok (.error f), { s with sends := rest, faults := s.faults ++ [.send f] })

/-- What is left of received bytes when `recv` was asked for fewer. -/
def pushBack (b : Bytes) (rest : List RecvResult) : List RecvResult :=
  match b with
  | [] => rest
  | x :: xs => .data x xs :: rest

def recv (len : Nat) : Action (Except RecvFault Bytes) := fun s =>
  match s.recvs with
  | [] => (.error .blocked, s)
  | .data b bs :: rest =>
    (.ok (.ok ((b :: bs).take len)), { s with recvs := pushBack ((b :: bs).drop len) rest })
  | .fails f :: rest => (.ok (.error f), { s with recvs := rest })

/-- A failure of `recv` that is not tried again. -/
def noteRecvFault (f : RecvFault) : Action Unit := fun s =>
  (.ok (), { s with faults := s.faults ++ [.recv f] })

/-! ## `TSocket` -/

namespace TSocket

def close : Action Unit := fun s => (.ok (), { s with isOpen := false })

/-- `open()`: the addresses of the host are tried, and one connects or none does. -/
def «open» : Action Unit := fun s =>
  if s.isOpen then (.ok (), s)
  else
    match s.connects with
    | true :: rest =>
      (.ok (), { s with isOpen := true, connects := rest, connections := {} :: s.connections })
    | false :: rest =>
      (.error (.thrown (.TTransportException .NOT_OPEN)), { s with connects := rest })
    | [] => (.error (.thrown (.TTransportException .NOT_OPEN)), s)

/-- Only these two codes make `write_partial` close the socket. -/
def closes (f : SendFault) : Bool :=
  f = .error WSAECONNRESET ∨ f = .error WSAENOTCONN

def write_partial (buf : Bytes) : Action Nat := fun s =>
  if !s.isOpen then Action.throw .NOT_OPEN s
  else
    (do
      match ← send buf with
      | .ok b => return b
      | .error (.error code) =>
        if code = WSAEWOULDBLOCK then return 0
        else if closes (.error code) then do
          close
          Action.throw .NOT_OPEN
        else Action.throw .UNKNOWN
      | .error .zero => Action.throw .NOT_OPEN : Action Nat) s

/-- The loop of `write`, with as many rounds as there are bytes. -/
def writeLoop : Nat → Bytes → Action Unit
  | 0, _ => return ()
  | fuel + 1, buf =>
    if buf = [] then return ()
    else do
      let b ← write_partial buf
      if b = 0 then Action.throw .TIMED_OUT
      else writeLoop fuel (buf.drop b)

def write (buf : Bytes) : Action Unit := writeLoop buf.length buf

def maxRecvRetries : Nat := 5

/-- What `read` does when `recv` fails and it does not try again. There is no receive timeout. -/
def readFailed (f : RecvFault) : Action Bytes := do
  noteRecvFault f
  match f with
  | .error code =>
    if code = WSAEWOULDBLOCK then Action.throw .TIMED_OUT
    else if code = WSAECONNRESET then return []
    else if code = WSAENOTCONN then Action.throw .NOT_OPEN
    else if code = WSAETIMEDOUT then Action.throw .TIMED_OUT
    else Action.throw .UNKNOWN
  | .closed => return []

/-- `read`, from the label `try_again` on. An interrupted `recv` is tried again. -/
def tryRead (len : Nat) : Nat → Action Bytes
  | 0 => do
    match ← recv len with
    | .ok b => return b
    | .error f => readFailed f
  | retries + 1 => do
    match ← recv len with
    | .ok b => return b
    | .error f => if f = .error WSAEINTR then tryRead len retries else readFailed f

def read (len : Nat) : Action Bytes := fun s =>
  if !s.isOpen then Action.throw .NOT_OPEN s else tryRead len maxRecvRetries s

end TSocket

/-! ## `TBufferedTransport` -/

/-- `DEFAULT_BUFFER_SIZE`. -/
def rBufSize : Nat := 512
def wBufSize : Nat := 512

namespace TBufferedTransport

/-- Bytes leave the read buffer. -/
def consume (n : Nat) : Action Bytes := fun s =>
  (.ok (s.rBuf.take n),
    { s with
      rBuf := s.rBuf.drop n
      connections := onNewest
        (fun c => { c with consumed := c.consumed ++ (s.rBuf.take n).map fun _ => s.rFrom })
        s.connections })

def setReadBuffer (b : Bytes) : Action Unit := fun s =>
  (.ok (), { s with rBuf := b, rFrom := s.connections.length })

/-- What is in the buffer is returned, and only an empty buffer is filled again. -/
def readSlow (len : Nat) : Action Bytes := fun s =>
  if s.rBuf.length > 0 then consume s.rBuf.length s
  else
    (do
      setReadBuffer (← TSocket.read rBufSize)
      consume len : Action Bytes) s

def read (len : Nat) : Action Bytes := fun s =>
  if len ≤ s.rBuf.length then consume len s else readSlow len s

/-- The loop of `readAll`. Each round reads a byte at least, so there are `len` rounds at most. -/
def readLoop : Nat → Nat → Bytes → Action Bytes
  | 0, _, got => return got
  | fuel + 1, len, got =>
    if got.length < len then do
      let get ← read (len - got.length)
      if get.length = 0 then Action.throw .END_OF_FILE
      else readLoop fuel len (got ++ get)
    else return got

def readAll (len : Nat) : Action Bytes := fun s =>
  if len ≤ s.rBuf.length then consume len s else readLoop len len [] s

def setWriteBuffer (b : Bytes) : Action Unit := fun s => (.ok (), { s with wBuf := b })

/-- The buffer and the bytes are written in two calls, or the buffer is filled up and written.
`wBase_` moves only after that. -/
def writeSlow (buf : Bytes) : Action Unit := fun s =>
  if s.wBuf.length + buf.length ≥ 2 * wBufSize ∨ s.wBuf.length = 0 then
    (do
      if s.wBuf.length > 0 then TSocket.write s.wBuf
      TSocket.write buf
      setWriteBuffer [] : Action Unit) s
  else
    (do
      TSocket.write (s.wBuf ++ buf.take (wBufSize - s.wBuf.length))
      setWriteBuffer (buf.drop (wBufSize - s.wBuf.length)) : Action Unit) s

def write (buf : Bytes) : Action Unit := fun s =>
  if s.wBuf.length + buf.length ≤ wBufSize then setWriteBuffer (s.wBuf ++ buf) s
  else writeSlow buf s

/-- The buffer is emptied before it is written. -/
def flush : Action Unit := fun s =>
  if s.wBuf.length > 0 then
    (do
      setWriteBuffer []
      TSocket.write s.wBuf : Action Unit) s
  else (.ok (), s)

def close : Action Unit := do
  flush
  TSocket.close

end TBufferedTransport

end RemotePrinter
