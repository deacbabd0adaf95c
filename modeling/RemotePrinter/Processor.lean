-- The thread of a connection on the server: `TThreadedServer::Task` over
-- `SelfServiceProcessor`, as a program over the transport and the methods of
-- the handler.
import RemotePrinter.SelfService

open Interactive

namespace RemotePrinter

open TBinaryProtocol

/-! ## Programs of a connection -/

/-- What the thread of a connection does: the two buffered transports over its socket, and the
calls of `iface_`. -/
inductive TaskOp where
  | readAll (len : Nat)
  | peek
  | write (buf : Bytes)
  | flush
  | closeInput
  | closeOutput
  | call (q : ApiForwardRequest)

/-- An operation of a transport throws, or it waits for ever. -/
@[reducible] def TaskOp.Answer : TaskOp → Type
  | readAll _ => Except Stop Bytes
  | peek => Except Stop Bool
  | write _ => Except Stop Unit
  | flush => Except Stop Unit
  | closeInput => Except Stop Unit
  | closeOutput => Except Stop Unit
  | call q => Except HandlerAbort q.Result

/-- The ways in which the thread does not go on. A handler that reads or calls through NULL ends
the server. -/
inductive Outage where
  | stopped (e : Stop)
  | aborted (a : HandlerAbort)
  | unfinished

abbrev ServerTask (α : Type) := Prog TaskOp TaskOp.Answer Outage α

namespace ServerTask
variable {α β : Type}

/-- An exception leaves the function. -/
def check : Except Stop α → ServerTask α
  | .ok a => .done a
  | .error e => .fail (.stopped e)

def peek : ServerTask Bool := .call .peek check

def flush : ServerTask Unit := .call .flush check

def closeInput : ServerTask Unit := .call .closeInput check

def closeOutput : ServerTask Unit := .call .closeOutput check

/-- `catch (...)`: what is thrown is caught, an access violation is not. -/
def catchAll (handler : ServerTask α) : ServerTask α → ServerTask α
  | .done a => .done a
  | .fail (.stopped (.thrown _)) => handler
  | .fail x => .fail x
  | .call e k => .call e fun a => catchAll handler (k a)

end ServerTask

def ReadFault.outage : ReadFault → Outage
  | unfinished => .unfinished
  | x => .stopped x.stop

/-- A reading by the protocol of the input transport. -/
def iprot {α : Type} : Decoder α → ServerTask α
  | .done a => .done a
  | .fail x => .fail x.outage
  | .call n k => .call (.readAll n) fun
    | .ok b => iprot (k b)
    | .error e => .fail (.stopped e)

/-- The writes of the protocol of the output transport. -/
def oprot : List Piece → ServerTask Unit
  | [] => .done ()
  | .write b :: ps => .call (.write b) fun
    | .ok () => oprot ps
    | .error e => .fail (.stopped e)
  | .SIZE_LIMIT :: _ => .fail (.stopped (.thrown (.TProtocolException .SIZE_LIMIT)))

/-! ## `SelfServiceProcessor` -/

def T_ONEWAY : TMessageType := 4

/-- `TApplicationException::UNKNOWN_METHOD`. -/
def UNKNOWN_METHOD : I32 := 1

/-- `"Invalid method name: '" + fname + "'"`. -/
def invalidMethodName (fname : Bytes) : Bytes :=
  ascii ['I', 'n', 'v', 'a', 'l', 'i', 'd', ' ', 'm', 'e', 't', 'h', 'o', 'd', ' ',
    'n', 'a', 'm', 'e', ':', ' '] ++ [39] ++ fname ++ [39]

/-- `readMessageBegin` with the sequence id, which the client does not look at. -/
def TBinaryProtocol.readMessageHead : Decoder (Bytes × TMessageType × I32) := do
  let sz ← readI32
  if sz.toInt < 0 then
    if sz &&& 0xffff0000#32 ≠ 0x80010000#32 then
      Decoder.throw (.TProtocolException .BAD_VERSION)
    else
      let name ← readString
      let seqid ← readI32
      return (name, UInt8.ofNat sz.toNat, seqid)
  else
    let name ← readStringBody sz
    let type ← readByte
    let seqid ← readI32
    return (name, type, seqid)

namespace SelfServiceProcessor

/-- The pieces of a reply with a result. -/
def replyWrite (q : ApiForwardRequest) (v : q.Result) (seqid : I32) : List Piece :=
  writeMessageBegin (SelfService.name q.proc) T_REPLY seqid ++ q.resultWrite v

/-- The pieces of a reply with an exception. -/
def exceptionWrite (fname : Bytes) (type : I32) (message : Bytes) (seqid : I32) : List Piece :=
  writeMessageBegin fname T_EXCEPTION seqid ++ writeTApplicationException type message

/-- `process_X`. `what` is `e.what()` of a `std::length_error`. -/
def process_ (what : Bytes) (fuel : Nat) (m : Proc) (seqid : I32) : ServerTask Unit := do
  let args ← iprot (Members.read fuel (SelfService.args m) (Members.init _))
  let q := SelfService.request m args
  match ← Prog.perform (TaskOp.call q) with
  | .ok success =>
    oprot (replyWrite q success seqid)
    ServerTask.flush
  | .error .length_error =>
    oprot (exceptionWrite (SelfService.name m) UNKNOWN what seqid)
    ServerTask.flush
  | .error a => .fail (.aborted a)

/-- `dispatchCall`. -/
def dispatchCall (what : Bytes) (fuel : Nat) (fname : Bytes) (seqid : I32) : ServerTask Bool := do
  match SelfService.processMap_ fname with
  | none =>
    iprot (skip fuel T_STRUCT)
    oprot (exceptionWrite fname UNKNOWN_METHOD (invalidMethodName fname) seqid)
    ServerTask.flush
    return true
  | some m =>
    process_ what fuel m seqid
    return true

end SelfServiceProcessor

/-- `TDispatchProcessor::process`. -/
def TDispatchProcessor.process (what : Bytes) (fuel : Nat) : ServerTask Bool := do
  let (fname, mtype, seqid) ← iprot readMessageHead
  if mtype ≠ T_CALL ∧ mtype ≠ T_ONEWAY then return false
  SelfServiceProcessor.dispatchCall what fuel fname seqid

/-! ## `TThreadedServer::Task` -/

namespace TThreadedServer.Task

/-- The loop over the messages of a connection. -/
def loop (what : Bytes) (fuel : Nat) : Nat → ServerTask Unit
  | 0 => .fail .unfinished
  | rounds + 1 => do
    if !(← TDispatchProcessor.process what fuel) then return ()
    else if !(← ServerTask.peek) then return ()
    else loop what fuel rounds

/-- `run()`. The exceptions of the loop and of each `close` are caught. -/
def run (what : Bytes) (fuel : Nat) : ServerTask Unit := do
  ServerTask.catchAll (return ()) (loop what fuel fuel)
  ServerTask.catchAll (return ()) ServerTask.closeInput
  ServerTask.catchAll (return ()) ServerTask.closeOutput

end TThreadedServer.Task

/-! ## One message

A turn of the loop reads a message as a whole, and answers it then. -/

/-- What a message asks for. -/
inductive Message where
  | call (q : ApiForwardRequest) (seqid : I32)
  | unknown (fname : Bytes) (seqid : I32)
  | notCall

/-- The thread goes on behind it. -/
def Message.isCall : Message → Bool
  | notCall => false
  | _ => true

def readMessage (fuel : Nat) : Decoder Message := do
  let (fname, mtype, seqid) ← readMessageHead
  if mtype ≠ T_CALL ∧ mtype ≠ T_ONEWAY then return .notCall
  match SelfService.processMap_ fname with
  | none =>
    skip fuel T_STRUCT
    return .unknown fname seqid
  | some m =>
    let args ← Members.read fuel (SelfService.args m) (Members.init _)
    return .call (SelfService.request m args) seqid

/-- The pieces are written and sent. -/
def sendReply (ps : List Piece) : ServerTask Bool := do
  oprot ps
  ServerTask.flush
  return true

def answerCall (what : Bytes) (q : ApiForwardRequest) (seqid : I32) : ServerTask Bool := do
  match ← Prog.perform (TaskOp.call q) with
  | .ok success => sendReply (SelfServiceProcessor.replyWrite q success seqid)
  | .error .length_error =>
    sendReply (SelfServiceProcessor.exceptionWrite (SelfService.name q.proc) UNKNOWN what seqid)
  | .error a => .fail (.aborted a)

def answer (what : Bytes) : Message → ServerTask Bool
  | .call q seqid => answerCall what q seqid
  | .unknown fname seqid =>
    sendReply (SelfServiceProcessor.exceptionWrite fname UNKNOWN_METHOD (invalidMethodName fname)
      seqid)
  | .notCall => return false

theorem iprot_call {α : Type} (n : Nat) (k : Bytes → Decoder α) :
    iprot (.call n k) = .call (TaskOp.readAll n) fun
      | .ok b => iprot (k b)
      | .error e => .fail (.stopped e) := by
  rw [iprot]

theorem iprot_bind {α β : Type} (d : Decoder α) (f : α → Decoder β) :
    iprot (d >>= f) = iprot d >>= fun a => iprot (f a) := by
  induction d with
  | done a => rfl
  | fail x => rfl
  | call n k ih =>
    rw [Prog.call_bind, iprot_call, iprot_call, Prog.call_bind]
    congr 1
    funext a
    cases a with
    | ok b => exact ih b
    | error e => rfl

theorem process_eq (what : Bytes) (fuel : Nat) :
    TDispatchProcessor.process what fuel = iprot (readMessage fuel) >>= answer what := by
  unfold TDispatchProcessor.process readMessage
  rw [iprot_bind, Prog.bind_assoc]
  congr 1
  funext ⟨fname, mtype, seqid⟩
  simp only
  by_cases hcall : mtype ≠ T_CALL ∧ mtype ≠ T_ONEWAY
  · rw [if_pos hcall, if_pos hcall]
    rfl
  · rw [if_neg hcall, if_neg hcall]
    unfold SelfServiceProcessor.dispatchCall
    cases SelfService.processMap_ fname with
    | none =>
      simp only
      rw [iprot_bind, Prog.bind_assoc]
      rfl
    | some m =>
      simp only
      unfold SelfServiceProcessor.process_
      rw [iprot_bind, Prog.bind_assoc, Prog.bind_assoc]
      congr 1
      funext args
      unfold answer answerCall sendReply
      simp only [Prog.perform_bind, Prog.call_bind]
      congr 1
      funext r
      cases r with
      | ok success => exact Prog.bind_assoc _ _ _
      | error a =>
        cases a with
        | length_error =>
          rw [SelfService.proc_request]
          exact Prog.bind_assoc _ _ _
        | nullCall proc => rfl
        | nullRead => rfl

end RemotePrinter
