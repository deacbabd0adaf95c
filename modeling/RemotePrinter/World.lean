-- The world around the detours: the tracked handles and the connection of the
-- client, the local winspool, and the server process with its spooler. One
-- operation of a detour is one step of this world. The server may exit and be
-- started again before any operation, and the connection may fail at any one.
import RemotePrinter.Detours
import RemotePrinter.ServerHandlers

open Interactive

namespace RemotePrinter

/-! ## The tracked handles, `_bxprinters` -/

section
variable {w : PtrWidth}

namespace bxprinters

/-- `bool isBixolonPrinterByHandle(HANDLE hHandle)`. -/
def isBixolonPrinterByHandle (l : List (HANDLE w)) (hHandle : HANDLE w) : Bool :=
  match l with
  | [] => false
  | it :: rest => if hHandle = it then true else isBixolonPrinterByHandle rest hHandle

/-- `bool addBixolonPrinter(HANDLE hHandle)`, with the list allocated by `initBixolon`. -/
def addBixolonPrinter (l : List (HANDLE w)) (hHandle : HANDLE w) : Bool × List (HANDLE w) :=
  (true, l ++ [hHandle])

/-- `void closeBixolonPrinter(HANDLE hHandle)`: `std::list::remove` takes out every copy. -/
def closeBixolonPrinter (l : List (HANDLE w)) (hHandle : HANDLE w) : List (HANDLE w) :=
  if isBixolonPrinterByHandle l hHandle then l.filter (· ≠ hHandle) else l

@[simp] theorem isBixolonPrinterByHandle_iff (l : List (HANDLE w)) (h : HANDLE w) :
    isBixolonPrinterByHandle l h = true ↔ h ∈ l := by
  induction l with
  | nil => simp [isBixolonPrinterByHandle]
  | cons it rest ih =>
    unfold isBixolonPrinterByHandle
    by_cases hit : h = it <;> simp [hit, ih]

@[simp] theorem mem_closeBixolonPrinter (l : List (HANDLE w)) (h x : HANDLE w) :
    x ∈ closeBixolonPrinter l h ↔ x ∈ l ∧ x ≠ h := by
  unfold closeBixolonPrinter
  by_cases hl : h ∈ l
  · simp [hl]
  · have hx : x ∈ l → x ≠ h := fun hm he => hl (he ▸ hm)
    simpa [hl] using hx

end bxprinters

end

/-! ## The server process -/

/-- A server process: its number among the processes of the run, the function pointers that
its constructor found, and the handles that it has open. -/
structure ServerProcess (w : PtrWidth) where
  pid : Nat
  fp : Proc → Bool
  spooler : Spooler (HANDLE w) := {}

/-- The process goes on, or it has exited and another one runs, with no handle open. -/
def ServerProcess.Lives {w : PtrWidth} (S S' : ServerProcess w) : Prop :=
  S' = S ∨ S.pid < S'.pid ∧ S'.spooler = {}

theorem ServerProcess.Lives.refl {w : PtrWidth} (S : ServerProcess w) : S.Lives S := Or.inl rfl

theorem ServerProcess.Lives.trans {w : PtrWidth} {S S' S'' : ServerProcess w} (h : S.Lives S')
    (h' : S'.Lives S'') : S.Lives S'' := by
  rcases h' with rfl | ⟨hpid', hsp'⟩
  · exact h
  · rcases h with rfl | ⟨hpid, -⟩
    · exact Or.inr ⟨hpid', hsp'⟩
    · exact Or.inr ⟨Nat.lt_trans hpid hpid', hsp'⟩

theorem ServerProcess.Lives.fp {w : PtrWidth} {S S' : ServerProcess w} (h : S.Lives S') :
    S.pid < S'.pid ∨ S'.pid = S.pid ∧ S'.fp = S.fp := by
  rcases h with rfl | ⟨hpid, -⟩
  · exact Or.inr ⟨rfl, rfl⟩
  · exact Or.inl hpid

/-- With the same number it is the same process. -/
theorem ServerProcess.Lives.eq_of_pid {w : PtrWidth} {S S' : ServerProcess w} (h : S.Lives S')
    (hp : S'.pid = S.pid) : S' = S := by
  rcases h with rfl | ⟨hpid, -⟩
  · rfl
  · omega

/-! ## The world -/

variable {d : Deployment}

/-- `connected` is the number of the server process at the other end of the open transport. -/
structure World (d : Deployment) where
  bxprinters : List (HANDLE d.client) := []
  connected : Option Nat
  winspool : Spooler (HANDLE d.client) := {}
  server : ServerProcess d.server

/-- One call of the server's winspool, with its answer. -/
abbrev ServerCall (d : Deployment) := Obs (SpoolCall (HANDLE d.server)) SpoolCall.Ret Unit

/-- What the server did at an operation: the number of the process that ran then, whether one
of its handlers ran, and the calls of its winspool that this made. -/
structure Served (d : Deployment) where
  pid : Nat
  handled : Bool := false
  calls : List (ServerCall d) := []

/-- The server had no part in the operation. -/
def Served.Idle (n : Served d) : Prop := n.handled = false ∧ n.calls = []

namespace World

/-- The server that the client is connected to runs the handler of a request. -/
def Handles (W : World d) (q : SpoolRequest) (r : Except NullCall q.Result) (n : Served d)
    (W' : World d) : Prop :=
  W.connected = some W.server.pid ∧ n.handled = true ∧
  ∃ spooler, (ApiForwardHandler.handle d.server W.server.fp q).RunsIn Spooler.env
      W.server.spooler n.calls r spooler ∧
    W' = { W with server := { W.server with spooler := spooler } }

/-- After an error the connection is closed, or it is not. -/
def Cut (W W' : World d) : Prop := W' = W ∨ W' = { W with connected := none }

/-- A request for a spooler function. An exception comes instead of an answer before the
server has the request, or after its handler has run: to an answer that is lost, or to a
NULL pointer. -/
def Requests (W : World d) (q : SpoolRequest) (a : Except TException q.Result) (n : Served d)
    (W' : World d) : Prop :=
  match a with
  | .ok r => W.Handles q (.ok r) n W'
  | .error _ => (n.Idle ∧ W.Cut W') ∨ ∃ r W₁, W.Handles q r n W₁ ∧ W₁.Cut W'

/-- One operation of a detour, in a world whose server process is already the one that runs
at the time. -/
def Acts (W : World d) (op : ClientOp d.client) (a : op.Answer) (n : Served d) (W' : World d) :
    Prop :=
  match op, a with
  | .ensure_connection, b =>
    n.Idle ∧
      (b = true ∧ (W.connected ≠ none ∧ W' = W ∨ W' = { W with connected := W.server.pid }) ∨
        b = false ∧ W' = { W with connected := none })
  | .isBixolonPrinterByName _, _ => n.Idle ∧ W' = W
  | .isBixolonPrinterByHandle h, b =>
    n.Idle ∧ b = bxprinters.isBixolonPrinterByHandle W.bxprinters h ∧ W' = W
  | .addBixolonPrinter h, b =>
    n.Idle ∧ (b, W'.bxprinters) = bxprinters.addBixolonPrinter W.bxprinters h ∧
      W' = { W with bxprinters := W'.bxprinters }
  | .closeBixolonPrinter h, _ =>
    n.Idle ∧ W' = { W with bxprinters := bxprinters.closeBixolonPrinter W.bxprinters h }
  | .original c, r =>
    n.Idle ∧ ∃ winspool, W.winspool.Answers c r winspool ∧ W' = { W with winspool := winspool }
  | .api (.spool q), a => W.Requests q a n W'
  | .api (.usb _), _ => n.calls = [] ∧ W.Cut W'
  | .read_from_file _, _ => n.Idle ∧ W' = W

/-- The world as the environment of the detours. -/
def env : Env (ClientOp d.client) ClientOp.Answer (Served d) (World d) :=
  fun W op a n W' =>
    ∃ S, W.server.Lives S ∧ n.pid = S.pid ∧ { W with server := S }.Acts op a n W'

/-! ### What one operation does -/

/-- The connection may come and go, and the server may be started again. -/
structure Meanwhile (W W' : World d) : Prop where
  bxprinters : W'.bxprinters = W.bxprinters
  winspool : W'.winspool = W.winspool
  server : W.server.Lives W'.server

variable {W W' W'' : World d} {n : Served d}

theorem Meanwhile.trans (h : W.Meanwhile W') (h' : W'.Meanwhile W'') : W.Meanwhile W'' :=
  ⟨h'.bxprinters.trans h.bxprinters, h'.winspool.trans h.winspool, h.server.trans h'.server⟩

theorem env_ensure_connection {b : Bool} (h : env W .ensure_connection b n W') :
    W.Meanwhile W' ∧ n.Idle ∧ n.pid = W'.server.pid ∧ (b = true ↔ W'.connected ≠ none) := by
  obtain ⟨S, hlive, hpid, hidle, hact⟩ := h
  rcases hact with ⟨rfl, ⟨hc, rfl⟩ | rfl⟩ | ⟨rfl, rfl⟩
  · exact ⟨⟨rfl, rfl, hlive⟩, hidle, hpid, by simpa using hc⟩
  · exact ⟨⟨rfl, rfl, hlive⟩, hidle, hpid, by simp⟩
  · exact ⟨⟨rfl, rfl, hlive⟩, hidle, hpid, by simp⟩

theorem env_isBixolonPrinterByName {x : Bytes} {b : Bool}
    (h : env W (.isBixolonPrinterByName x) b n W') :
    W.Meanwhile W' ∧ n.Idle ∧ n.pid = W'.server.pid := by
  obtain ⟨S, hlive, hpid, hidle, rfl⟩ := h
  exact ⟨⟨rfl, rfl, hlive⟩, hidle, hpid⟩

theorem env_isBixolonPrinterByHandle {x : HANDLE d.client} {b : Bool}
    (h : env W (.isBixolonPrinterByHandle x) b n W') :
    W.Meanwhile W' ∧ n.Idle ∧ n.pid = W'.server.pid ∧ (b = true ↔ x ∈ W.bxprinters) := by
  obtain ⟨S, hlive, hpid, hidle, rfl, rfl⟩ := h
  exact ⟨⟨rfl, rfl, hlive⟩, hidle, hpid, by simp⟩

theorem env_original {c : SpoolCall (HANDLE d.client)} {r : c.Ret}
    (h : env W (.original c) r n W') :
    W'.bxprinters = W.bxprinters ∧ W.server.Lives W'.server ∧ n.Idle ∧
      n.pid = W'.server.pid ∧ W.winspool.Answers c r W'.winspool := by
  obtain ⟨S, hlive, hpid, hidle, sp, hsp, rfl⟩ := h
  exact ⟨rfl, hlive, hidle, hpid, hsp⟩

theorem env_addBixolonPrinter {x : HANDLE d.client} {b : Bool}
    (h : env W (.addBixolonPrinter x) b n W') :
    W'.bxprinters = W.bxprinters ++ [x] ∧ W'.winspool = W.winspool ∧
      W.server.Lives W'.server ∧ n.Idle ∧ n.pid = W'.server.pid := by
  obtain ⟨S, hlive, hpid, hidle, hadd, hW⟩ := h
  have hlist : W'.bxprinters = W.bxprinters ++ [x] := congrArg Prod.snd hadd
  rw [hW]
  exact ⟨hlist, rfl, hlive, hidle, hpid⟩

theorem env_closeBixolonPrinter {x : HANDLE d.client} {u : Unit}
    (h : env W (.closeBixolonPrinter x) u n W') :
    W'.bxprinters = bxprinters.closeBixolonPrinter W.bxprinters x ∧ W'.winspool = W.winspool ∧
      W.server.Lives W'.server ∧ n.Idle ∧ n.pid = W'.server.pid := by
  obtain ⟨S, hlive, hpid, hidle, rfl⟩ := h
  exact ⟨rfl, rfl, hlive, hidle, hpid⟩

/-- What a request did on the server process `S`: nothing, or the one call of its handler. -/
inductive Reaches (S : ServerProcess d.server) (q : SpoolRequest) :
    Except TException q.Result → List (ServerCall d) → ServerProcess d.server → Prop
  | nothing {a} (ha : ∀ v, a = .ok v → S.fp q.tested = false ∧ v = q.failure) :
      Reaches S q a [] S
  | executed {a r sp} (ht : S.fp q.tested = true)
      (hr : S.spooler.Answers (q.original d.server) r sp)
      (ha : ∀ v, a = .ok v → v = q.pack d.server r) :
      Reaches S q a [⟨q.original d.server, r, ()⟩] { S with spooler := sp }

theorem Handles.reaches {q : SpoolRequest} {r : Except NullCall q.Result}
    (h : W.Handles q r n W') {a : Except TException q.Result} (ha : ∀ v, a = .ok v → r = .ok v) :
    W'.bxprinters = W.bxprinters ∧ W'.winspool = W.winspool ∧
      W'.server.pid = W.server.pid ∧ Reaches W.server q a n.calls W'.server := by
  obtain ⟨-, -, sp, hrun, rfl⟩ := h
  refine ⟨rfl, rfl, rfl, ?_⟩
  rcases ApiForwardHandler.handle_runsIn hrun with ⟨hc, rfl, hv⟩ | ⟨ht, -, o, u, ho, hc, hv⟩
  · rw [hc]
    exact .nothing fun v hav => hv v (ha v hav)
  · rw [hc]
    refine .executed ht ho fun v hav => ?_
    have hok := ha v hav
    rw [hv] at hok
    cases hok
    rfl

theorem Cut.same (h : W.Cut W') :
    W'.bxprinters = W.bxprinters ∧ W'.winspool = W.winspool ∧ W'.server = W.server := by
  rcases h with rfl | rfl <;> exact ⟨rfl, rfl, rfl⟩

theorem env_api {q : SpoolRequest} {a : Except TException q.Result}
    (h : env W (.api (.spool q)) a n W') :
    W'.bxprinters = W.bxprinters ∧ W'.winspool = W.winspool ∧
      ∃ S, W.server.Lives S ∧ n.pid = S.pid ∧ W'.server.pid = S.pid ∧
        Reaches S q a n.calls W'.server := by
  obtain ⟨S, hlive, hpid, hact⟩ := h
  cases a with
  | ok v =>
    obtain ⟨hb, hw, hp, hreach⟩ := Handles.reaches hact (a := .ok v) (by simp)
    exact ⟨hb, hw, S, hlive, hpid, hp, hreach⟩
  | error x =>
    rcases hact with ⟨⟨-, hc⟩, hcut⟩ | ⟨r, W₁, hhandles, hcut⟩
    · obtain ⟨hb, hw, hs⟩ := hcut.same
      rw [hs, hc]
      exact ⟨hb, hw, S, hlive, hpid, rfl, .nothing (by simp)⟩
    · obtain ⟨hb, hw, hp, hreach⟩ := Handles.reaches hhandles (a := .error x) (by simp)
      obtain ⟨hb', hw', hs⟩ := hcut.same
      rw [hs]
      exact ⟨hb'.trans hb, hw'.trans hw, S, hlive, hpid, hp, hreach⟩

/-- The note of an operation names the process that runs after it. -/
theorem env_pid {op : ClientOp d.client} {a : op.Answer} (h : env W op a n W') :
    n.pid = W'.server.pid := by
  cases op with
  | ensure_connection => exact (env_ensure_connection h).2.2.1
  | isBixolonPrinterByName x => exact (env_isBixolonPrinterByName h).2.2
  | isBixolonPrinterByHandle x => exact (env_isBixolonPrinterByHandle h).2.2.1
  | addBixolonPrinter x => exact (env_addBixolonPrinter h).2.2.2.2
  | closeBixolonPrinter x => exact (env_closeBixolonPrinter h).2.2.2.2
  | original c => exact (env_original h).2.2.2.1
  | api q =>
    cases q with
    | spool q =>
      obtain ⟨-, -, S, -, hpid, hpid', -⟩ := env_api h
      exact hpid.trans hpid'.symm
    | usb q =>
      obtain ⟨S, -, hpid, -, hcut⟩ := h
      rw [hcut.same.2.2, hpid]
  | read_from_file x =>
    obtain ⟨S, -, hpid, -, rfl⟩ := h
    exact hpid

theorem Reaches.fp {S S' : ServerProcess d.server} {q : SpoolRequest}
    {a : Except TException q.Result} {calls : List (ServerCall d)} (h : Reaches S q a calls S') :
    S'.fp = S.fp := by
  cases h <;> rfl

/-- A process keeps its function pointers. -/
theorem env_fp {op : ClientOp d.client} {a : op.Answer} (h : env W op a n W') :
    W.server.pid < W'.server.pid ∨
      W'.server.pid = W.server.pid ∧ W'.server.fp = W.server.fp := by
  cases op with
  | ensure_connection => exact (env_ensure_connection h).1.server.fp
  | isBixolonPrinterByName x => exact (env_isBixolonPrinterByName h).1.server.fp
  | isBixolonPrinterByHandle x => exact (env_isBixolonPrinterByHandle h).1.server.fp
  | addBixolonPrinter x => exact (env_addBixolonPrinter h).2.2.1.fp
  | closeBixolonPrinter x => exact (env_closeBixolonPrinter h).2.2.1.fp
  | original c => exact (env_original h).2.1.fp
  | api q =>
    cases q with
    | spool q =>
      obtain ⟨-, -, S, hlive, -, hpid, hreach⟩ := env_api h
      rw [hpid, hreach.fp]
      exact hlive.fp
    | usb q =>
      obtain ⟨S, hlive, -, -, hcut⟩ := h
      rw [hcut.same.2.2]
      exact hlive.fp
  | read_from_file x =>
    obtain ⟨S, hlive, -, -, rfl⟩ := h
    exact hlive.fp

end World

/-! ## Runs of the host -/

/-- One operation of a detour as it happened. -/
abbrev Observed (d : Deployment) := Obs (ClientOp d.client) ClientOp.Answer (Served d)

abbrev Trace (d : Deployment) := List (Observed d)

/-- A call that the host made: the operations of the program behind it, and its result. -/
structure CallRecord (d : Deployment) where
  call : SpoolCall (HANDLE d.client)
  trace : Trace d
  result : Except Abnormal call.Ret

/-- The programs behind the entry points that the host calls. -/
abbrev Entry (w : PtrWidth) := (c : SpoolCall (HANDLE w)) → Client w c.Ret

/-- The host makes one call and waits until it is over. -/
def HostStep (entry : Entry d.client) (W : World d) (rec : CallRecord d) (W' : World d) : Prop :=
  (entry rec.call).RunsIn World.env W rec.trace rec.result W'

end RemotePrinter
