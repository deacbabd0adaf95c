-- Runs of the client: `thrift_connect`, `ensure_connection`, forwarded calls and
-- `thrift_close` in any order, with a network that can fail at any byte.
import RemotePrinter.Sending
import RemotePrinter.Receiving
import RemotePrinter.Runs

open Interactive

namespace RemotePrinter

/-! ## Commands -/

inductive Command where
  | thrift_connect
  | ensure_connection
  /-- A detour that forwards its call if there is a connection. -/
  | forward (q : Request)
  | thrift_close

/-- A forwarded call ends with TRUE, and a call without a connection with FALSE. -/
def Command.action : Command → Action Bool
  | thrift_connect => thriftlink_client.thrift_connect
  | ensure_connection => thriftlink_client.ensure_connection
  | forward q => do
    if ← thriftlink_client.ensure_connection then
      let _ ← q.call
      return true
    else return false
  | thrift_close => do
    thriftlink_client.thrift_close
    return true

/-! ## Steps -/

/-- `waiting` says that the last command waits for ever. -/
structure ClientState where
  link : Link
  waiting : Bool := false

/-- A command that has been carried out: the state before it, how it ended, and the failures of
`send` and `recv` that were noted in it. -/
structure ClientRecord where
  before : Link
  command : Command
  result : Except Stop Bool
  faults : List Fault

def ClientRecord.Hangs (rec : ClientRecord) : Prop := rec.result = .error .blocked

/-- A command starts with no failure noted. -/
def Link.start (s : Link) : Link := { s with faults := [] }

structure ClientStep (C : ClientState) (rec : ClientRecord) (C' : ClientState) : Prop where
  ready : C.waiting = false
  before : rec.before = C.link
  action : rec.command.action C.link.start = (rec.result, C'.link)
  faults : rec.faults = C'.link.faults
  waiting : C'.waiting = true ↔ rec.Hangs

/-- The record of a command and the state behind it. -/
def ClientState.record (C : ClientState) (c : Command) : ClientRecord where
  before := C.link
  command := c
  result := (c.action C.link.start).1
  faults := (c.action C.link.start).2.faults

def ClientState.next (C : ClientState) (c : Command) : ClientState where
  link := (c.action C.link.start).2
  waiting :=
    match (c.action C.link.start).1 with
    | .error .blocked => true
    | _ => false

theorem clientStep_next {C : ClientState} (hready : C.waiting = false) (c : Command) :
    ClientStep C (C.record c) (C.next c) := by
  refine ⟨hready, rfl, rfl, rfl, ?_⟩
  unfold ClientState.next ClientRecord.Hangs ClientState.record
  simp only
  rcases (c.action C.link.start).1 with (x | _) | b <;> simp

/-- Before `thrift_connect`. -/
def Link.Unused (s : Link) : Prop :=
  s.created = false ∧ s.isOpen = false ∧ s.connections = []

/-- The buffers outlive the connection. -/
theorem ensure_connection_same (s : Link) :
    (thriftlink_client.ensure_connection s).2.wBuf = s.wBuf ∧
    (thriftlink_client.ensure_connection s).2.rBuf = s.rBuf ∧
    (thriftlink_client.ensure_connection s).2.recursion_depth = s.recursion_depth ∧
    (thriftlink_client.ensure_connection s).2.faults = s.faults := by
  rcases thriftlink_client.ensure_connection_spec s with
    ⟨-, hrun⟩ | ⟨-, -, hrun⟩ | ⟨-, -, hspec⟩
  · rw [hrun]
    exact ⟨rfl, rfl, rfl, rfl⟩
  · rw [hrun]
    exact ⟨rfl, rfl, rfl, rfl⟩
  · generalize thriftlink_client.ensure_connection s = out at hspec ⊢
    obtain ⟨r, l⟩ := out
    cases hspec <;> exact ⟨rfl, rfl, rfl, rfl⟩

theorem ensure_connection_sends (s : Link) :
    (thriftlink_client.ensure_connection s).2.sends = s.sends := by
  rcases thriftlink_client.ensure_connection_spec s with
    ⟨-, hrun⟩ | ⟨-, -, hrun⟩ | ⟨-, -, hspec⟩
  · rw [hrun]
  · rw [hrun]
  · generalize thriftlink_client.ensure_connection s = out at hspec ⊢
    obtain ⟨r, l⟩ := out
    cases hspec <;> rfl

/-- A forwarded call finds no connection, or is made on an open one. -/
theorem forward_action (q : Request) (s : Link) :
    (∃ s', thriftlink_client.ensure_connection s = (.ok false, s') ∧
      (Command.forward q).action s = (.ok false, s')) ∨
    ∃ s₁, thriftlink_client.ensure_connection s = (.ok true, s₁) ∧ s₁.isOpen = true ∧
      (Command.forward q).action s = ((q.call s₁).1.map fun _ => true, (q.call s₁).2) := by
  have hcall : ∀ s₁, thriftlink_client.ensure_connection s = (.ok true, s₁) →
      (Command.forward q).action s = ((q.call s₁).1.map fun _ => true, (q.call s₁).2) := by
    intro s₁ hens
    simp only [Command.action]
    rw [Action.bind_ok hens, if_pos rfl, Action.bind_run]
    generalize q.call s₁ = out
    obtain ⟨r, s'⟩ := out
    cases r <;> rfl
  have hnone : ∀ s', thriftlink_client.ensure_connection s = (.ok false, s') →
      (Command.forward q).action s = (.ok false, s') := by
    intro s' hens
    simp only [Command.action]
    rw [Action.bind_ok hens]
    rfl
  have hspec := thriftlink_client.ensure_connection_spec s
  rcases hspec with ⟨-, hens⟩ | ⟨-, hopen, hens⟩ | ⟨-, -, hre⟩
  · exact Or.inl ⟨s, hens, hnone s hens⟩
  · exact Or.inr ⟨s, hens, hopen, hcall s hens⟩
  · cases hens : thriftlink_client.ensure_connection s with
    | mk r s₁ =>
      rw [hens] at hre
      cases hre with
      | opened rest hnext => exact Or.inr ⟨_, rfl, rfl, hcall _ hens⟩
      | refused rest hno => exact Or.inl ⟨_, rfl, hnone _ hens⟩

theorem transportError_map {α β : Type} (f : α → β) (r : Except Stop α) :
    transportError (r.map f) = transportError r := by
  rcases r with ((type | type | type) | _) | v <;> rfl

/-! ## What a call leaves -/

/-- The record of a connection after a call: its request, the bytes that the network took, the
connections that the bytes came from which were read, and whether it has failed. -/
def Connection.after (q : Request) (sent : Bytes) (ns : List Nat) (failed : Bool)
    (c : Connection) : Connection :=
  { requests := c.requests ++ [q.encoding]
    written := c.written ++ sent
    consumed := c.consumed ++ ns
    failed := c.failed || failed }

/-- How a call from an open connection ends: it stops by itself, the socket stops the sending of
its request, or its request is sent. -/
inductive CallEnds (s : Link) (q : Request) (r : Except Stop q.Result) (s' : Link) : Prop
  | limited (sent : Bytes) (hlimit : q.Limited s) (hopen : s'.isOpen = true)
      (hno : transportError r = false)
      (hconn : s'.connections = onNewest (Connection.after q sent [] false) s.connections)
  | unsent (e : Stop) (o : Bool) (fs : List Fault) (sent : Bytes) (hr : r = .error e)
      (hstop : Stops e o fs) (hopen : s'.isOpen = o) (hfaults : s'.faults = s.faults ++ fs)
      (hsent : sent <+: s.wBuf ++ q.encoding) (hres : Residue s s'.recursion_depth s'.wBuf)
      (hconn : s'.connections =
        onNewest (Connection.after q sent [] (transportError r)) s.connections)
  | sent (ns : List Nat) (hopen : s'.isOpen = true) (hwBuf : s'.wBuf = [])
      (hdepth : s'.recursion_depth = s.recursion_depth)
      (hfresh : Fresh s → Fresh s' ∧ ∀ n ∈ ns, n = s.connections.length)
      (hnoted : transportError r = true → RecvNoted s')
      (hconn : s'.connections =
        onNewest (Connection.after q (s.wBuf ++ q.encoding) ns (transportError r)) s.connections)

theorem onNewest_onNewest (f g : Connection → Connection) (cs : List Connection) :
    onNewest g (onNewest f cs) = onNewest (fun c => g (f c)) cs := by
  cases cs <;> rfl

theorem onNewest_congr {f g : Connection → Connection} (h : ∀ c, f c = g c)
    (cs : List Connection) : onNewest f cs = onNewest g cs := by
  rw [funext h]

/-- The record of a call that has failed, or has not. -/
theorem recorded {α : Type} (r : Except Stop α) (s' : Link) {q : Request} {sent : Bytes}
    {ns : List Nat} {cs : List Connection}
    (h : s'.connections = onNewest (Connection.after q sent ns false) cs) :
    (if transportError r then s'.fail else s').connections =
      onNewest (Connection.after q sent ns (transportError r)) cs := by
  cases hr : transportError r with
  | false => exact h
  | true =>
    simp only [if_true, Link.fail]
    rw [h, onNewest_onNewest]
    refine onNewest_congr (fun c => ?_) cs
    simp [Connection.after]

theorem transportError_iff {α : Type} (r : Except Stop α) :
    transportError r = true ↔ ∃ type, r = .error (.thrown (.TTransportException type)) := by
  rcases r with ((type | type | type) | _) | v <;> simp [transportError]

theorem fail_same (b : Bool) (s' : Link) :
    (if b then s'.fail else s').isOpen = s'.isOpen ∧
    (if b then s'.fail else s').wBuf = s'.wBuf ∧
    (if b then s'.fail else s').recursion_depth = s'.recursion_depth ∧
    (if b then s'.fail else s').faults = s'.faults ∧
    (Fresh s' → Fresh (if b then s'.fail else s')) := by
  cases b with
  | false => exact ⟨rfl, rfl, rfl, rfl, id⟩
  | true =>
    refine ⟨rfl, rfl, rfl, rfl, fun hfresh hne => ?_⟩
    simp only [if_true, Link.fail, onNewest_length] at hne ⊢
    exact hfresh hne

theorem call_spec {s : Link} (hopen : s.isOpen = true) (q : Request) :
    CallEnds s q (q.call s).1 (q.call s).2 := by
  unfold Request.call Request.api
  rw [Action.bind_run]
  have hsend := send_spec (s := s.issue q) hopen q
  have hwrote : ∀ b cs, wrote b (onNewest (fun c => { c with
      requests := c.requests ++ [q.encoding] }) cs) =
      onNewest (Connection.after q b [] false) cs := by
    intro b cs
    unfold wrote
    rw [onNewest_onNewest]
    exact onNewest_congr (fun c => by simp [Connection.after]) cs
  cases hrun : q.send (s.issue q) with
  | mk r s₁ =>
    rw [hrun] at hsend
    have hempty : r = .ok () → s₁.wBuf = [] :=
      fun hr => send_wBuf (s := s.issue q) hopen (hr ▸ hrun)
    cases hsend with
    | limit x d t sent left hlimit => exact .limited sent hlimit hopen rfl (hwrote sent _)
    | stop e o fs d t sent left hstop hsent hroom hkept =>
      simp only
      obtain ⟨h₁, h₂, h₃, h₄, -⟩ := fail_same (transportError (α := q.Result) (.error e))
        { s.issue q with
          sends := t, connections := wrote sent (s.issue q).connections, wBuf := left
          recursion_depth := d, isOpen := o, faults := (s.issue q).faults ++ fs }
      refine .unsent e o fs sent rfl hstop h₁ h₄ hsent ?_ (recorded _ _ (hwrote sent _))
      rw [h₂, h₃]
      exact hkept
    | ok t sent left hfull hsplit hroom =>
      have hnil : left = [] := hempty rfl
      rw [hnil, List.append_nil] at hsplit
      rw [hnil, hsplit]
      simp only
      generalize hs₂ : ({ s.issue q with
        sends := t, connections := wrote ((s.issue q).wBuf ++ q.encoding) (s.issue q).connections
        wBuf := [] } : Link) = s₂
      have hrec := receive_spec (s := s₂) (by rw [← hs₂]; exact hopen) q
      generalize q.receive s₂ = out at hrec ⊢
      obtain ⟨r, s'⟩ := out
      obtain ⟨ns, hcons, hfresh⟩ := hrec.received.connections
      obtain ⟨h₁, h₂, h₃, h₄, h₅⟩ := fail_same (transportError r) s'
      have hopen₂ : s₂.isOpen = true := by rw [← hs₂]; exact hopen
      have hconn : s'.connections =
          onNewest (Connection.after q (s.wBuf ++ q.encoding) ns false) s.connections := by
        have hsent : s₂.connections =
            onNewest (Connection.after q (s.wBuf ++ q.encoding) [] false) s.connections := by
          rw [← hs₂]
          exact hwrote _ _
        rw [hcons, hsent]
        unfold consumed
        rw [onNewest_onNewest]
        exact onNewest_congr (fun c => by simp [Connection.after]) s.connections
      have hsame : Fresh s → Fresh s₂ := by
        rw [← hs₂]
        intro hf hne
        have hnum := hf hne
        simp only [Link.issue, wrote, onNewest_length] at hnum ⊢
        exact hnum
      have hlength : s₂.connections.length = s.connections.length := by
        rw [← hs₂]
        simp [Link.issue, wrote]
      refine .sent ns ?_ ?_ ?_ ?_ ?_ (recorded r s' hconn)
      · simp only
        rw [h₁, hrec.received.isOpen, hopen₂]
      · simp only
        rw [h₂, hrec.received.wBuf, ← hs₂]
      · simp only
        rw [h₃, hrec.received.recursion_depth, ← hs₂]
        rfl
      · intro hf
        obtain ⟨hf', hns⟩ := hfresh (hsame hf)
        rw [hlength] at hns
        exact ⟨h₅ hf', hns⟩
      · intro herr
        obtain ⟨type, htype⟩ := (transportError_iff r).mp herr
        have hnoted := hrec.noted type htype
        unfold RecvNoted at hnoted ⊢
        simp only
        rw [h₄]
        exact hnoted

end RemotePrinter
