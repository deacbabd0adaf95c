-- The detours of the queries over a server: which runs they have, and what they
-- write to the caller's buffer.
import RemotePrinter.QueryDetours
import RemotePrinter.QueryWorld

open Interactive ByteMemory

namespace RemotePrinter

/-! ## The client -/

/-- The memory from the address of the caller's buffer on, the last error of the caller's
thread, and the thread of the server. -/
structure QueryState (w' : PtrWidth) where
  memory : Mem
  lastError : DWORD
  server : ServerThread w'

/-- The detours over a server. Without `lossy` the connection is up; with it, it may fail at any
time. A handler that ends without a result ends the call with an exception. -/
def QueryState.env {w w' : PtrWidth} (srv : Server w') (lossy : Prop) :
    Env (QueryClientOp w) QueryClientOp.Answer Unit (QueryState w') :=
  fun S op a _ S' =>
    match op, a with
    | .ensure_connection, b => (b = true ∨ lossy) ∧ S' = S
    | .original _, _ => S'.server = S.server
    | .api q, .ok v =>
      ∃ t, srv.answers q S.server = (some (.ok v), t) ∧ S' = { S with server := t }
    | .api q, .error _ =>
      (lossy ∨ ∃ x t, srv.answers q S.server = (some (.error x), t)) ∧
        S' = { S with server := S'.server }
    | .memcpy src n, _ =>
      -- the bytes after the string's own are not known
      ∃ after : Bytes, n ≤ (cStr src ++ after).length ∧
        S' = { S with memory := S.memory.write 0 ((cStr src ++ after).take n) }
    | .storePointer offset value, _ =>
      S' = { S with memory := S.memory.write offset (pointerBytes value) }
    | .SetLastError e, _ => S' = { S with lastError := e }

/-- The detour has found its connection up. -/
def Forwarded {w : PtrWidth} (tr : List (Obs (QueryClientOp w) QueryClientOp.Answer Unit)) : Prop :=
  ⟨.ensure_connection, true, ()⟩ ∈ tr

/-- An operation that writes to the first `cbBuf` bytes of the caller's buffer only, and takes
bytes of the reply only. -/
def QueryClientOp.Inside {w : PtrWidth} (cbBuf : Nat) : QueryClientOp w → Prop
  | .memcpy src n => n ≤ cbBuf ∧ n ≤ src.length
  | .storePointer offset _ => offset + w.bytes ≤ cbBuf
  | _ => True

/-- A buffer of zeros. -/
def zeroBuffer (n : Nat) (hn : n ≤ 4096) : Buffer .x86 where
  address := 8192
  lent := n
  bytes := Mem.ofBytes []
  nonnull := by decide
  fits := Nat.le_trans (Nat.add_le_add_left hn _) (by decide)

/-- The caller's buffer has `n` bytes, and NULL stands for none. The memory is that from its
address on. -/
def CallerBuffer {w w' : PtrWidth} (b : Option (Buffer w)) (n : Nat) (S : QueryState w') : Prop :=
  match b with
  | some b => b.lent = n ∧ b.bytes = S.memory
  | none => n = 0

section
variable {w w' : PtrWidth} {srv : Server w'} {lossy : Prop} {S S' : QueryState w'}
  {tr : List (Obs (QueryClientOp w) QueryClientOp.Answer Unit)}
  {r : Except QueryAbnormal QueryResult}

/-! ## The runs of one operation -/

namespace QueryDetour

theorem done_runsIn {v : QueryResult} :
    (Prog.done v : QueryClient w QueryResult).RunsIn (QueryState.env srv lossy) S tr r S' ↔
      tr = [] ∧ r = .ok v ∧ S' = S :=
  Iff.rfl

theorem orBypass_runsIn {c : QueryCall w} {forward : QueryClient w QueryResult} :
    (orBypass c forward).RunsIn (QueryState.env srv lossy) S tr r S' ↔
      (∃ tr', forward.RunsIn (QueryState.env srv lossy) S tr' r S' ∧
        tr = ⟨.ensure_connection, true, ()⟩ :: tr') ∨
      lossy ∧ ∃ tr', (fpOriginal c).RunsIn (QueryState.env srv lossy) S tr' r S' ∧
        tr = ⟨.ensure_connection, false, ()⟩ :: tr' := by
  unfold orBypass ensure_connection
  rw [Prog.perform_bind]
  constructor
  · rintro ⟨b, l, S₁, tr', ⟨hb, hS⟩, htr, hrest⟩
    cases hS
    cases b with
    | true => exact Or.inl ⟨tr', hrest, htr⟩
    | false =>
      refine Or.inr ⟨by simpa using hb, tr', ?_, htr⟩
      simpa [Prog.bind_done] using hrest
  · rintro (⟨tr', hrest, rfl⟩ | ⟨hlossy, tr', hrest, rfl⟩)
    · exact .next ⟨Or.inl rfl, rfl⟩ hrest
    · refine .next ⟨Or.inr hlossy, rfl⟩ ?_
      simpa [Prog.bind_done] using hrest

/-- The runs that find the connection up. -/
theorem orBypass_forwarded {c : QueryCall w} {forward : QueryClient w QueryResult} :
    (orBypass c forward).RunsIn (QueryState.env srv lossy) S tr r S' ∧ Forwarded tr ↔
      ∃ tr', forward.RunsIn (QueryState.env srv lossy) S tr' r S' ∧
        tr = ⟨.ensure_connection, true, ()⟩ :: tr' := by
  rw [orBypass_runsIn]
  constructor
  · rintro ⟨h | ⟨-, tr', ⟨a, l, S₁, tr'', -, rfl, rfl, -⟩, rfl⟩, hfwd⟩
    · exact h
    · simp [Forwarded] at hfwd
  · rintro ⟨tr', h, rfl⟩
    exact ⟨Or.inl ⟨tr', h, rfl⟩, List.mem_cons_self⟩

theorem api_runsIn {q : QueryRequest} {f : q.Result → QueryClient w QueryResult} :
    (api q >>= f).RunsIn (QueryState.env srv lossy) S tr r S' ↔
      (∃ v t tr', srv.answers q S.server = (some (.ok v), t) ∧
        (f v).RunsIn (QueryState.env srv lossy) { S with server := t } tr' r S' ∧
        tr = ⟨.api q, .ok v, ()⟩ :: tr') ∨
      ∃ x, (lossy ∨ ∃ x t, srv.answers q S.server = (some (.error x), t)) ∧
        tr = [⟨.api q, .error x, ()⟩] ∧ r = .error (.thrown x) ∧
        S' = { S with server := S'.server } := by
  unfold api
  rw [Prog.call_bind]
  constructor
  · rintro ⟨a, l, S₁, tr', henv, htr, hrest⟩
    cases a with
    | ok v =>
      obtain ⟨t, hans, rfl⟩ := henv
      exact Or.inl ⟨v, t, tr', hans, hrest, htr⟩
    | error x =>
      obtain ⟨hx, hS⟩ := henv
      obtain ⟨rfl, hr, rfl⟩ := hrest
      exact Or.inr ⟨x, hx, htr, hr, hS⟩
  · rintro (⟨v, t, tr', hans, hrest, rfl⟩ | ⟨x, hx, rfl, rfl, hS⟩)
    · have henv : QueryState.env (w := w) srv lossy S (.api q) (.ok v) () { S with server := t } :=
        ⟨t, hans, rfl⟩
      exact .next henv hrest
    · have henv : QueryState.env (w := w) srv lossy S (.api q) (.error x) () S' := ⟨hx, hS⟩
      exact .next henv ⟨rfl, rfl, rfl⟩

theorem SetLastError_runsIn {e : DWORD} {f : Unit → QueryClient w QueryResult} :
    (SetLastError e >>= f).RunsIn (QueryState.env srv lossy) S tr r S' ↔
      ∃ tr', (f ()).RunsIn (QueryState.env srv lossy) { S with lastError := e } tr' r S' ∧
        tr = ⟨.SetLastError e, (), ()⟩ :: tr' := by
  unfold SetLastError
  rw [Prog.perform_bind]
  constructor
  · rintro ⟨a, l, S₁, tr', rfl, htr, hrest⟩
    exact ⟨tr', hrest, htr⟩
  · rintro ⟨tr', hrest, rfl⟩
    have henv : QueryState.env (w := w) srv lossy S (.SetLastError e) () ()
        { S with lastError := e } := rfl
    exact .next henv hrest

/-- A copy of no more bytes than the string has. -/
theorem memcpy_runsIn {b : Buffer w} {src : Bytes} {n : Nat} (hn : n ≤ src.length)
    {f : Unit → QueryClient w QueryResult} :
    (memcpy (some b) src n >>= f).RunsIn (QueryState.env srv lossy) S tr r S' ↔
      ∃ tr', (f ()).RunsIn (QueryState.env srv lossy)
          { S with memory := S.memory.write 0 (src.take n) } tr' r S' ∧
        tr = ⟨.memcpy src n, (), ()⟩ :: tr' := by
  have htake : ∀ after : Bytes, (cStr src ++ after).take n = src.take n := by
    intro after
    unfold cStr
    rw [List.append_assoc, List.take_append_of_le_length hn]
  unfold memcpy
  dsimp only
  rw [Prog.perform_bind]
  constructor
  · rintro ⟨a, l, S₁, tr', ⟨after, -, hS⟩, htr, hrest⟩
    rw [htake] at hS
    cases hS
    exact ⟨tr', hrest, htr⟩
  · rintro ⟨tr', hrest, rfl⟩
    have henv : QueryState.env (w := w) srv lossy S (.memcpy src n) () ()
        { S with memory := S.memory.write 0 (src.take n) } := by
      refine ⟨[], ?_, by rw [htake]⟩
      unfold cStr
      simp only [List.append_nil, List.length_append]
      omega
    exact .next henv hrest

/-- A copy of any number of bytes has a run, also of more than the string has. -/
theorem memcpy_runs (srv : Server w') (lossy : Prop) (b : Buffer w) (src : Bytes) (n : Nat)
    (S : QueryState w') :
    ∃ m, ∀ {f : Unit → QueryClient w QueryResult} {tr r S'},
      (f ()).RunsIn (QueryState.env srv lossy) { S with memory := m } tr r S' →
      (memcpy (some b) src n >>= f).RunsIn (QueryState.env srv lossy) S
        (⟨.memcpy src n, (), ()⟩ :: tr) r S' := by
  refine ⟨S.memory.write 0 ((cStr src ++ List.replicate n 0).take n), fun hrest => ?_⟩
  have henv : QueryState.env (w := w) srv lossy S (.memcpy src n) () ()
      { S with memory := S.memory.write 0 ((cStr src ++ List.replicate n 0).take n) } :=
    ⟨List.replicate n 0, by simp, rfl⟩
  exact .next henv hrest

theorem storeAll_runsIn {stores : List (Nat × HANDLE w)} {f : Unit → QueryClient w QueryResult} :
    (storeAll stores >>= f).RunsIn (QueryState.env srv lossy) S tr r S' ↔
      ∃ tr', (f ()).RunsIn (QueryState.env srv lossy)
          { S with memory := S.memory.writeAll (stores.map fun s => (s.1, pointerBytes s.2)) }
          tr' r S' ∧
        tr = stores.map (fun s => ⟨.storePointer s.1 s.2, (), ()⟩) ++ tr' := by
  induction stores generalizing S tr with
  | nil =>
    constructor
    · intro h
      exact ⟨tr, h, rfl⟩
    · rintro ⟨tr', h, rfl⟩
      exact h
  | cons s stores ih =>
    obtain ⟨offset, value⟩ := s
    have hbind : (storeAll ((offset, value) :: stores) >>= f) =
        Prog.call (QueryClientOp.storePointer offset value) fun _ => storeAll stores >>= f := rfl
    rw [hbind]
    constructor
    · rintro ⟨a, l, S₁, tr', rfl, htr, hrest⟩
      obtain ⟨tr'', hf, rfl⟩ := ih.mp hrest
      exact ⟨tr'', hf, htr⟩
    · rintro ⟨tr', hf, rfl⟩
      have henv : QueryState.env (w := w) srv lossy S (.storePointer offset value) () ()
          { S with memory := S.memory.write offset (pointerBytes value) } := rfl
      exact .next henv (ih.mpr ⟨tr', hf, rfl⟩)

/-! ## The runs of a request -/

/-- The call of the server has thrown. Nothing is written. -/
def Thrown (q : QueryRequest) (S : QueryState w')
    (tr : List (Obs (QueryClientOp w) QueryClientOp.Answer Unit))
    (r : Except QueryAbnormal QueryResult) (S' : QueryState w') : Prop :=
  ∃ x, tr = [⟨.ensure_connection, true, ()⟩, ⟨.api q, .error x, ()⟩] ∧
    r = .error (.thrown x) ∧ S' = { S with server := S'.server }

/-- The forwarded runs, when the handler answers. -/
theorem forwarded_of_answer {c : QueryCall w} {q : QueryRequest} {a : q.Result}
    {t : ServerThread w'} (hans : srv.answers q S.server = (some (.ok a), t))
    {f : q.Result → QueryClient w QueryResult} :
    (orBypass c (api q >>= f)).RunsIn (QueryState.env srv lossy) S tr r S' ∧ Forwarded tr ↔
      lossy ∧ Thrown q S tr r S' ∨
      ∃ tr', (f a).RunsIn (QueryState.env srv lossy) { S with server := t } tr' r S' ∧
        tr = ⟨.ensure_connection, true, ()⟩ :: ⟨.api q, .ok a, ()⟩ :: tr' := by
  rw [orBypass_forwarded]
  constructor
  · rintro ⟨tr₁, h, rfl⟩
    rcases api_runsIn.mp h with ⟨v, t', tr', hv, hf, rfl⟩ | ⟨x, hx, rfl, rfl, hS⟩
    · rw [hans] at hv
      cases hv
      exact Or.inr ⟨tr', hf, rfl⟩
    · have hlossy : lossy := by simpa [hans] using hx
      exact Or.inl ⟨hlossy, x, rfl, rfl, hS⟩
  · rintro (⟨hlossy, x, rfl, rfl, hS⟩ | ⟨tr', hf, rfl⟩)
    · exact ⟨_, api_runsIn.mpr (Or.inr ⟨x, Or.inl hlossy, rfl, rfl, hS⟩), rfl⟩
    · exact ⟨_, api_runsIn.mpr (Or.inl ⟨a, t, tr', hans, hf, rfl⟩), rfl⟩

/-- The forwarded runs, when the handler ends without a result. -/
theorem forwarded_of_abort {c : QueryCall w} {q : QueryRequest} {x : HandlerAbort}
    {t : ServerThread w'} (hans : srv.answers q S.server = (some (.error x), t))
    {f : q.Result → QueryClient w QueryResult} :
    (orBypass c (api q >>= f)).RunsIn (QueryState.env srv lossy) S tr r S' ∧ Forwarded tr ↔
      Thrown q S tr r S' := by
  rw [orBypass_forwarded]
  constructor
  · rintro ⟨tr₁, h, rfl⟩
    rcases api_runsIn.mp h with ⟨v, t', tr', hv, -, -⟩ | ⟨y, -, rfl, rfl, hS⟩
    · rw [hans] at hv
      cases hv
    · exact ⟨y, rfl, rfl, hS⟩
  · rintro ⟨y, rfl, rfl, hS⟩
    exact ⟨_, api_runsIn.mpr (Or.inr ⟨y, Or.inr ⟨x, t, hans⟩, rfl, rfl, hS⟩), rfl⟩

/-- Without losses every run is a forwarded one. -/
theorem forwarded_of_lossless {c : QueryCall w} {forward : QueryClient w QueryResult}
    (h : (orBypass c forward).RunsIn (QueryState.env srv False) S tr r S') : Forwarded tr := by
  rcases orBypass_runsIn.mp h with ⟨tr', -, rfl⟩ | ⟨hlossy, -⟩
  · exact List.mem_cons_self
  · exact hlossy.elim

end QueryDetour

end

end RemotePrinter
