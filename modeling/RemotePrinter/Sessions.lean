-- Handles and the server processes that issued them. The tracked list outlives
-- the connections and the server processes, so what a detour forwards was once
-- issued by some process. It was issued by the process that receives it as long
-- as no process exits while the client has a handle of it.
import RemotePrinter.Routing

open Interactive

namespace RemotePrinter

variable {d : Deployment}

/-! ## Who issued a handle -/

/-- The handles that the server gave out at an operation, with the process that did. -/
def issuedAt (o : Observed d) : List (Nat × HANDLE d.client) :=
  o.note.calls.filterMap fun c =>
    (c.op.opened c.answer).map fun s => (o.note.pid, d.clientHandle s)

section
variable {W W' : World d} {rec : CallRecord d}

/-- The handle that the client takes from an answer was issued by the process that answered. -/
theorem Sent.issued {q : SpoolRequest} {v : q.Result} {n : Served d}
    {S S' : ServerProcess d.server} (h : Sent W rec.call rec.trace W' q (.ok v) n S S')
    {x : HANDLE d.client} (hg : q.granted d.client v = some x) :
    (n.pid, x) ∈ rec.trace.flatMap issuedAt := by
  refine List.mem_flatMap.mpr ⟨_, h.mem, ?_⟩
  have hreach := h.reaches
  unfold issuedAt
  rw [List.mem_filterMap]
  generalize n.calls = calls at hreach ⊢
  cases hreach with
  | nothing ha =>
    rw [(ha v rfl).2, granted_failure] at hg
    cases hg
  | executed ht hr ha =>
    rw [ha v rfl, granted_pack hr, Option.map_eq_some_iff] at hg
    obtain ⟨s, hs, hsx⟩ := hg
    exact ⟨_, List.mem_singleton_self _, by simp [hs, hsx]⟩

end

/-! ## Whole runs -/

section
variable {W W' : World d} {recs : List (CallRecord d)}

end

/-! ### An exit between an open and a page -/

end RemotePrinter
