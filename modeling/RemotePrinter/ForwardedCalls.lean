-- What becomes of a call that has passed the tests of its detour: the one call
-- that the server makes for it, and what the host gets of the answer.
import RemotePrinter.Courses

open Interactive

namespace RemotePrinter

variable {d : Deployment}

/-- The call has passed the tests of its detour: its printer or its handle is a remote one. -/
def Passes (tr : Trace d) : Prop :=
  (∃ name n, ⟨.isBixolonPrinterByName name, true, n⟩ ∈ tr) ∨
    ∃ h n, ⟨.isBixolonPrinterByHandle h, true, n⟩ ∈ tr

theorem Passes.append {t : Trace d} (h : Passes t) (t' : Trace d) : Passes (t ++ t') := by
  rcases h with ⟨name, n, hm⟩ | ⟨x, n, hm⟩
  · exact Or.inl ⟨name, n, List.mem_append_left _ hm⟩
  · exact Or.inr ⟨x, n, List.mem_append_left _ hm⟩

section
variable {W W' W₁ : World d} {c : SpoolCall (HANDLE d.client)} {t : Trace d}

theorem Tests.not_passes (h : Tests W c t false W₁) : ¬ Passes t := by
  cases h <;> simp [Passes]

theorem Tests.passes (h : Tests W c t true W₁) : Passes t := by
  cases h with
  | byName hc he ht => exact Or.inl ⟨_, _, List.mem_cons_of_mem _ (List.mem_singleton_self _)⟩
  | byHandle hc he ht => exact Or.inr ⟨_, _, List.mem_cons_of_mem _ (List.mem_singleton_self _)⟩

/-- A call that goes to the local function has not passed them. -/
theorem not_passes_bypass (h : Tests W c t false W₁) {r : c.Ret} {n : Served d} :
    ¬ Passes (t ++ [⟨.original c, r, n⟩]) := by
  have hnot := h.not_passes
  unfold Passes at hnot ⊢
  simpa using hnot

/-- So a call that has passed them does not go to the local function. -/
theorem Course.localCalls_of_passes {tr : Trace d} {r : Except Abnormal c.Ret}
    (h : Course W c tr r W') (hpass : Passes tr) : localCalls tr = [] := by
  cases h with
  | bypass ht hc => exact absurd hpass (not_passes_bypass ht)
  | unread ht hq => exact ht.quiet.2.2.2.1
  | failed ht hq hp ha | answered ht hq hp ha hg hr =>
    rw [localCalls_append, ht.quiet.2.2.2.1]
    rfl
  | opened ht hq hc ha hg hb hr | closing ht hc hl ha hr =>
    rw [localCalls_append, ht.quiet.2.2.2.1]
    rfl

/-- With the connection up a call on a tracked handle passes the tests. -/
theorem Course.passes_of_tracked {tr : Trace d} {r : Except Abnormal c.Ret}
    (h : Course W c tr r W') (hup : ∀ o ∈ tr, UpAt W.server.pid o) {x : HANDLE d.client}
    (hx : c.handle = some x) (htracked : x ∈ W.bxprinters) : Passes tr := by
  cases h with
  | bypass ht hc =>
    exfalso
    rcases ht.untracked hx with ⟨n, hn⟩ | hnot
    · have hdown := hup _ (List.mem_append_left _ hn)
      cases hdown.2
    · exact hnot htracked
  | unread ht hq => exact ht.passes
  | failed ht hq hp ha | answered ht hq hp ha hg hr => exact ht.passes.append _
  | opened ht hq hc ha hg hb hr => exact ht.passes.append _
  | closing ht hc hl ha hr => exact ht.passes.append _

variable {rec : CallRecord d}

/-- Every call that the server makes for the host is the one that its request asks for. -/
theorem HostStep.served (h : HostStep detour W rec W') {x : ServerCall d}
    (hx : x ∈ serverCalls rec.trace) :
    ∃ q r, rec.call.request = some q ∧ requests rec.trace = [q] ∧
      x = ⟨q.original d.server, r, ()⟩ := by
  have key : ∀ {q a n S S'}, Sent W rec.call rec.trace W' q a n S S' →
      ∃ q r, rec.call.request = some q ∧ requests rec.trace = [q] ∧
        x = ⟨q.original d.server, r, ()⟩ := by
    intro q a n S S' hsent
    have hreach := hsent.reaches
    rw [hsent.serverCalls] at hx
    generalize n.calls = calls at hreach hx
    cases hreach with
    | nothing ha => cases hx
    | executed ht hr ha =>
      exact ⟨q, _, hsent.request, hsent.requests, List.mem_singleton.mp hx⟩
  cases h.effect with
  | bypass v hr hbx hsp hserver hgrants hremovals hrequests hlocal hopens hserved hwhy =>
    simp [hserved] at hx
  | unread hr hq htracked hmeanwhile hgrants hremovals hrequests hlocal hopens hserved =>
    simp [hserved] at hx
  | asked q a n S S' hsent hp hbx hgrants hremovals hnone hgain => exact key hsent
  | opened q a n S S' y hsent hc hgrant hbx hgrants hremovals hgain => exact key hsent
  | closed y a n S S' hc hsent hbx hgrants hremovals hgain => exact key hsent

/-- With the connection up, a call that passes the tests reads through a NULL pointer and sends
nothing, or its request is answered by the server it was sent to. -/
theorem HostStep.forwarded (h : HostStep detour W rec W') (hup : Up W.server.pid rec)
    (hpass : Passes rec.trace) :
    (rec.call.request = none ∧ rec.result = .error .nullRead ∧ serverCalls rec.trace = []) ∨
    ∃ q v n, rec.call.request = some q ∧ ⟨.api (.spool q), .ok v, n⟩ ∈ rec.trace ∧
      serverCalls rec.trace = n.calls ∧ World.Reaches W.server q (.ok v) n.calls W'.server := by
  have hpid := (h.same_of_up hup).1
  have key : ∀ {q a n S S'}, Sent W rec.call rec.trace W' q a n S S' →
      ∃ q v n, rec.call.request = some q ∧ ⟨.api (.spool q), .ok v, n⟩ ∈ rec.trace ∧
        serverCalls rec.trace = n.calls ∧
        World.Reaches W.server q (.ok v) n.calls W'.server := by
    intro q a n S S' hsent
    obtain ⟨v, rfl⟩ := hsent.answered hup
    obtain ⟨rfl, rfl⟩ := hsent.same_server hup hpid
    exact ⟨q, v, n, hsent.request, hsent.mem, hsent.serverCalls, hsent.reaches⟩
  have hcourse := detour_course h
  cases hcourse.effect with
  | bypass v hr hbx hsp hserver hgrants hremovals hrequests hlocal hopens hserved hwhy =>
    simp [hcourse.localCalls_of_passes hpass] at hlocal
  | unread hr hq htracked hmeanwhile hgrants hremovals hrequests hlocal hopens hserved =>
    exact Or.inl ⟨hq, hr, hserved⟩
  | asked q a n S S' hsent hp hbx hgrants hremovals hnone hgain => exact Or.inr (key hsent)
  | opened q a n S S' y hsent hc hgrant hbx hgrants hremovals hgain => exact Or.inr (key hsent)
  | closed y a n S S' hc hsent hbx hgrants hremovals hgain => exact Or.inr (key hsent)

/-- With the connection up the request of a call that passes the tests is answered. -/
theorem HostStep.reached (h : HostStep detour W rec W') (hup : Up W.server.pid rec)
    (hpass : Passes rec.trace) {q : SpoolRequest} (hq : rec.call.request = some q) :
    ∃ v n, ⟨.api (.spool q), .ok v, n⟩ ∈ rec.trace ∧ serverCalls rec.trace = n.calls ∧
      World.Reaches W.server q (.ok v) n.calls W'.server := by
  rcases h.forwarded hup hpass with ⟨hnone, -, -⟩ | ⟨q', v, n, hq', hmem, hcalls, hreach⟩
  · rw [hq] at hnone
    cases hnone
  · rw [hq] at hq'
    cases hq'
    exact ⟨v, n, hmem, hcalls, hreach⟩

/-- A server that has the pointer that its handler tests makes the one call of the request, and
answers with what that gives. -/
theorem HostStep.carried (h : HostStep detour W rec W') (hup : Up W.server.pid rec)
    (hpass : Passes rec.trace) {q : SpoolRequest} (hq : rec.call.request = some q)
    (hfp : W.server.fp q.tested = true) :
    ∃ r n, serverCalls rec.trace = [⟨q.original d.server, r, ()⟩] ∧
      ⟨.api (.spool q), .ok (q.pack d.server r), n⟩ ∈ rec.trace := by
  obtain ⟨v, n, hmem, hcalls, hreach⟩ := h.reached hup hpass hq
  rw [hcalls]
  generalize W'.server = S' at hreach
  generalize n.calls = calls at hreach
  cases hreach with
  | nothing ha => exact absurd (ha v rfl).1 (by simp [hfp])
  | executed ht hr ha =>
    rw [ha v rfl] at hmem
    exact ⟨_, n, rfl, hmem⟩

/-- A server without that pointer makes no call. -/
theorem HostStep.refused (h : HostStep detour W rec W') (hup : Up W.server.pid rec)
    (hpass : Passes rec.trace) {q : SpoolRequest} (hq : rec.call.request = some q)
    (hfp : W.server.fp q.tested = false) : serverCalls rec.trace = [] := by
  obtain ⟨v, n, -, hcalls, hreach⟩ := h.reached hup hpass hq
  rw [hcalls]
  generalize W'.server = S' at hreach
  generalize n.calls = calls at hreach
  cases hreach with
  | nothing ha => rfl
  | executed ht hr ha => exact absurd ht (by simp [hfp])

end

/-! ## What the host gets -/

section
variable {W W' : World d} {tr : Trace d}

/-- What a detour on a handle does with the answer to its request. -/
theorem result_of_answer {c : SpoolCall (HANDLE d.client)} {h : HANDLE d.client}
    {q : SpoolRequest} {k : q.Result → c.Ret} {r : Except Abnormal c.Ret} (hc : c.handle = some h)
    (run : Prog.RunsIn World.env
      (forwardOr h (api (.spool q) >>= fun a => .done (k a)) (fpOriginal c)) W tr r W')
    {a : q.Result} {n : Served d} (ho : ⟨.api (.spool q), .ok a, n⟩ ∈ tr) : r = .ok (k a) := by
  obtain ⟨t, b, W₁, tr', ht, rfl, hrest⟩ := tests_runsIn (Or.inl ⟨h, hc, rfl⟩) run
  have hnot : ⟨.api (.spool q), .ok a, n⟩ ∉ t := by
    intro hin
    have := List.filterMap_eq_nil_iff.mp ht.quiet.2.2.1 _ hin
    cases this
  have hin := (List.mem_append.mp ho).resolve_left hnot
  cases b with
  | false =>
    obtain ⟨v, n', -, rfl, -⟩ := fpOriginal_runsIn hrest
    cases List.mem_singleton.mp hin
  | true =>
    rcases api_runsIn hrest with ⟨x, n', -, rfl, -⟩ | ⟨a', n', W₂, tr₂, -, rfl, rfl, hr, -⟩
    · cases List.mem_singleton.mp hin
    · cases List.mem_singleton.mp hin
      exact hr

end

end RemotePrinter
