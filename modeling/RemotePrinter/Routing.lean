-- Where the calls on a handle go. A handle that the server gave out stays
-- tracked until the host closes it, so its calls go to the local functions only
-- while there is no connection. Local and remote handles share one space of
-- values, so the routes are right as long as no value stands for both.
import RemotePrinter.Steps
import RemotePrinter.Runs

open Interactive

namespace RemotePrinter

variable {d : Deployment}

/-! ## What the host knows of its handles -/

/-- The handles that the client took from the server's answers to opens. -/
def obtained (recs : List (CallRecord d)) : List (HANDLE d.client) :=
  recs.flatMap fun rec => grants rec.trace

/-- The handles that the local winspool gave out. -/
def localIssued (recs : List (CallRecord d)) : List (HANDLE d.client) :=
  recs.flatMap fun rec => localOpens rec.trace

/-- A close puts its handle on the list; an open that gives it out again takes it off. -/
def closedStep (l : List (HANDLE d.client)) (rec : CallRecord d) : List (HANDLE d.client) :=
  match rec.call.closes with
  | some h => h :: l
  | none =>
    match gained rec.call rec.result with
    | some h => l.filter (· ≠ h)
    | none => l

/-- The handles that the host has closed, and has not been given again. -/
def closedHandles (recs : List (CallRecord d)) : List (HANDLE d.client) :=
  recs.foldl closedStep []

/-- The host uses no handle after a close of it. -/
def NoUseAfterClose (pre : List (CallRecord d)) (rec : CallRecord d) : Prop :=
  ∀ h, rec.call.handle = some h → h ∉ closedHandles pre

theorem obtained_snoc (recs : List (CallRecord d)) (rec : CallRecord d) :
    obtained (recs ++ [rec]) = obtained recs ++ grants rec.trace := by
  simp [obtained]

theorem closedHandles_snoc (recs : List (CallRecord d)) (rec : CallRecord d) :
    closedHandles (recs ++ [rec]) = closedStep (closedHandles recs) rec := by
  simp [closedHandles]

theorem mem_closedStep_of_close {l : List (HANDLE d.client)} {rec : CallRecord d}
    {h : HANDLE d.client} (hc : rec.call = .ClosePrinter h) : h ∈ closedStep l rec := by
  have hcl : rec.call.closes = some h := by rw [hc]; rfl
  unfold closedStep
  rw [hcl]
  exact List.mem_cons_self

/-- Only an open that gives out `h` takes `h` off the list. -/
theorem mem_closedStep {l : List (HANDLE d.client)} {rec : CallRecord d} {h : HANDLE d.client}
    (hl : h ∈ l) (hg : gained rec.call rec.result ≠ some h) : h ∈ closedStep l rec := by
  unfold closedStep
  split
  · exact List.mem_cons_of_mem _ hl
  · split
    · rename_i x hx
      rw [hx] at hg
      rw [List.mem_filter, decide_eq_true_iff]
      exact ⟨hl, fun he => hg (by rw [he])⟩
    · exact hl

/-! ## A remote handle and the local functions -/

/-- The client has not lost a handle that it obtained: it is tracked, or the host closed it. -/
def Kept (pre : List (CallRecord d)) (W : World d) : Prop :=
  ∀ h ∈ obtained pre, h ∈ W.bxprinters ∨ h ∈ closedHandles pre

/-- What a local open gives to the host is one of the handles that it gave out. -/
theorem mem_localOpens_of_gained {c : SpoolCall (HANDLE d.client)} {v : c.Ret}
    {tr : Trace d} {h : HANDLE d.client} (ho : localOpens tr = (c.opened v).toList)
    (hg : gained c (.ok v) = some h) : h ∈ localOpens tr := by
  have hv : c.opened v = some h := hg
  rw [ho, hv]
  exact List.mem_singleton_self h

theorem kept_step {pre : List (CallRecord d)} {W W' : World d} {rec : CallRecord d}
    (hkept : Kept pre W) (hdis : ∀ h ∈ localOpens rec.trace, h ∉ obtained pre)
    (heff : Effect W rec.call rec.trace rec.result W') : Kept (pre ++ [rec]) W' := by
  intro h hh
  rw [obtained_snoc, List.mem_append] at hh
  rw [closedHandles_snoc]
  cases heff with
  | bypass v hr hbx hsp hserver hgrants hremovals hrequests hlocal hopens hserved hwhy =>
    rw [hgrants] at hh
    have hold : h ∈ obtained pre := by simpa using hh
    rw [hbx]
    refine (hkept h hold).imp_right fun hcl => mem_closedStep hcl fun hg => ?_
    rw [hr] at hg
    exact hdis h (mem_localOpens_of_gained hopens hg) hold
  | unread hr hq htracked hmeanwhile hgrants hremovals hrequests hlocal hopens hserved =>
    rw [hgrants] at hh
    rw [hmeanwhile.bxprinters]
    refine (hkept h (by simpa using hh)).imp_right fun hcl => mem_closedStep hcl ?_
    rw [hr]
    simp [gained]
  | asked q a n S S' hsent hp hbx hgrants hremovals hnone hgain =>
    rw [hgrants] at hh
    rw [hbx]
    refine (hkept h (by simpa using hh)).imp_right fun hcl => mem_closedStep hcl ?_
    rw [hgain]
    simp
  | opened q a n S S' x hsent hc hgrant hbx hgrants hremovals hgain =>
    rw [hgrants] at hh
    rw [hbx]
    by_cases hx : h = x
    · exact Or.inl (by simp [hx])
    · have hold : h ∈ obtained pre := by simpa [hx] using hh
      rcases hkept h hold with hb | hcl
      · exact Or.inl (List.mem_append_left _ hb)
      · refine Or.inr (mem_closedStep hcl fun hg => hx ?_)
        rcases hgain with hsome | hnone
        · rw [hsome] at hg
          exact (Option.some.inj hg).symm
        · rw [hnone] at hg
          cases hg
  | closed x a n S S' hc hsent hbx hgrants hremovals hgain =>
    rw [hgrants] at hh
    by_cases hx : h = x
    · exact Or.inr (mem_closedStep_of_close (hx ▸ hc))
    · rcases hkept h (by simpa using hh) with hb | hcl
      · exact Or.inl (by rw [hbx]; simp [hb, hx])
      · refine Or.inr (mem_closedStep hcl ?_)
        rw [hgain]
        simp

/-- If no value of the whole run is both remote and local, no call gives out a local handle
that was obtained before. -/
theorem along_disjoint {recs : List (CallRecord d)}
    (hdis : ∀ h ∈ obtained recs, h ∉ localIssued recs) :
    Along (fun pre rec => ∀ h ∈ localOpens rec.trace, h ∉ obtained pre) recs := by
  rintro pre rec post rfl h hl ho
  refine hdis h ?_ ?_
  · rw [obtained, List.flatMap_append]
    exact List.mem_append_left _ ho
  · rw [localIssued, List.flatMap_append, List.flatMap_cons]
    exact List.mem_append_right _ (List.mem_append_left _ hl)

/-- No handle that came from the server is passed to a local function. -/
def NeverLocal (pre : List (CallRecord d)) (rec : CallRecord d) : Prop :=
  ∀ h ∈ obtained pre, ∀ c ∈ localCalls rec.trace, c.handle ≠ some h

/-- None is, unless `ensure_connection` answered false in this call. -/
def LocalOnlyDown (pre : List (CallRecord d)) (rec : CallRecord d) : Prop :=
  ∀ h ∈ obtained pre, ∀ c ∈ localCalls rec.trace, c.handle = some h →
    ∃ n, ⟨.ensure_connection, false, n⟩ ∈ rec.trace

/-- A handle that came from the server is passed to a local function only by a call whose
`ensure_connection` answered false. -/
theorem a_remote_handle_goes_local_only_without_connection {W W' : World d}
    {recs : List (CallRecord d)} (run : Run (HostStep detour) W recs W')
    (hdis : ∀ h ∈ obtained recs, h ∉ localIssued recs) (huse : Along NoUseAfterClose recs) :
    Along LocalOnlyDown recs := by
  refine run.along (J := Kept) (by simp [Kept, obtained]) ?_ ((along_disjoint hdis).and huse)
  rintro pre W rec W' hkept ⟨hdis, huse⟩ hstep
  refine ⟨kept_step hkept hdis hstep.effect, fun h ho c hc hx => ?_⟩
  cases hstep.effect with
  | bypass v hr hbx hsp hserver hgrants hremovals hrequests hlocal hopens hserved hwhy =>
    rw [hlocal, List.mem_singleton] at hc
    subst hc
    refine (hwhy h hx).resolve_right fun hnot => ?_
    rcases hkept h ho with hb | hcl
    · exact hnot hb
    · exact huse h hx hcl
  | unread hr hq htracked hmeanwhile hgrants hremovals hrequests hlocal hopens hserved =>
    simp [hlocal] at hc
  | asked q a n S S' hsent hp hbx hgrants hremovals hnone hgain => simp [hsent.localCalls] at hc
  | opened q a n S S' x hsent hc' hgrant hbx hgrants hremovals hgain =>
    simp [hsent.localCalls] at hc
  | closed x a n S S' hc' hsent hbx hgrants hremovals hgain => simp [hsent.localCalls] at hc

/-! ### One open, and one page after the connection is lost -/

def lostWorld : World x86Deployment :=
  { freshWorld.opened remoteHandle with connected := none }

/-- The host opens a Bixolon printer and starts a page on it; between the two calls the
connection is lost. -/
def lostRecords : List (CallRecord x86Deployment) :=
  [openRecord freshWorld [] remoteHandle,
    downRecord (freshWorld.opened remoteHandle)
      (.StartPagePrinter (x86Deployment.clientHandle remoteHandle)) (0 : BOOL)]

theorem lost_run : Run (HostStep detour) freshWorld lostRecords lostWorld :=
  .cons (hostStep_open [] rfl rfl (by simp [freshWorld]))
    (.cons (hostStep_down (c := .StartPagePrinter _) rfl) (.nil _))

theorem lost_disjoint : ∀ h ∈ obtained lostRecords, h ∉ localIssued lostRecords := by
  intro h _
  have hnone : localIssued lostRecords = [] := rfl
  simp [hnone]

/-- After one open, a host that makes one more call has used no closed handle. -/
theorem noUse_after_open (rec : CallRecord x86Deployment) :
    Along NoUseAfterClose [openRecord freshWorld [] remoteHandle, rec] := by
  rw [along_cons, along_cons]
  refine ⟨fun h hh => ?_, fun h hh => ?_, along_nil _⟩
  · cases hh
  · have hnone : closedHandles [openRecord freshWorld [] remoteHandle] = [] := rfl
    simp [hnone]

/-- The page of that run goes to the local winspool. -/
theorem a_remote_handle_can_go_local :
    ¬ ∀ (d : Deployment) (W W' : World d) (recs : List (CallRecord d)),
      Run (HostStep detour) W recs W' → (∀ h ∈ obtained recs, h ∉ localIssued recs) →
      Along NoUseAfterClose recs → Along NeverLocal recs := by
  intro h
  have hnever := h _ _ _ _ lost_run lost_disjoint (noUse_after_open _)
  unfold lostRecords at hnever
  rw [along_cons, along_cons] at hnever
  exact hnever.2.1 _ (List.mem_singleton_self _) _ (List.mem_singleton_self _) rfl

theorem a_lost_connection_run_keeps_the_law :
    Run (HostStep detour) freshWorld lostRecords lostWorld ∧
      (∀ h ∈ obtained lostRecords, h ∉ localIssued lostRecords) ∧
      Along NoUseAfterClose lostRecords ∧ Along LocalOnlyDown lostRecords :=
  ⟨lost_run, lost_disjoint, noUse_after_open _,
    a_remote_handle_goes_local_only_without_connection lost_run lost_disjoint
      (noUse_after_open _)⟩

end RemotePrinter
