-- Local and remote handles in one space of values. The client tells them apart
-- by the tracked list alone. So every call goes to the side that issued its
-- handle as long as no new handle has the value of one of the other side that
-- is still in use, and no longer than that.
import RemotePrinter.Routing

open Interactive

namespace RemotePrinter

variable {d : Deployment}

/-- The winspool that issued a handle. -/
inductive Side where
  | localSide
  | remoteSide
  deriving DecidableEq

/-- A call of the host, with the side of the handle that the host means by its value. -/
structure SidedCall (d : Deployment) extends CallRecord d where
  side : Side

/-! ## What the host holds -/

/-- The side that a handle gained by a call is of: the client took it from an answer of the
server, or the local winspool gave it out. -/
def sideOf (tr : Trace d) : Side := if grants tr = [] then .localSide else .remoteSide

def heldStep (l : List (Side × HANDLE d.client)) (c : SidedCall d) :
    List (Side × HANDLE d.client) :=
  match c.call.closes with
  | some h => l.filter (· ≠ (c.side, h))
  | none => ((gained c.call c.result).map fun h => (sideOf c.trace, h)).toList ++ l

/-- The handles that the host was given and has not closed, with their sides. -/
def held (calls : List (SidedCall d)) : List (Side × HANDLE d.client) := calls.foldl heldStep []

def remoteStep (l : List (HANDLE d.client)) (c : SidedCall d) : List (HANDLE d.client) :=
  match c.call.closes with
  | some h => if c.side = .remoteSide then l.filter (· ≠ h) else l
  | none => grants c.trace ++ l

/-- The handles of the server that no call has closed. -/
def remoteInUse (calls : List (SidedCall d)) : List (HANDLE d.client) := calls.foldl remoteStep []

theorem held_snoc (calls : List (SidedCall d)) (c : SidedCall d) :
    held (calls ++ [c]) = heldStep (held calls) c := by
  simp [held]

theorem remoteInUse_snoc (calls : List (SidedCall d)) (c : SidedCall d) :
    remoteInUse (calls ++ [c]) = remoteStep (remoteInUse calls) c := by
  simp [remoteInUse]

/-! ## The rules of the host and the world -/

/-- The host calls on handles that it holds. -/
def OnHeld (pre : List (SidedCall d)) (c : SidedCall d) : Prop :=
  ∀ h, c.call.handle = some h → (c.side, h) ∈ held pre

/-- A new handle does not have the value of a handle of the other side that is in use. -/
def Apart (pre : List (SidedCall d)) (c : SidedCall d) : Prop :=
  (∀ h ∈ localOpens c.trace, h ∉ remoteInUse pre) ∧
    ∀ h ∈ grants c.trace, (Side.localSide, h) ∉ held pre

/-- A local handle's calls are made on the local winspool alone. A remote handle's calls are
not made on it, and the server makes them if the pointer that its handler tests is there. -/
def RightSide (fp : Proc → Bool) (c : SidedCall d) : Prop :=
  ∀ h, c.call.handle = some h →
    match c.side with
    | .localSide => localCalls c.trace = [c.call] ∧ serverCalls c.trace = []
    | .remoteSide => localCalls c.trace = [] ∧
        ∀ q, c.call.request = some q → fp q.tested = true →
          (serverCalls c.trace).map (·.op) = [q.original d.server]

/-! ## The law -/

/-- The tracked handles are the handles of the server in use, and no local handle that the host
holds is among them. -/
structure Separate (pre : List (SidedCall d)) (W : World d) : Prop where
  tracked : ∀ h, h ∈ W.bxprinters ↔ h ∈ remoteInUse pre
  remote : ∀ h, (Side.remoteSide, h) ∈ held pre → h ∈ W.bxprinters
  local_ : ∀ h, (Side.localSide, h) ∈ held pre → h ∉ W.bxprinters

theorem closes_of_no_request {w : PtrWidth} {c : SpoolCall (HANDLE w)} (h : c.request = none) :
    c.closes = none := by
  cases c <;> first | rfl | cases h

theorem heldStep_close {l : List (Side × HANDLE d.client)} {c : SidedCall d}
    {h : HANDLE d.client} (hc : c.call.closes = some h) :
    heldStep l c = l.filter (· ≠ (c.side, h)) := by
  unfold heldStep
  rw [hc]

theorem heldStep_other {l : List (Side × HANDLE d.client)} {c : SidedCall d}
    (hc : c.call.closes = none) :
    heldStep l c =
      ((gained c.call c.result).map fun h => (sideOf c.trace, h)).toList ++ l := by
  unfold heldStep
  rw [hc]

theorem remoteStep_close {l : List (HANDLE d.client)} {c : SidedCall d} {h : HANDLE d.client}
    (hc : c.call.closes = some h) :
    remoteStep l c = if c.side = .remoteSide then l.filter (· ≠ h) else l := by
  unfold remoteStep
  rw [hc]

theorem remoteStep_other {l : List (HANDLE d.client)} {c : SidedCall d}
    (hc : c.call.closes = none) : remoteStep l c = grants c.trace ++ l := by
  unfold remoteStep
  rw [hc]

/-- With the connection up, a handle is bypassed only if it is not tracked. -/
theorem not_tracked_of_bypass {W : World d} {rec : CallRecord d}
    (hup : Up W.server.pid rec) {h : HANDLE d.client}
    (hwhy : (∃ n, ⟨.ensure_connection, false, n⟩ ∈ rec.trace) ∨ h ∉ W.bxprinters) :
    h ∉ W.bxprinters := by
  refine hwhy.resolve_left ?_
  rintro ⟨n, hn⟩
  have hfalse : false = true := (hup _ hn).2
  cases hfalse

/-- The host holds a tracked handle only as a remote one, and an untracked one only as a local
one. -/
theorem Separate.side_of_tracked {pre : List (SidedCall d)} {W : World d} (hsep : Separate pre W)
    {s : Side} {h : HANDLE d.client} (hh : (s, h) ∈ held pre) (hb : h ∈ W.bxprinters) :
    s = .remoteSide := by
  cases s with
  | localSide => exact absurd hb (hsep.local_ h hh)
  | remoteSide => rfl

theorem Separate.side_of_untracked {pre : List (SidedCall d)} {W : World d}
    (hsep : Separate pre W) {s : Side} {h : HANDLE d.client} (hh : (s, h) ∈ held pre)
    (hb : h ∉ W.bxprinters) : s = .localSide := by
  cases s with
  | localSide => rfl
  | remoteSide => exact absurd (hsep.remote h hh) hb

/-- A call that neither closes, grants nor gains anything keeps the law. -/
theorem separate_same {pre : List (SidedCall d)} {W W' : World d} {c : SidedCall d}
    (hsep : Separate pre W) (hbx : W'.bxprinters = W.bxprinters) (hc : c.call.closes = none)
    (hg : gained c.call c.result = none) (ht : grants c.trace = []) :
    Separate (pre ++ [c]) W' := by
  have hh : held (pre ++ [c]) = held pre := by
    rw [held_snoc, heldStep_other hc, hg]
    rfl
  have hr : remoteInUse (pre ++ [c]) = remoteInUse pre := by
    rw [remoteInUse_snoc, remoteStep_other hc, ht]
    rfl
  constructor
  · rw [hbx, hr]
    exact hsep.tracked
  · rw [hbx, hh]
    exact hsep.remote
  · rw [hbx, hh]
    exact hsep.local_

/-- A close of a local handle keeps the law. -/
theorem separate_localClose {pre : List (SidedCall d)} {W W' : World d} {c : SidedCall d}
    (hsep : Separate pre W) (hbx : W'.bxprinters = W.bxprinters) {h : HANDLE d.client}
    (hc : c.call.closes = some h) (hside : c.side = .localSide) : Separate (pre ++ [c]) W' := by
  constructor
  · rw [hbx, remoteInUse_snoc, remoteStep_close hc, if_neg (by rw [hside]; decide)]
    exact hsep.tracked
  · intro x hx
    rw [held_snoc, heldStep_close hc, List.mem_filter] at hx
    rw [hbx]
    exact hsep.remote x hx.1
  · intro x hx
    rw [held_snoc, heldStep_close hc, List.mem_filter] at hx
    rw [hbx]
    exact hsep.local_ x hx.1

/-- A close of a remote handle keeps the law. -/
theorem separate_remoteClose {pre : List (SidedCall d)} {W W' : World d} {c : SidedCall d}
    (hsep : Separate pre W) {h : HANDLE d.client} (hc : c.call.closes = some h)
    (hbx : W'.bxprinters = bxprinters.closeBixolonPrinter W.bxprinters h)
    (hside : c.side = .remoteSide) : Separate (pre ++ [c]) W' := by
  constructor
  · intro x
    rw [hbx, remoteInUse_snoc, remoteStep_close hc, if_pos hside,
      bxprinters.mem_closeBixolonPrinter, List.mem_filter, hsep.tracked]
    simp
  · intro x hx
    rw [held_snoc, heldStep_close hc, List.mem_filter, hside, decide_eq_true_iff] at hx
    rw [hbx, bxprinters.mem_closeBixolonPrinter]
    exact ⟨hsep.remote x hx.1, fun he => hx.2 (by rw [he])⟩
  · intro x hx
    rw [held_snoc, heldStep_close hc, List.mem_filter] at hx
    rw [hbx, bxprinters.mem_closeBixolonPrinter]
    exact fun hb => hsep.local_ x hx.1 hb.1

/-- An open of a local handle that is not a tracked value keeps the law. -/
theorem separate_localOpen {pre : List (SidedCall d)} {W W' : World d} {c : SidedCall d}
    (hsep : Separate pre W) (hbx : W'.bxprinters = W.bxprinters) (hc : c.call.closes = none)
    (ht : grants c.trace = []) (hnew : ∀ h, gained c.call c.result = some h → h ∉ W.bxprinters) :
    Separate (pre ++ [c]) W' := by
  have hside : sideOf c.trace = .localSide := if_pos ht
  constructor
  · rw [hbx, remoteInUse_snoc, remoteStep_other hc, ht]
    exact hsep.tracked
  · intro x hx
    rw [held_snoc, heldStep_other hc, hside, List.mem_append] at hx
    rw [hbx]
    exact hsep.remote x (hx.resolve_left (by simp))
  · intro x hx
    rw [held_snoc, heldStep_other hc, List.mem_append] at hx
    rw [hbx]
    rcases hx with hx | hx
    · have hgained : gained c.call c.result = some x ∧ sideOf c.trace = .localSide := by
        simpa using hx
      exact hnew x hgained.1
    · exact hsep.local_ x hx

/-- An open of a remote handle that is not the value of a held local one keeps the law. -/
theorem separate_remoteOpen {pre : List (SidedCall d)} {W W' : World d} {c : SidedCall d}
    (hsep : Separate pre W) {x : HANDLE d.client} (hbx : W'.bxprinters = W.bxprinters ++ [x])
    (hc : c.call.closes = none) (ht : grants c.trace = [x])
    (hg : gained c.call c.result = some x ∨ gained c.call c.result = none)
    (hnew : (Side.localSide, x) ∉ held pre) : Separate (pre ++ [c]) W' := by
  have hside : sideOf c.trace = .remoteSide := if_neg (by simp [ht])
  constructor
  · intro y
    rw [hbx, remoteInUse_snoc, remoteStep_other hc, ht, List.mem_append, List.mem_append,
      hsep.tracked, or_comm]
  · intro y hy
    rw [held_snoc, heldStep_other hc, List.mem_append] at hy
    rw [hbx, List.mem_append]
    rcases hy with hy | hy
    · right
      rcases hg with hg | hg <;> simp [hg] at hy
      simp [hy]
    · exact Or.inl (hsep.remote y hy)
  · intro y hy
    rw [held_snoc, heldStep_other hc, hside, List.mem_append] at hy
    have hold : (Side.localSide, y) ∈ held pre := hy.resolve_left (by simp)
    rw [hbx, List.mem_append, List.mem_singleton]
    rintro (hb | rfl)
    · exact hsep.local_ y hold hb
    · exact hnew hold

theorem separate_step {pre : List (SidedCall d)} {W W' : World d} {c : SidedCall d}
    (hsep : Separate pre W) (hheld : OnHeld pre c) (hapart : Apart pre c)
    (hup : Up W.server.pid c.toCallRecord) (heff : Effect W c.call c.trace c.result W') :
    Separate (pre ++ [c]) W' := by
  cases heff with
  | bypass v hr hbx hsp hserver hgrants hremovals hrequests hlocal hopens hserved hwhy =>
    cases hc : c.call.closes with
    | some h =>
      have hh := SpoolCall.handle_of_closes hc
      exact separate_localClose hsep hbx hc
        (hsep.side_of_untracked (hheld h hh) (not_tracked_of_bypass hup (hwhy h hh)))
    | none =>
      refine separate_localOpen hsep hbx hc hgrants fun h hg => ?_
      rw [hr] at hg
      rw [hsep.tracked]
      exact hapart.1 h (mem_localOpens_of_gained hopens hg)
  | unread hr hq htracked hmeanwhile hgrants hremovals hrequests hlocal hopens hserved =>
    exact separate_same hsep hmeanwhile.bxprinters (closes_of_no_request hq) (by rw [hr]; rfl)
      hgrants
  | asked q a n S S' hsent hp hbx hgrants hremovals hnone hgain =>
    exact separate_same hsep hbx (SpoolCall.closes_eq_none hp) hgain hgrants
  | opened q a n S S' x hsent hc hgrant hbx hgrants hremovals hgain =>
    exact separate_remoteOpen hsep hbx (SpoolCall.closes_of_no_handle hc) hgrants hgain
      (hapart.2 x (by rw [hgrants]; exact List.mem_singleton_self x))
  | closed x a n S S' hc hsent hbx hgrants hremovals hgain =>
    have hh : c.call.handle = some x := by rw [hc]; rfl
    exact separate_remoteClose hsep (by rw [hc]; rfl) hbx
      (hsep.side_of_tracked (hheld x hh) (hsent.tracked x hh))

/-- With the connection up, the server makes the call of a request if its handler finds the
pointer that it tests. -/
theorem executed_of_up {W W' : World d} {rec : CallRecord d} {q : SpoolRequest}
    {a : Except TException q.Result} {n : Served d} {S S' : ServerProcess d.server}
    (hsent : Sent W rec.call rec.trace W' q a n S S') (hup : Up W.server.pid rec)
    (hpid : W'.server.pid = W.server.pid) (ht : W.server.fp q.tested = true) :
    (serverCalls rec.trace).map (·.op) = [q.original d.server] := by
  obtain ⟨v, rfl⟩ := hsent.answered hup
  have hreach := hsent.reaches
  rw [hsent.serverCalls]
  rw [← (hsent.same_server hup hpid).1] at ht
  generalize n.calls = calls at hreach ⊢
  cases hreach with
  | nothing ha =>
    rw [(ha v rfl).1] at ht
    cases ht
  | executed ht' hr ha => rfl

theorem rightSide_of_sent {pre : List (SidedCall d)} {W W' : World d} {c : SidedCall d}
    (hsep : Separate pre W) (hheld : OnHeld pre c) (hup : Up W.server.pid c.toCallRecord)
    (hpid : W'.server.pid = W.server.pid) {q : SpoolRequest} {a : Except TException q.Result}
    {n : Served d} {S S' : ServerProcess d.server} (hsent : Sent W c.call c.trace W' q a n S S') :
    RightSide W.server.fp c := by
  intro h hh
  rw [hsep.side_of_tracked (hheld h hh) (hsent.tracked h hh)]
  refine ⟨hsent.localCalls, fun q' hq' => ?_⟩
  obtain rfl : q = q' := Option.some.inj (hsent.request.symm.trans hq')
  exact executed_of_up hsent hup hpid

theorem rightSide_step {pre : List (SidedCall d)} {W W' : World d} {c : SidedCall d}
    (hsep : Separate pre W) (hheld : OnHeld pre c) (hup : Up W.server.pid c.toCallRecord)
    (hpid : W'.server.pid = W.server.pid)
    (heff : Effect W c.call c.trace c.result W') : RightSide W.server.fp c := by
  cases heff with
  | bypass v hr hbx hsp hserver hgrants hremovals hrequests hlocal hopens hserved hwhy =>
    intro h hh
    rw [hsep.side_of_untracked (hheld h hh) (not_tracked_of_bypass hup (hwhy h hh))]
    exact ⟨hlocal, hserved⟩
  | unread hr hq htracked hmeanwhile hgrants hremovals hrequests hlocal hopens hserved =>
    intro h hh
    rw [hsep.side_of_tracked (hheld h hh) (htracked h hh)]
    refine ⟨hlocal, fun q hq' => ?_⟩
    rw [hq] at hq'
    cases hq'
  | asked q a n S S' hsent hp hbx hgrants hremovals hnone hgain =>
    exact rightSide_of_sent hsep hheld hup hpid hsent
  | opened q a n S S' x hsent hc hgrant hbx hgrants hremovals hgain =>
    exact rightSide_of_sent hsep hheld hup hpid hsent
  | closed x a n S S' hc hsent hbx hgrants hremovals hgain =>
    exact rightSide_of_sent hsep hheld hup hpid hsent

/-- One step of a host that says which side's handle it means. -/
def SidedStep (W : World d) (c : SidedCall d) (W' : World d) : Prop :=
  HostStep detour W c.toCallRecord W'

/-- Every call goes to the side of its handle, in every run in which no new handle has the value
of one of the other side in use. -/
theorem every_call_goes_to_the_side_of_its_handle {W W' : World d} {calls : List (SidedCall d)}
    (hempty : W.bxprinters = []) (run : Run SidedStep W calls W')
    (hup : ∀ c ∈ calls, Up W.server.pid c.toCallRecord) (hheld : Along OnHeld calls)
    (hapart : Along Apart calls) : ∀ c ∈ calls, RightSide W.server.fp c := by
  have hlaw : Along (fun _ c => RightSide W.server.fp c) calls := by
    refine run.along (J := fun pre V => Separate pre V ∧ V.server.pid = W.server.pid ∧
      V.server.fp = W.server.fp) ?_ ?_ ((along_of_forall hup).and (hheld.and hapart))
    · exact ⟨⟨by simp [hempty, remoteInUse], by simp [held], by simp [held]⟩, rfl, rfl⟩
    · rintro pre V c V' ⟨hsep, hpid, hfp⟩ ⟨hup, hheld, hapart⟩ hstep
      rw [← hpid] at hup
      obtain ⟨hpid', hfp'⟩ := HostStep.same_of_up hstep hup
      refine ⟨⟨separate_step hsep hheld hapart hup hstep.effect, hpid'.trans hpid,
        hfp'.trans hfp⟩, ?_⟩
      rw [← hfp]
      exact rightSide_step hsep hheld hup hpid' hstep.effect
  intro c hc
  obtain ⟨pre, post, rfl⟩ := List.append_of_mem hc
  exact hlaw pre c post rfl

/-! ### A remote and a local handle, of one value or of two -/

/-- The host opens a Bixolon printer and another printer, for which the local winspool gives out
`h`, and starts a page on the local one. -/
def mixedCalls (h : HANDLE x86Deployment.client) (page : CallRecord x86Deployment) :
    List (SidedCall x86Deployment) :=
  [{ openRecord freshWorld [] remoteHandle with side := .remoteSide },
    { localOpenRecord (freshWorld.opened remoteHandle) [] h with side := .localSide },
    { page with side := .localSide }]

def mixedWorld (h : HANDLE x86Deployment.client) : World x86Deployment :=
  (freshWorld.opened remoteHandle).openedLocal h

theorem mixed_run {h : HANDLE x86Deployment.client} {page : CallRecord x86Deployment}
    (hpage : HostStep detour (mixedWorld h) page (mixedWorld h)) :
    Run SidedStep freshWorld (mixedCalls h page) (mixedWorld h) :=
  .cons (hostStep_open [] rfl rfl (by simp [freshWorld]))
    (.cons (hostStep_localOpen [] (by simp [World.opened, freshWorld])
      (by simp [World.opened, freshWorld])) (.cons hpage (.nil _)))

theorem mixed_up {h : HANDLE x86Deployment.client} {page : CallRecord x86Deployment}
    (hpage : Up 1 page) : ∀ c ∈ mixedCalls h page, Up freshWorld.server.pid c.toCallRecord := by
  intro c hc
  simp only [mixedCalls, List.mem_cons, List.not_mem_nil, or_false] at hc
  rcases hc with rfl | rfl | rfl
  · exact up_openRecord freshWorld [] remoteHandle
  · exact up_localOpenRecord (freshWorld.opened remoteHandle) [] h
  · exact hpage

theorem mixed_held {h : HANDLE x86Deployment.client} {page : CallRecord x86Deployment}
    (hpage : page.call.handle = some h) : Along OnHeld (mixedCalls h page) := by
  unfold mixedCalls
  rw [along_cons, along_cons, along_cons]
  refine ⟨fun x hx => ?_, fun x hx => ?_, fun x hx => ?_, along_nil _⟩
  · cases hx
  · cases hx
  · obtain rfl : h = x := Option.some.inj (hpage.symm.trans hx)
    exact List.mem_cons_self

/-- The value of the remote handle, for both. -/
def sharedValue : HANDLE x86Deployment.client := x86Deployment.clientHandle remoteHandle

/-- Without a bound on the values a call on a local handle can go to the server. -/
theorem a_local_handle_can_go_to_the_server :
    ¬ ∀ (d : Deployment) (W W' : World d) (calls : List (SidedCall d)),
      W.bxprinters = [] → Run SidedStep W calls W' →
      (∀ c ∈ calls, Up W.server.pid c.toCallRecord) → Along OnHeld calls →
      ∀ c ∈ calls, RightSide W.server.fp c := by
  intro law
  have hpage := hostStep_startPage (W := mixedWorld sharedValue) (h := sharedValue) rfl rfl
    (by simp [mixedWorld, World.openedLocal, World.opened, sharedValue])
  have hright := law _ _ _ _ rfl (mixed_run hpage) (mixed_up (up_startPageRecord _ _))
    (mixed_held rfl) _ (List.mem_cons_of_mem _ (List.mem_cons_of_mem _ List.mem_cons_self)) _ rfl
  exact absurd hright.1 (List.cons_ne_nil _ _).symm

/-- A value that the server has not given out. -/
def otherValue : HANDLE x86Deployment.client := (0x20 : BitVec 32)

def otherPage : CallRecord x86Deployment :=
  localRecord (mixedWorld otherValue) (.StartPagePrinter otherValue) otherValue (1 : BOOL)

theorem other_run :
    Run SidedStep freshWorld (mixedCalls otherValue otherPage) (mixedWorld otherValue) :=
  mixed_run (hostStep_local (by simp [mixedWorld, World.openedLocal, World.opened, freshWorld])
    rfl (by decide) rfl)

theorem other_apart : Along Apart (mixedCalls otherValue otherPage) := by
  unfold mixedCalls
  rw [along_cons, along_cons, along_cons]
  refine ⟨⟨by simp [remoteInUse], by simp [held]⟩, ⟨fun h hh hin => ?_, ?_⟩, ⟨?_, ?_⟩, along_nil _⟩
  · obtain rfl : h = otherValue := List.mem_singleton.mp hh
    have hne : otherValue ≠ sharedValue := by decide
    exact hne (List.mem_singleton.mp hin)
  · intro h hh
    cases hh
  · intro h hh
    cases hh
  · intro h hh
    cases hh

theorem two_values_keep_their_sides :
    Run SidedStep freshWorld (mixedCalls otherValue otherPage) (mixedWorld otherValue) ∧
      ∀ c ∈ mixedCalls otherValue otherPage, RightSide freshWorld.server.fp c :=
  ⟨other_run, every_call_goes_to_the_side_of_its_handle rfl other_run
    (mixed_up (up_localRecord _ _ _ _)) (mixed_held rfl) other_apart⟩

end RemotePrinter
