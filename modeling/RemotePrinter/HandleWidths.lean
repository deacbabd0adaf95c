-- Handles between programs of different pointer widths: what an open makes of
-- a server handle on the client, and what a later call makes of that on the
-- server again.
import RemotePrinter.ForwardedCalls
import RemotePrinter.Steps

open Interactive

namespace RemotePrinter

variable {d : Deployment}

/-! ## The way of a handle -/

/-- An open in which the server gave out `h` can leave the host, or the tracked handles of the
client, with `x`. -/
def Becomes (d : Deployment) (h : HANDLE d.server) (x : HANDLE d.client) : Prop :=
  ∃ (W W' : World d) (rec : CallRecord d), HostStep detour W rec W' ∧
    (∃ c ∈ serverCalls rec.trace, c.op.opened c.answer = some h) ∧
    (gained rec.call rec.result = some x ∨ W'.bxprinters = W.bxprinters ++ [x])

/-- A call of the host on `x` can make the server call its winspool on `h`. -/
def Names (d : Deployment) (x : HANDLE d.client) (h : HANDLE d.server) : Prop :=
  ∃ (W W' : World d) (rec : CallRecord d), HostStep detour W rec W' ∧
    rec.call.handle = some x ∧ ∃ c ∈ serverCalls rec.trace, c.op.handle = some h

/-- The server executes no other call than that of the request. -/
theorem Sent.call_eq {W W' : World d} {c : SpoolCall (HANDLE d.client)} {tr : Trace d}
    {q : SpoolRequest} {a : Except TException q.Result} {n : Served d}
    {S S' : ServerProcess d.server} (h : Sent W c tr W' q a n S S') {o : ServerCall d}
    (ho : o ∈ RemotePrinter.serverCalls tr) :
    o.op = q.original d.server ∧ ∀ s, o.op.opened o.answer = some s →
      ∀ v, a = .ok v → q.granted d.client v = some (d.clientHandle s) := by
  rw [h.serverCalls] at ho
  have hreach := h.reaches
  generalize n.calls = calls at ho hreach
  cases hreach with
  | nothing ha => cases ho
  | executed ht hr ha =>
    cases List.mem_singleton.mp ho
    refine ⟨rfl, fun s hs v hv => ?_⟩
    rw [ha v hv, granted_pack hr, hs]
    rfl

theorem becomes_clientHandle {h : HANDLE d.server} {x : HANDLE d.client} (hx : Becomes d h x) :
    x = d.clientHandle h := by
  obtain ⟨W, W', rec, hstep, ⟨c, hc, hopen⟩, hgain⟩ := hx
  cases hstep.effect with
  | bypass v hr hbx hsp hserver hgrants hremovals hrequests hlocal hopens hserved hwhy =>
    rw [hserved] at hc
    cases hc
  | unread hr hq htracked hm hgrants hremovals hrequests hlocal hopens hserved =>
    rw [hserved] at hc
    cases hc
  | asked q a n S S' hsent hp hbx hgrants hremovals hnone hg =>
    rcases hgain with hgain | hgain
    · rw [hg] at hgain
      cases hgain
    · simp [hbx] at hgain
  | opened q a n S S' y hsent hq hgrant hbx hgrants hremovals hg =>
    have hy := (hsent.call_eq hc).2 h hopen a rfl
    rw [hgrant] at hy
    rcases hgain with hgain | hgain
    · rw [hgain] at hg
      rcases hg with hg | hg <;> cases hg
      exact Option.some.inj hy
    · rw [hbx] at hgain
      have hxy : y = x := by simpa using hgain
      rw [← hxy]
      exact Option.some.inj hy
  | closed y a n S S' hcall hsent hbx hgrants hremovals hg =>
    have hnone := (hsent.call_eq hc).1
    obtain ⟨op, ans, u⟩ := c
    cases hnone
    cases hopen

theorem names_serverHandle {x : HANDLE d.client} {h : HANDLE d.server} (hn : Names d x h) :
    h = d.serverHandle x := by
  obtain ⟨W, W', rec, hstep, hx, c, hc, hh⟩ := hn
  obtain ⟨q, v, hq, -, rfl⟩ := hstep.served hc
  rw [(request_original hq).2, hx] at hh
  exact (Option.some.inj hh).symm

theorem becomes_iff {h : HANDLE d.server} {x : HANDLE d.client} :
    Becomes d h x ↔ x = d.clientHandle h := by
  refine ⟨becomes_clientHandle, ?_⟩
  rintro rfl
  refine ⟨connectedWorld d, _, _, hostStep_open (h := h) [] rfl rfl ?_, ?_, Or.inl rfl⟩
  · simp [connectedWorld]
  · exact ⟨_, List.mem_singleton_self _, rfl⟩

theorem names_iff {x : HANDLE d.client} {h : HANDLE d.server} :
    Names d x h ↔ h = d.serverHandle x := by
  refine ⟨names_serverHandle, ?_⟩
  rintro rfl
  refine ⟨{ connectedWorld d with bxprinters := [x] }, _, _,
    hostStep_startPage (h := x) rfl rfl (List.mem_singleton_self _), rfl, ?_⟩
  exact ⟨_, List.mem_singleton_self _, rfl⟩

/-! ## Round trips -/

/-- The handles `hs` of the server come back to it as they were, and no two of them are one
value on the client. -/
structure RoundTrips (d : Deployment) (hs : List (HANDLE d.server)) : Prop where
  back : ∀ h ∈ hs, ∀ x, Becomes d h x → ∀ h', Names d x h' → h' = h
  apart : ∀ h ∈ hs, ∀ h' ∈ hs, h ≠ h' → ∀ x, Becomes d h x → ¬ Becomes d h' x

theorem roundTrips_iff_holds {hs : List (HANDLE d.server)} :
    RoundTrips d hs ↔ ∀ h ∈ hs, d.Holds h := by
  constructor
  · intro trips h hh
    exact trips.back h hh _ (becomes_iff.mpr rfl) _ (names_iff.mpr rfl)
  · intro holds
    constructor
    · intro h hh x hx h' hn
      rw [names_iff.mp hn, becomes_iff.mp hx]
      exact holds h hh
    · intro h hh h' hh' hne x hx hx'
      apply hne
      apply (holds h hh).inj (holds h' hh')
      rw [← becomes_iff.mp hx, becomes_iff.mp hx']

/-- The mask takes the sign off a 32-bit handle again. -/
theorem SAFE_HANDLE_x86 (x : HANDLE .x86) : SAFE_HANDLE x = BitVec.setWidth 64 x := by
  apply BitVec.eq_of_getLsbD_eq
  intro i hi
  have hmask : (0x00000000FFFFFFFF : BitVec 64).getLsbD i = decide (i < 32) := by
    have : ∀ j < 64, (0x00000000FFFFFFFF : BitVec 64).getLsbD j = decide (j < 32) := by decide
    exact this i hi
  unfold SAFE_HANDLE
  rw [BitVec.getLsbD_and, hmask, BitVec.getLsbD_signExtend, BitVec.getLsbD_setWidth]
  by_cases h32 : i < 32
  · simp [PtrWidth.bits, h32, hi]
  · have hzero : BitVec.getLsbD x i = false := BitVec.getLsbD_of_ge x i (Nat.le_of_not_lt h32)
    simp [h32, hzero]

theorem setWidth_low_iff (b : BitVec 64) :
    (b.setWidth 32).setWidth 64 = b ↔ b.toNat < 2 ^ 32 := by
  rw [← BitVec.toNat_inj]
  simp only [BitVec.toNat_setWidth]
  have hb := b.isLt
  omega

/-- The low 32 bits of a handle are left on a client with 32-bit pointers. -/
theorem holds_narrow {h : HANDLE .x64} :
    (Deployment.mk .x86 .x64).Holds h ↔ BitVec.toNat h < 2 ^ 32 := by
  have hint : int64OfHandle h = h := BitVec.signExtend_eq h
  have hway : (Deployment.mk .x86 .x64).serverHandle ((Deployment.mk .x86 .x64).clientHandle h) =
      (BitVec.setWidth 32 h).setWidth 64 := by
    unfold Deployment.serverHandle
    rw [SAFE_HANDLE_x86]
    unfold Deployment.clientHandle
    rw [hint]
    exact BitVec.setWidth_eq _
  unfold Deployment.Holds
  rw [hway]
  exact setWidth_low_iff h

theorem holds_iff {h : HANDLE d.server} :
    d.Holds h ↔ d.server.bits ≤ d.client.bits ∨ h.toNat < 2 ^ 32 := by
  obtain ⟨client, server⟩ := d
  by_cases hd : server.bits ≤ client.bits
  · exact iff_of_true (Deployment.holds_of_le hd h) (Or.inl hd)
  · cases client <;> cases server <;> try exact absurd (by decide) hd
    rw [holds_narrow]
    exact ⟨Or.inr, fun hor => hor.resolve_left hd⟩

/-- The handles of a server keep their values on the way to the client and back just if the
client's pointers are as wide as the server's or the handles have no bit above the low 32. -/
theorem handles_round_trip_just_if_the_client_can_hold_them (d : Deployment)
    (hs : List (HANDLE d.server)) :
    RoundTrips d hs ↔ d.server.bits ≤ d.client.bits ∨ ∀ h ∈ hs, h.toNat < 2 ^ 32 := by
  rw [roundTrips_iff_holds]
  simp only [holds_iff]
  by_cases hd : d.server.bits ≤ d.client.bits <;> simp [hd]

/-- A 32-bit client of a 64-bit server loses bit 32. -/
theorem a_wide_handle_is_cut :
    ¬ ∀ (d : Deployment) (hs : List (HANDLE d.server)), RoundTrips d hs := by
  intro law
  have trips := law { client := .x86, server := .x64 } [(0x100000010 : BitVec 64)]
  have hlow := holds_narrow.mp (roundTrips_iff_holds.mp trips _ (List.mem_singleton_self _))
  revert hlow
  decide

end RemotePrinter
