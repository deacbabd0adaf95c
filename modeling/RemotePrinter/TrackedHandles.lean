-- The list of tracked handles under threads. The invariant says, besides the
-- law of the list, what the threads in the middle of an open or a close keep
-- from each other: their handles are open, differ, and are not held.
import RemotePrinter.HostThreads

open Interactive

namespace RemotePrinter

variable {d : Deployment} {ι : Type}

/-- The server has this handle open, and the client has it as `h`. -/
def OpenOnServer (W : World d) (h : HANDLE d.client) : Prop :=
  ∃ s ∈ W.server.spooler.openHandles, d.clientHandle s = h

/-- The server has it open as a handle that the client can hold. -/
def HeldOpen (W : World d) (h : HANDLE d.client) : Prop :=
  ∃ s ∈ W.server.spooler.openHandles, d.clientHandle s = h ∧ d.Holds s

/-- The handle is on the list, or a thread is in the middle of an open or a close of it. -/
def InUse (W : World d) (st : ι → Stage d.client) (h : HANDLE d.client) : Prop :=
  h ∈ W.bxprinters ∨ ∃ i, (st i).handle = some h

structure Consistent (Local : HANDLE d.client → Prop) (es : List (HostEvent d ι)) (W : World d)
    (st : ι → Stage d.client) : Prop where
  nodup : W.bxprinters.Nodup
  remote : ∀ h, InUse W st h → ¬ Local h
  live : ∀ h, InUse W st h → HeldOpen W h ∧ ¬ CloseForwarded es h
  held : ∀ h, Held Local es h → h ∈ W.bxprinters ∧ ∀ i, (st i).handle ≠ some h
  listed : ∀ i h, (st i).handle = some h → (h ∈ W.bxprinters ↔ (st i).Listed)
  unique : ∀ i j h, (st i).handle = some h → (st j).handle = some h → i = j

/-! ## What one event adds to the history -/

section
variable {Local : HANDLE d.client → Prop} {es : List (HostEvent d ι)} {e : HostEvent d ι}
  {h : HANDLE d.client}

theorem held_after : Held Local (es ++ [e]) h ↔
    ReturnsHandle Local h e ∨ Held Local es h ∧ ¬ StartsClose h e := since_snoc

theorem closeForwarded_snoc : CloseForwarded (es ++ [e]) h ↔
    ForwardsClose h e ∨ CloseForwarded es h ∧ ¬ GrantsHandle h e := since_snoc

theorem held_acted {i : ι} {o : Observed d} (hh : Held Local (es ++ [.acted i o]) h) :
    Held Local es h := by
  rcases held_after.mp hh with hret | ⟨hold, -⟩
  · exact absurd hret id
  · exact hold

theorem closeForwarded_started {i : ι} {c : SpoolCall (HANDLE d.client)}
    (hf : CloseForwarded (es ++ [.started i c]) h) : CloseForwarded es h := by
  rcases closeForwarded_snoc.mp hf with hclose | ⟨hold, -⟩
  · exact absurd hclose id
  · exact hold

theorem closeForwarded_finished {i : ι} {c : SpoolCall (HANDLE d.client)}
    {r : Except Abnormal c.Ret} (hf : CloseForwarded (es ++ [.finished i c r]) h) :
    CloseForwarded es h := by
  rcases closeForwarded_snoc.mp hf with hclose | ⟨hold, -⟩
  · exact absurd hclose id
  · exact hold

/-- An operation that sends no close. -/
theorem closeForwarded_acted {i : ι} {o : Observed d}
    (ho : ∀ x, requestAt o ≠ some (.ClosePrinter x))
    (hf : CloseForwarded (es ++ [.acted i o]) h) : CloseForwarded es h ∧ grantedAt o ≠ some h := by
  rcases closeForwarded_snoc.mp hf with hclose | hold
  · exact absurd hclose (ho _)
  · exact hold

end

/-! ## What one operation keeps -/

section
variable [DecidableEq ι] {Local : HANDLE d.client → Prop} {es : List (HostEvent d ι)}
  {W W' : World d} {st : ι → Stage d.client}

/-- The handles of the stages, after one thread has gone on to the stage `s`. -/
theorem handle_update {i j : ι} {s : Stage d.client} {h : HANDLE d.client} :
    (Function.update st i s j).handle = some h ↔
      (j = i ∧ s.handle = some h) ∨ (j ≠ i ∧ (st j).handle = some h) := by
  by_cases hji : j = i
  · subst hji
    simp
  · simp [hji]

theorem inUse_update {i : ι} {s : Stage d.client} {h : HANDLE d.client}
    (hu : InUse W (Function.update st i s) h) :
    s.handle = some h ∨ h ∈ W.bxprinters ∨ ∃ j, j ≠ i ∧ (st j).handle = some h := by
  rcases hu with hb | ⟨j, hj⟩
  · exact Or.inr (Or.inl hb)
  · rcases handle_update.mp hj with ⟨-, hs⟩ | hj
    · exact Or.inl hs
    · exact Or.inr (Or.inr ⟨j, hj⟩)

/-- A thread that is done has no handle. -/
theorem handle_update_quiet {i j : ι} {h : HANDLE d.client}
    (hj : (Function.update st i .quiet j).handle = some h) : j ≠ i ∧ (st j).handle = some h := by
  rcases handle_update.mp hj with ⟨-, hs⟩ | hj
  · cases hs
  · exact hj

omit [DecidableEq ι] in
/-- What the stage of a thread says about its handle. -/
theorem Consistent.mem_iff_listed {i : ι} {s : Stage d.client} {h : HANDLE d.client}
    (hc : Consistent Local es W st) (hst : st i = s) (hs : s.handle = some h) :
    h ∈ W.bxprinters ↔ s.Listed := by
  subst hst
  exact hc.listed i h hs

/-- A thread may take a handle that no thread has. -/
theorem Consistent.unique_update {i : ι} {s : Stage d.client} {x : HANDLE d.client}
    (h : Consistent Local es W st) (hs : s.handle = some x)
    (hfree : ∀ j, (st j).handle ≠ some x) (j k : ι) (y : HANDLE d.client)
    (hj : (Function.update st i s j).handle = some y)
    (hk : (Function.update st i s k).handle = some y) : j = k := by
  rcases handle_update.mp hj with ⟨rfl, hsj⟩ | ⟨-, hj⟩
  · rcases handle_update.mp hk with ⟨rfl, -⟩ | ⟨-, hk⟩
    · rfl
    · rw [← hsj, hs] at hk
      exact absurd hk (hfree k)
  · rcases handle_update.mp hk with ⟨-, hsk⟩ | ⟨-, hk⟩
    · rw [← hsk, hs] at hj
      exact absurd hj (hfree j)
    · exact h.unique j k y hj hk

theorem HeldOpen.mono {h : HANDLE d.client} (ho : HeldOpen W h)
    (hopen : ∀ s ∈ W.server.spooler.openHandles, s ∈ W'.server.spooler.openHandles) :
    HeldOpen W' h := by
  obtain ⟨s, hs, hsh⟩ := ho
  exact ⟨s, hopen s hs, hsh⟩

omit [DecidableEq ι] in
/-- An event that changes neither the list nor the stages, and closes nothing. -/
theorem Consistent.calm {e : HostEvent d ι} (h : Consistent Local es W st)
    (hbx : W'.bxprinters = W.bxprinters)
    (hopen : ∀ s ∈ W.server.spooler.openHandles, s ∈ W'.server.spooler.openHandles)
    (hheld : ∀ x, Held Local (es ++ [e]) x → Held Local es x)
    (hclose : ∀ x, CloseForwarded (es ++ [e]) x → CloseForwarded es x) :
    Consistent Local (es ++ [e]) W' st := by
  have huse : ∀ x, InUse W' st x → InUse W st x := by
    intro x hx
    rcases hx with hb | hi
    · exact Or.inl (hbx ▸ hb)
    · exact Or.inr hi
  constructor
  · rw [hbx]
    exact h.nodup
  · intro x hx
    exact h.remote x (huse x hx)
  · intro x hx
    obtain ⟨ho, hn⟩ := h.live x (huse x hx)
    exact ⟨ho.mono hopen, fun hf => hn (hclose x hf)⟩
  · intro x hx
    rw [hbx]
    exact h.held x (hheld x hx)
  · intro i x hx
    rw [hbx]
    exact h.listed i x hx
  · exact h.unique

/-- A thread that is done with its handle. -/
theorem Consistent.quiet (h : Consistent Local es W st) (i : ι) :
    Consistent Local es W (Function.update st i .quiet) := by
  have huse : ∀ x, InUse W (Function.update st i .quiet) x → InUse W st x := by
    intro x hx
    rcases inUse_update hx with hs | hb | ⟨j, -, hj⟩
    · cases hs
    · exact Or.inl hb
    · exact Or.inr ⟨j, hj⟩
  constructor
  · exact h.nodup
  · intro x hx
    exact h.remote x (huse x hx)
  · intro x hx
    exact h.live x (huse x hx)
  · intro x hx
    exact ⟨(h.held x hx).1, fun j hj => (h.held x hx).2 j (handle_update_quiet hj).2⟩
  · intro j x hx
    obtain ⟨hji, hj⟩ := handle_update_quiet hx
    rw [Function.update_of_ne hji]
    exact h.listed j x hj
  · intro j k x hj hk
    exact h.unique j k x (handle_update_quiet hj).2 (handle_update_quiet hk).2

/-- The server gives a handle out. It was not open, so nothing uses it. -/
theorem Consistent.grant {i : ι} {o : Observed d} {x : HANDLE d.client} {s₀ : HANDLE d.server}
    (h : Consistent Local es W st) (hst : st i = .quiet) (hs₀ : d.clientHandle s₀ = x)
    (hhold : d.Holds s₀)
    (hfresh : s₀ ∉ W.server.spooler.openHandles)
    (hbx : W'.bxprinters = W.bxprinters)
    (hopen : ∀ s, s ∈ W'.server.spooler.openHandles ↔ s = s₀ ∨ s ∈ W.server.spooler.openHandles)
    (hnew : ¬ Local x) (hg : grantedAt o = some x)
    (ho : ∀ y, requestAt o ≠ some (.ClosePrinter y)) :
    Consistent Local (es ++ [.acted i o]) W' (Function.update st i (.adding x)) := by
  have hunused : ∀ y, InUse W st y → y ≠ x := by
    rintro y hy rfl
    obtain ⟨s, hs, hsy, hsh⟩ := (h.live y hy).1
    have hss : s = s₀ := hsh.inj hhold (hsy.trans hs₀.symm)
    exact hfresh (hss ▸ hs)
  have huse : ∀ y, InUse W' (Function.update st i (.adding x)) y → y = x ∨ InUse W st y := by
    intro y hy
    rcases inUse_update hy with hs | hb | ⟨j, -, hj⟩
    · exact Or.inl (Option.some.inj hs).symm
    · exact Or.inr (Or.inl (hbx ▸ hb))
    · exact Or.inr (Or.inr ⟨j, hj⟩)
  have hlive : ∀ y, HeldOpen W y → HeldOpen W' y :=
    fun y hy => hy.mono fun s hs => (hopen s).mpr (Or.inr hs)
  constructor
  · rw [hbx]
    exact h.nodup
  · intro y hy
    rcases huse y hy with rfl | hold
    · exact hnew
    · exact h.remote y hold
  · intro y hy
    rcases huse y hy with rfl | hold
    · refine ⟨⟨s₀, (hopen s₀).mpr (Or.inl rfl), hs₀, hhold⟩, fun hf => ?_⟩
      exact (closeForwarded_acted ho hf).2 hg
    · obtain ⟨hop, hn⟩ := h.live y hold
      exact ⟨hlive y hop, fun hf => hn (closeForwarded_acted ho hf).1⟩
  · intro y hy
    obtain ⟨hb, hst'⟩ := h.held y (held_acted hy)
    rw [hbx]
    refine ⟨hb, fun j hj => ?_⟩
    rcases handle_update.mp hj with ⟨-, hs⟩ | ⟨-, hj⟩
    · exact hunused y (Or.inl hb) (Option.some.inj hs).symm
    · exact hst' j hj
  · intro j y hj
    rw [hbx]
    rcases handle_update.mp hj with ⟨rfl, hs⟩ | ⟨hji, hj⟩
    · cases hs
      rw [Function.update_self]
      exact iff_of_false (fun hb => hunused x (Or.inl hb) rfl) id
    · rw [Function.update_of_ne hji]
      exact h.listed j y hj
  · exact h.unique_update rfl fun j hj => hunused x (Or.inr ⟨j, hj⟩) rfl

/-- A thread goes on with its handle, which goes on the list or off it. -/
theorem Consistent.relist {i : ι} {o : Observed d} {x : HANDLE d.client} {s : Stage d.client}
    (h : Consistent Local es W st) (hst : (st i).handle = some x) (hs : s.handle = some x)
    (hnodup : W'.bxprinters.Nodup)
    (hbx : ∀ y, y ∈ W'.bxprinters ↔ (y = x ∧ s.Listed) ∨ (y ≠ x ∧ y ∈ W.bxprinters))
    (hopen : ∀ s ∈ W.server.spooler.openHandles, s ∈ W'.server.spooler.openHandles)
    (ho : ∀ y, requestAt o ≠ some (.ClosePrinter y)) :
    Consistent Local (es ++ [.acted i o]) W' (Function.update st i s) := by
  have huse : ∀ y, InUse W' (Function.update st i s) y → InUse W st y := by
    intro y hy
    rcases inUse_update hy with hsy | hb | ⟨j, -, hj⟩
    · rw [hs] at hsy
      cases hsy
      exact Or.inr ⟨i, hst⟩
    · rcases (hbx y).mp hb with ⟨rfl, -⟩ | ⟨-, hb⟩
      · exact Or.inr ⟨i, hst⟩
      · exact Or.inl hb
    · exact Or.inr ⟨j, hj⟩
  have hold : ∀ j y, (Function.update st i s j).handle = some y → (st j).handle = some y := by
    intro j y hj
    rcases handle_update.mp hj with ⟨rfl, hsy⟩ | ⟨-, hj⟩
    · rw [hst, ← hsy, hs]
    · exact hj
  constructor
  · exact hnodup
  · intro y hy
    exact h.remote y (huse y hy)
  · intro y hy
    obtain ⟨hop, hn⟩ := h.live y (huse y hy)
    exact ⟨hop.mono hopen, fun hf => hn (closeForwarded_acted ho hf).1⟩
  · intro y hy
    obtain ⟨hb, hst'⟩ := h.held y (held_acted hy)
    have hyx : y ≠ x := by
      rintro rfl
      exact hst' i hst
    exact ⟨(hbx y).mpr (Or.inr ⟨hyx, hb⟩), fun j hj => hst' j (hold j y hj)⟩
  · intro j y hj
    rw [hbx]
    by_cases hji : j = i
    · subst hji
      have hyx : y = x := by
        rw [Function.update_self, hs] at hj
        exact (Option.some.inj hj).symm
      rw [Function.update_self]
      simp [hyx]
    · have hyx : y ≠ x := by
        rintro rfl
        exact hji (h.unique j i y (hold j y hj) hst)
      rw [Function.update_of_ne hji, ← h.listed j y (hold j y hj)]
      simp [hyx]
  · intro j k y hj hk
    exact h.unique j k y (hold j y hj) (hold k y hk)

/-- The server is asked to close a handle that is off the list. -/
theorem Consistent.close {i : ι} {o : Observed d} {x : HANDLE d.client}
    (h : Consistent Local es W st) (hst : st i = .removed x)
    (hbx : W'.bxprinters = W.bxprinters)
    (hopen : ∀ s ∈ W.server.spooler.openHandles, s ≠ d.serverHandle x →
      s ∈ W'.server.spooler.openHandles)
    (ho : requestAt o = some (.ClosePrinter (SAFE_HANDLE x))) :
    Consistent Local (es ++ [.acted i o]) W' (Function.update st i .quiet) := by
  have hhandle : (st i).handle = some x := by rw [hst]; rfl
  have hoff : x ∉ W.bxprinters := (h.mem_iff_listed hst rfl).mp
  have huse : ∀ y, InUse W' (Function.update st i .quiet) y → y ≠ x ∧ InUse W st y := by
    intro y hy
    rcases inUse_update hy with hs | hb | ⟨j, hji, hj⟩
    · cases hs
    · rw [hbx] at hb
      exact ⟨fun he => hoff (he ▸ hb), Or.inl hb⟩
    · refine ⟨?_, Or.inr ⟨j, hj⟩⟩
      rintro rfl
      exact hji (h.unique j i y hj hhandle)
  constructor
  · rw [hbx]
    exact h.nodup
  · intro y hy
    exact h.remote y (huse y hy).2
  · intro y hy
    obtain ⟨hyx, hy⟩ := huse y hy
    obtain ⟨⟨s, hs, hsy, hsh⟩, hn⟩ := h.live y hy
    refine ⟨⟨s, hopen s hs ?_, hsy, hsh⟩, fun hf => ?_⟩
    · intro he
      obtain ⟨s₁, -, hs₁, hs₁h⟩ := (h.live x (Or.inr ⟨i, hhandle⟩)).1
      rw [← hs₁, hs₁h] at he
      exact hyx (by rw [← hsy, he, hs₁])
    · rcases closeForwarded_snoc.mp hf with hclose | ⟨hf, -⟩
      · have hreq : some (SpoolRequest.ClosePrinter (SAFE_HANDLE x)) =
            some (.ClosePrinter (SAFE_HANDLE y)) := ho.symm.trans hclose
        simp only [Option.some.injEq, SpoolRequest.ClosePrinter.injEq] at hreq
        exact hyx (SAFE_HANDLE_inj hreq).symm
      · exact hn hf
  · intro y hy
    obtain ⟨hb, hst'⟩ := h.held y (held_acted hy)
    rw [hbx]
    exact ⟨hb, fun j hj => hst' j (handle_update_quiet hj).2⟩
  · intro j y hj
    obtain ⟨hji, hj⟩ := handle_update_quiet hj
    rw [hbx, Function.update_of_ne hji]
    exact h.listed j y hj
  · intro j k y hj hk
    exact h.unique j k y (handle_update_quiet hj).2 (handle_update_quiet hk).2

/-- The host calls `ClosePrinter` on a handle that it holds. -/
theorem Consistent.startClose {i : ι} {c : SpoolCall (HANDLE d.client)} {x : HANDLE d.client}
    (h : Consistent Local es W st) (hst : st i = .quiet) (hc : c.closes = some x)
    (hx : Held Local es x) :
    Consistent Local (es ++ [.started i c]) W (Function.update st i (.closing x)) := by
  obtain ⟨hlist, hfree⟩ := h.held x hx
  have huse : ∀ y, InUse W (Function.update st i (.closing x)) y → InUse W st y := by
    intro y hy
    rcases inUse_update hy with hs | hb | ⟨j, -, hj⟩
    · cases hs
      exact Or.inl hlist
    · exact Or.inl hb
    · exact Or.inr ⟨j, hj⟩
  constructor
  · exact h.nodup
  · intro y hy
    exact h.remote y (huse y hy)
  · intro y hy
    obtain ⟨hop, hn⟩ := h.live y (huse y hy)
    exact ⟨hop, fun hf => hn (closeForwarded_started hf)⟩
  · intro y hy
    rcases held_after.mp hy with hret | ⟨hold, hnot⟩
    · exact absurd hret id
    · have hyx : x ≠ y := fun he => hnot (he ▸ hc)
      refine ⟨(h.held y hold).1, fun j hj => ?_⟩
      rcases handle_update.mp hj with ⟨-, hs⟩ | ⟨-, hj⟩
      · exact hyx (Option.some.inj hs)
      · exact (h.held y hold).2 j hj
  · intro j y hj
    rcases handle_update.mp hj with ⟨rfl, hs⟩ | ⟨hji, hj⟩
    · cases hs
      rw [Function.update_self]
      exact iff_of_true hlist trivial
    · rw [Function.update_of_ne hji]
      exact h.listed j y hj
  · exact h.unique_update rfl hfree

/-- A call returns to the host. -/
theorem Consistent.finish {i : ι} {c : SpoolCall (HANDLE d.client)} {r : Except Abnormal c.Ret}
    (h : Consistent Local es W st) (hends : EndsWell Local c (st i) r) :
    Consistent Local (es ++ [.finished i c r]) W (Function.update st i .quiet) := by
  have hq := h.quiet i
  constructor
  · exact hq.nodup
  · exact hq.remote
  · intro y hy
    obtain ⟨hop, hn⟩ := hq.live y hy
    exact ⟨hop, fun hf => hn (closeForwarded_finished hf)⟩
  · intro y hy
    rcases held_after.mp hy with ⟨hgain, hremote⟩ | ⟨hold, -⟩
    · have hst : st i = .returning y := (hends y hgain).resolve_left hremote
      have hhandle : (st i).handle = some y := by rw [hst]; rfl
      refine ⟨(h.mem_iff_listed hst rfl).mpr trivial, fun j hj => ?_⟩
      obtain ⟨hji, hj⟩ := handle_update_quiet hj
      exact hji (h.unique j i y hj hhandle)
    · exact hq.held y hold
  · exact hq.listed
  · exact hq.unique

/-! ## One operation of one thread -/

/-- An operation that sends no close and gives out nothing, with the list and the open handles
as they were. -/
theorem Consistent.act_calm {i : ι} {op : ClientOp d.client} {a : op.Answer} {n : Served d}
    (h : Consistent Local es W st) (hbx : W'.bxprinters = W.bxprinters)
    (hopen : ∀ s ∈ W.server.spooler.openHandles, s ∈ W'.server.spooler.openHandles)
    (ho : ∀ y, requestAt (⟨op, a, n⟩ : Observed d) ≠ some (.ClosePrinter y)) :
    Consistent Local (es ++ [.acted i ⟨op, a, n⟩]) W' (Function.update st i (st i)) := by
  rw [Function.update_eq_self]
  exact h.calm hbx hopen (fun _ => held_acted) fun _ hf => (closeForwarded_acted ho hf).1

/-- A request that closes nothing. -/
theorem Consistent.act_request {i : ι} {q : SpoolRequest} {a : Except TException q.Result}
    {n : Served d} (h : Consistent Local es W st) (hst : st i = .quiet)
    (hq : ∀ y, q ≠ .ClosePrinter y) (hbx : W'.bxprinters = W.bxprinters)
    (hreach : World.Reaches W.server q a n.calls W'.server)
    (hown : ∀ x, grantedAt (⟨.api (.spool q), a, n⟩ : Observed d) = some x → ¬ Local x)
    (hhold : ∀ c ∈ n.calls, ∀ s, c.op.opened c.answer = some s → d.Holds s) :
    Consistent Local (es ++ [.acted i ⟨.api (.spool q), a, n⟩]) W'
      (Function.update st i ((upkeep Local).next (st i) (.api (.spool q)) a)) := by
  have hproc : (q.original d.server).proc ≠ .ClosePrinter := by
    cases q with
    | ClosePrinter y => exact absurd rfl (hq y)
    | _ => simp [SpoolRequest.original]
  have hreq : ∀ y, requestAt (⟨.api (.spool q), a, n⟩ : Observed d) ≠
      some (.ClosePrinter y) := by
    intro y hy
    exact hq y (Option.some.inj hy)
  cases hg : grantedAt (⟨.api (.spool q), a, n⟩ : Observed d) with
  | none =>
    have hnext : (upkeep Local).next (st i) (.api (.spool q)) a = st i := by
      rw [hst]
      cases a with
      | ok v =>
        have hv : q.granted d.client v = none := hg
        simp only [upkeep, hv, stageAfter]
      | error x => rfl
    rw [hnext]
    exact h.act_calm hbx (fun s hs => kept_of_reaches hreach hproc hs) hreq
  | some x =>
    cases a with
    | error y => cases hg
    | ok v =>
      have hv : q.granted d.client v = some x := hg
      have hnext : (upkeep Local).next (st i) (.api (.spool q)) (.ok v) = .adding x := by
        simp only [upkeep, hv, stageAfter]
      rw [hnext]
      obtain ⟨s₀, hsx, ⟨c, hc, hs₀⟩, hfresh, hopen⟩ :=
        open_of_granted hreach hv (handle_of_granted hv)
      exact h.grant hst hsx (hhold c hc s₀ hs₀) hfresh hbx hopen (hown x hg) hg hreq

/-- One operation of a thread that keeps the order. -/
theorem Consistent.act {i : ι} {op : ClientOp d.client} {a : op.Answer} {n : Served d}
    (h : Consistent Local es W st) (henv : World.env W op a n W') (hpid : n.pid = W.server.pid)
    (hown : OwnHandles Local (.acted i ⟨op, a, n⟩ : HostEvent d ι))
    (hhold : HoldsGranted (.acted i ⟨op, a, n⟩ : HostEvent d ι))
    (hallowed : (upkeep Local).allowed (st i) op) :
    (upkeep Local).possible op a ∧ Consistent Local (es ++ [.acted i ⟨op, a, n⟩]) W'
      (Function.update st i ((upkeep Local).next (st i) op a)) := by
  have hsame : ∀ {S}, W.server.Lives S → S.pid = n.pid → S = W.server :=
    fun hl hp => hl.eq_of_pid (hp.trans hpid)
  have hkept : ∀ {S}, W.server.Lives S → S.pid = n.pid →
      ∀ s ∈ W.server.spooler.openHandles, s ∈ S.spooler.openHandles := by
    intro S hl hp s hs
    rwa [hsame hl hp]
  cases op with
  | ensure_connection =>
    obtain ⟨hm, -, hn, -⟩ := World.env_ensure_connection henv
    exact ⟨trivial, h.act_calm hm.bxprinters (hkept hm.server hn.symm) (by simp [requestAt])⟩
  | isBixolonPrinterByName x =>
    obtain ⟨hm, -, hn⟩ := World.env_isBixolonPrinterByName henv
    exact ⟨trivial, h.act_calm hm.bxprinters (hkept hm.server hn.symm) (by simp [requestAt])⟩
  | isBixolonPrinterByHandle x =>
    obtain ⟨hm, -, hn, hb⟩ := World.env_isBixolonPrinterByHandle henv
    refine ⟨fun hl => ?_, ?_⟩
    · rw [Bool.eq_false_iff]
      exact fun ha => h.remote x (Or.inl (hb.mp ha)) hl
    · exact h.act_calm hm.bxprinters (hkept hm.server hn.symm) (by simp [requestAt])
  | original c =>
    obtain ⟨hbx, hlive, -, hn, -⟩ := World.env_original henv
    exact ⟨hown.1, h.act_calm hbx (hkept hlive hn.symm) (by simp [requestAt])⟩
  | read_from_file x =>
    obtain ⟨S, hlive, hn, -, rfl⟩ := henv
    exact ⟨trivial, h.act_calm rfl (hkept hlive hn.symm) (by simp [requestAt])⟩
  | addBixolonPrinter x =>
    obtain ⟨hbx, -, hlive, -, hn⟩ := World.env_addBixolonPrinter henv
    have hst : st i = .adding x := hallowed
    have hhandle : (st i).handle = some x := by rw [hst]; rfl
    have hoff : x ∉ W.bxprinters := (h.mem_iff_listed hst rfl).mp
    refine ⟨trivial, h.relist hhandle rfl ?_ ?_ (hkept hlive hn.symm) (by simp [requestAt])⟩
    · rw [hbx]
      exact List.nodup_append.mpr ⟨h.nodup, List.nodup_singleton x, by simpa using
        fun y hy => (fun he : y = x => hoff (he ▸ hy))⟩
    · intro y
      rw [hbx]
      by_cases hyx : y = x <;> simp [hyx, Stage.Listed, upkeep]
  | closeBixolonPrinter x =>
    obtain ⟨hbx, -, hlive, -, hn⟩ := World.env_closeBixolonPrinter henv
    have hst : st i = .closing x := hallowed
    have hhandle : (st i).handle = some x := by rw [hst]; rfl
    refine ⟨trivial, h.relist hhandle rfl ?_ ?_ (hkept hlive hn.symm) (by simp [requestAt])⟩
    · rw [hbx]
      unfold bxprinters.closeBixolonPrinter
      split
      · exact h.nodup.filter _
      · exact h.nodup
    · intro y
      rw [hbx, bxprinters.mem_closeBixolonPrinter]
      by_cases hyx : y = x <;> simp [hyx, Stage.Listed, upkeep]
  | api q =>
    cases q with
    | usb q =>
      obtain ⟨S, hlive, hn, -, hcut⟩ := henv
      obtain ⟨hbx, -, hserver⟩ := hcut.same
      refine ⟨trivial, h.act_calm hbx ?_ (by simp [requestAt])⟩
      rw [hserver]
      exact hkept hlive hn.symm
    | spool q =>
      obtain ⟨hbx, -, S, hlive, hn, -, hreach⟩ := World.env_api henv
      rw [hsame hlive hn.symm] at hreach
      refine ⟨trivial, ?_⟩
      rcases hallowed with ⟨hst, hq⟩ | ⟨x, hst, rfl⟩
      · exact h.act_request hst hq hbx hreach hown.2 hhold
      · have hnext : (upkeep Local).next (st i) (.api (.spool (.ClosePrinter (SAFE_HANDLE x)))) a =
            .quiet := by
          cases a <;> rfl
        rw [hnext]
        exact h.close hst hbx (fun s hs hne => kept_of_close hreach hs hne) rfl

/-! ## Every run of the threads -/

/-- Each thread is in a stage that its program goes on from, and the stages keep the list right. -/
def InOrder (Local : HANDLE d.client → Prop) (es : List (HostEvent d ι)) (P : HostPool d ι) :
    Prop :=
  ∃ st : ι → Stage d.client, Consistent Local es P.shared st ∧
    P.Staged (upkeep Local) (EndsWell Local) .quiet st

variable {P P' : HostPool d ι} {e : HostEvent d ι}

/-- The start of a call that closes no handle of the server. -/
theorem Consistent.startQuiet {i : ι} {c : SpoolCall (HANDLE d.client)}
    (h : Consistent Local es W st) (hst : st i = .quiet) :
    Consistent Local (es ++ [.started i c]) W (Function.update st i .quiet) := by
  rw [← hst, Function.update_eq_self]
  refine h.calm rfl (fun _ hs => hs) (fun x hx => ?_) fun _ => closeForwarded_started
  rcases held_after.mp hx with hret | ⟨hold, -⟩
  · exact absurd hret id
  · exact hold

/-- In which stage a call starts that follows the rules of the host. -/
theorem exists_startStage {i : ι} {c : SpoolCall (HANDLE d.client)} (h : Consistent Local es W st)
    (hst : st i = .quiet) (huse : UsesHeld Local es (.started i c : HostEvent d ι)) :
    ∃ s, StartStage Local c s ∧
      Consistent Local (es ++ [.started i c]) W (Function.update st i s) := by
  by_cases hlocal : ∀ x, c.closes = some x → Local x
  · exact ⟨.quiet, Or.inl ⟨rfl, hlocal⟩, h.startQuiet hst⟩
  · push Not at hlocal
    obtain ⟨x, hx, hremote⟩ := hlocal
    have hheld : Held Local es x :=
      (huse x (SpoolCall.handle_of_closes hx)).resolve_left hremote
    exact ⟨.closing x, Or.inr ⟨x, hx, rfl⟩, h.startClose hst hx hheld⟩

theorem InOrder.step (h : InOrder Local es P) (hs : HostPool.Step P e P')
    (hpid : AtProcess P.shared.server.pid e) (hown : OwnHandles Local e) (hhold : HoldsGranted e)
    (huse : UsesHeld Local es e) :
    InOrder Local (es ++ [e]) P' ∧ P'.shared.server.pid = P.shared.server.pid := by
  obtain ⟨st, hc, hst⟩ := h
  cases hs with
  | start c hi =>
    obtain ⟨s, hstart, hc'⟩ := exists_startStage hc (hst.idle _ hi) huse
    refine ⟨⟨_, hc', hst.set (fun t ht => ?_) (by simp)⟩, rfl⟩
    cases ht
    exact detour_follows hstart
  | @act i c op k a n W' hi henv =>
    have hfollows := hst.busy i _ hi
    obtain ⟨hpossible, hc'⟩ := hc.act henv hpid hown hhold hfollows.1
    refine ⟨⟨_, hc', (hst.share W').set (fun t ht => ?_) (by simp)⟩, ?_⟩
    · cases ht
      exact hfollows.2 a hpossible
    · exact (World.env_pid henv).symm.trans hpid
  | @done i c a hi =>
    have hends : EndsWell Local c (st i) (.ok a) := hst.busy i _ hi
    exact ⟨⟨_, hc.finish hends, hst.set (by simp) (fun _ => rfl)⟩, rfl⟩
  | @fail i c x hi =>
    have hends : EndsWell Local c (st i) (.error x) := hst.busy i _ hi
    exact ⟨⟨_, hc.finish hends, hst.set (by simp) (fun _ => rfl)⟩, rfl⟩
  | tick ht => exact absurd ht id

omit [DecidableEq ι] in
theorem inOrder_idle {W : World d} (hbx : W.bxprinters = []) :
    InOrder Local ([] : List (HostEvent d ι)) (Pool.idle W) := by
  refine ⟨fun _ => .quiet, ?_, Pool.staged_idle W⟩
  constructor
  · simp [Pool.idle, hbx]
  · simp [InUse, Pool.idle, hbx, Stage.handle]
  · simp [InUse, Pool.idle, hbx, Stage.handle]
  · intro x hx
    exact absurd hx (since_nil _ _)
  · simp [Stage.handle]
  · simp [Stage.handle]

/-- In every state that the threads reach, the list has no duplicates, each entry is open on the
server and no close of it was forwarded, and each remote handle that the host holds is an entry. -/
theorem tracked_handles_stay_right_under_threads {W : World d} (hbx : W.bxprinters = [])
    (run : Run HostPool.Step (Pool.idle W) es P)
    (hone : ∀ e ∈ es, AtProcess W.server.pid e) (hown : ∀ e ∈ es, OwnHandles Local e)
    (hhold : ∀ e ∈ es, HoldsGranted e) (huse : Along (UsesHeld Local) es) :
    P.shared.bxprinters.Nodup ∧
      (∀ h ∈ P.shared.bxprinters, OpenOnServer P.shared h ∧ ¬ CloseForwarded es h) ∧
      ∀ h, Held Local es h → h ∈ P.shared.bxprinters := by
  have hrules := ((along_of_forall hone).and
    ((along_of_forall hown).and (along_of_forall hhold))).and huse
  obtain ⟨⟨st, hc, -⟩, -⟩ := run.history
    (J := fun es Q => InOrder Local es Q ∧ Q.shared.server.pid = W.server.pid)
    ⟨inOrder_idle hbx, rfl⟩ (by
      rintro pre Q e Q' ⟨hin, hpid⟩ ⟨⟨hat, ho, hh⟩, hu⟩ hs
      rw [← hpid] at hat
      obtain ⟨hin', hpid'⟩ := hin.step hs hat ho hh hu
      exact ⟨hin', hpid'.trans hpid⟩) hrules
  refine ⟨hc.nodup, fun h hh => ?_, fun h hh => (hc.held h hh).1⟩
  obtain ⟨⟨s, hs, hsh, -⟩, hnot⟩ := hc.live h (Or.inl hh)
  exact ⟨⟨s, hs, hsh⟩, hnot⟩

end

/-! ### Two threads open printers -/

section
variable [DecidableEq ι]

/-- The events of an open that the thread `i` makes while the others wait. -/
def openEvents (i : ι) (W : World d) (h : HANDLE d.server) : List (HostEvent d ι) :=
  .started i (openRecord W [] h).call ::
    (openRecord W [] h).trace.map (Event.acted i) ++
    [.finished i _ (openRecord W [] h).result]

theorem openEvents_run {P : HostPool d ι} {i : ι} {h : HANDLE d.server}
    (hi : P.threads i = none) (hc : P.shared.connected = some P.shared.server.pid)
    (ht : P.shared.server.fp .OpenPrinterA = true)
    (hfresh : h ∉ P.shared.server.spooler.openHandles) :
    Run HostPool.Step P (openEvents i P.shared h) { P with shared := P.shared.opened h } :=
  Pool.run_alone hi (hostStep_open [] hc ht hfresh)

omit [DecidableEq ι] in
theorem openEvents_rules {i : ι} {W : World d} {h : HANDLE d.server}
    {Local : HANDLE d.client → Prop} (hremote : ¬ Local (d.clientHandle h)) :
    ∀ e ∈ openEvents i W h, AtProcess W.server.pid e ∧ OwnHandles Local e := by
  intro e he
  simp only [openEvents, openRecord, List.map_cons, List.map_nil, List.cons_append,
    List.nil_append, List.mem_cons, List.not_mem_nil, or_false] at he
  rcases he with rfl | rfl | rfl | rfl | rfl | rfl
  · exact ⟨trivial, trivial⟩
  · exact ⟨rfl, by simp [localOpenAt], by simp [grantedAt]⟩
  · exact ⟨rfl, by simp [localOpenAt], by simp [grantedAt]⟩
  · refine ⟨rfl, by simp [localOpenAt, carriedOut], fun x hx => ?_⟩
    have hgrant : some (d.clientHandle h) = some x := hx
    rw [← Option.some.inj hgrant]
    exact hremote
  · exact ⟨rfl, by simp [localOpenAt], by simp [grantedAt]⟩
  · exact ⟨trivial, trivial⟩

/-- The server has given out the handle, and the client does not track it yet. -/
def World.granted (W : World d) (h : HANDLE d.server) : World d :=
  W.withSpooler (W.opened h).server.spooler

/-- An open that has still to track its handle. -/
def untracked (W : World d) (h : HANDLE d.server) :
    Thread (ClientOp d.client) ClientOp.Answer Abnormal (SpoolCall (HANDLE d.client))
      SpoolCall.Ret where
  call := (openRecord W [] h).call
  rest := addBixolonPrinter (d.clientHandle h) >>= fun _ =>
    .done { ret := 1, phPrinter := some (d.clientHandle h) }

/-- The events of an open up to the answer of the server. -/
def grantEvents (i : ι) (W : World d) (h : HANDLE d.server) : List (HostEvent d ι) :=
  .started i (openRecord W [] h).call ::
    ((openRecord W [] h).trace.take 3).map (Event.acted i)

theorem grantEvents_run {P : HostPool d ι} {i : ι} {h : HANDLE d.server}
    (hi : P.threads i = none) (hc : P.shared.connected = some P.shared.server.pid)
    (ht : P.shared.server.fp .OpenPrinterA = true)
    (hfresh : h ∉ P.shared.server.spooler.openHandles) :
    Run HostPool.Step P (grantEvents i P.shared h)
      (Pool.set { P with shared := P.shared.granted h } i (some (untracked P.shared h))) := by
  have hanswer : P.shared.server.spooler.Answers (.OpenPrinterA (some []) true none)
      { ret := 1, phPrinter := some h } (P.shared.opened h).server.spooler :=
    Or.inr ⟨h, rfl, BOOL.one_ne_zero, rfl, hfresh, rfl⟩
  have hrun : Run HostPool.Step P (grantEvents i P.shared h) _ :=
    .cons (.start _ hi) (.cons (.act (Pool.set_threads_self _ i _)
      (World.env_connected (by simp [Pool.set, hc]))) (.cons (.act (Pool.set_threads_self _ i _)
      (World.env_named _ _ true)) (.cons (.act (Pool.set_threads_self _ i _)
      (World.env_carriedOut (q := .OpenPrinterA [] false [] [] 0) hc ht ht hanswer)) (.nil _))))
  simp only [Pool.set, Function.update_idem] at hrun
  exact hrun

/-- The rest of these events. -/
def trackEvents (i : ι) (V W : World d) (h : HANDLE d.server) : List (HostEvent d ι) :=
  [.acted i ⟨.addBixolonPrinter (d.clientHandle h), true, V.idle⟩,
    .finished i (openRecord W [] h).call (openRecord W [] h).result]

theorem trackEvents_run {P : HostPool d ι} {i : ι} {W : World d} {h : HANDLE d.server}
    (hi : P.threads i = some (untracked W h)) :
    Run HostPool.Step P (trackEvents i P.shared W h)
      (Pool.set { P with shared :=
        { P.shared with bxprinters := P.shared.bxprinters ++ [d.clientHandle h] } } i none) :=
  Pool.run_rest hi (.next (World.env_added P.shared (d.clientHandle h)) (.ended _ _))

end

/-- The second handle of the server in this run. -/
def otherHandle : HANDLE x86Deployment.server := (0x20 : BitVec 32)

/-- The handles of the local winspool in these runs. -/
def LowHandle {w : PtrWidth} (h : HANDLE w) : Prop := h.toNat = 8

/-- Both printers are open. -/
def bothOpenWorld : World x86Deployment :=
  { (freshWorld.granted remoteHandle).opened otherHandle with
    bxprinters :=
      [x86Deployment.clientHandle otherHandle, x86Deployment.clientHandle remoteHandle] }

def otherClose : CallRecord x86Deployment :=
  closeRecord bothOpenWorld (x86Deployment.clientHandle otherHandle) 1

/-- The second one is closed again. -/
def oneClosedWorld : World x86Deployment :=
  World.withSpooler
    { bothOpenWorld with bxprinters := [x86Deployment.clientHandle remoteHandle] }
    { openHandles := [remoteHandle], issued := [otherHandle, remoteHandle] }

/-- A thread opens a second printer while another one has the first handle and does not track it
yet, and closes it later. -/
def overlappingEvents : List (HostEvent x86Deployment Bool) :=
  grantEvents true freshWorld remoteHandle ++
    (openEvents false (freshWorld.granted remoteHandle) otherHandle ++
      (trackEvents true ((freshWorld.granted remoteHandle).opened otherHandle) freshWorld
          remoteHandle ++
        (.started false otherClose.call :: otherClose.trace.map (Event.acted false) ++
          [.finished false otherClose.call otherClose.result])))

theorem overlapping_run :
    Run HostPool.Step (Pool.idle freshWorld) overlappingEvents (Pool.idle oneClosedWorld) := by
  have hgrant := grantEvents_run (P := (Pool.idle freshWorld : HostPool x86Deployment Bool))
    (i := true) (h := remoteHandle) rfl rfl rfl (by simp [Pool.idle, freshWorld])
  have hopen := openEvents_run (i := false) (h := otherHandle)
    (P := Pool.set (Pool.idle (freshWorld.granted remoteHandle)) true
      (some (untracked freshWorld remoteHandle))) rfl rfl rfl (by decide)
  have htrack := trackEvents_run (i := true) (W := freshWorld) (h := remoteHandle)
    (P := Pool.set (Pool.idle ((freshWorld.granted remoteHandle).opened otherHandle)) true
      (some (untracked freshWorld remoteHandle))) (Pool.set_threads_self _ true _)
  have hclose : HostStep detour bothOpenWorld otherClose oneClosedWorld :=
    hostStep_close rfl rfl (by decide) (Or.inr ⟨BOOL.one_ne_zero, by decide, rfl⟩)
  have hlast : Run HostPool.Step (Pool.idle bothOpenWorld)
      (.started false otherClose.call :: otherClose.trace.map (Event.acted false) ++
          [.finished false otherClose.call otherClose.result]) (Pool.idle oneClosedWorld) :=
    Pool.run_alone rfl hclose
  simp only [Pool.set, Pool.idle, Function.update_idem, Function.update_eq_self] at htrack
  exact hgrant.append (hopen.append (htrack.append hlast))

/-! ### The rules of these runs -/

section
variable {Local : HANDLE d.client → Prop} {es : List (HostEvent d ι)} {i : ι} {W : World d}
  {h : HANDLE d.server}

theorem mem_openEvents_of_grant {e : HostEvent d ι} (he : e ∈ grantEvents i W h) :
    e ∈ openEvents i W h := by
  simp only [grantEvents, openRecord, List.take_succ_cons, List.take_zero, List.map_cons,
    List.map_nil, List.mem_cons, List.not_mem_nil, or_false] at he
  simp only [openEvents, openRecord, List.map_cons, List.map_nil, List.cons_append,
    List.nil_append, List.mem_cons, List.not_mem_nil, or_false]
  tauto

/-- An open is on no handle. -/
theorem usesHeld_openEvents (pre : List (HostEvent d ι)) :
    ∀ e ∈ openEvents i W h, UsesHeld Local pre e := by
  intro e he
  simp only [openEvents, openRecord, List.map_cons, List.map_nil, List.cons_append,
    List.nil_append, List.mem_cons, List.not_mem_nil, or_false] at he
  rcases he with rfl | rfl | rfl | rfl | rfl | rfl
  · simp [UsesHeld]
  all_goals trivial

/-- The host holds the handle that an open returned. -/
theorem held_openEvents (hremote : ¬ Local (d.clientHandle h)) :
    Held Local (es ++ openEvents i W h) (d.clientHandle h) := by
  unfold openEvents
  rw [← List.append_assoc]
  exact held_after.mpr (Or.inl ⟨rfl, hremote⟩)

end

theorem overlapping_rules :
    ∀ e ∈ overlappingEvents, AtProcess freshWorld.server.pid e ∧ OwnHandles LowHandle e := by
  intro e he
  unfold overlappingEvents at he
  rw [List.mem_append, List.mem_append, List.mem_append] at he
  rcases he with he | he | he | he
  · exact openEvents_rules (by unfold LowHandle; decide) e (mem_openEvents_of_grant he)
  · exact openEvents_rules (by unfold LowHandle; decide) e he
  · simp only [trackEvents, List.mem_cons, List.not_mem_nil, or_false] at he
    rcases he with rfl | rfl
    · exact ⟨rfl, by simp [localOpenAt], by simp [grantedAt]⟩
    · exact ⟨trivial, trivial⟩
  · simp only [otherClose, closeRecord, List.map_cons, List.map_nil, List.cons_append,
      List.nil_append, List.mem_cons, List.not_mem_nil, or_false] at he
    rcases he with rfl | rfl | rfl | rfl | rfl | rfl
    · exact ⟨trivial, trivial⟩
    · exact ⟨rfl, by simp [localOpenAt], by simp [grantedAt]⟩
    · exact ⟨rfl, by simp [localOpenAt], by simp [grantedAt]⟩
    · exact ⟨rfl, by simp [localOpenAt], by simp [grantedAt]⟩
    · exact ⟨rfl, by simp [localOpenAt, carriedOut],
        by simp [grantedAt, carriedOut, SpoolRequest.granted]⟩
    · exact ⟨trivial, trivial⟩

theorem overlapping_uses : Along (UsesHeld LowHandle) overlappingEvents := by
  unfold overlappingEvents
  rw [along_append, along_append, along_append]
  refine ⟨along_of_mem fun e he _ => ?_, along_of_mem fun e he _ => ?_, ?_, ?_⟩
  · exact usesHeld_openEvents _ e (mem_openEvents_of_grant he)
  · exact usesHeld_openEvents _ e he
  · unfold trackEvents
    rw [along_cons, along_cons]
    exact ⟨trivial, trivial, along_nil _⟩
  · rw [List.cons_append, along_cons]
    refine ⟨?_, along_of_mem fun e he _ => ?_⟩
    · rintro x ⟨⟩
      right
      rw [List.append_nil, ← List.append_assoc]
      refine Since.append (held_openEvents (by unfold LowHandle; decide)) fun e he => ?_
      simp only [trackEvents, List.mem_cons, List.not_mem_nil, or_false] at he
      rcases he with rfl | rfl <;> exact not_false
    · rw [List.mem_append, List.mem_map, List.mem_singleton] at he
      rcases he with ⟨o, -, rfl⟩ | rfl <;> trivial

theorem overlapping_opens_stay_right :
    oneClosedWorld.bxprinters.Nodup ∧
      (∀ h ∈ oneClosedWorld.bxprinters,
        OpenOnServer oneClosedWorld h ∧ ¬ CloseForwarded overlappingEvents h) ∧
      ∀ h, Held LowHandle overlappingEvents h → h ∈ oneClosedWorld.bxprinters := by
  refine tracked_handles_stay_right_under_threads rfl overlapping_run
    (fun e he => (overlapping_rules e he).1) (fun e he => (overlapping_rules e he).2) ?_
    overlapping_uses
  intro e _
  cases e with
  | acted i o =>
    exact fun _ _ s _ => Deployment.holds_of_le (d := x86Deployment) (Nat.le_refl _) s
  | _ => trivial

/-! ### A 32-bit client of a 64-bit server -/

def narrowDeployment : Deployment := { client := .x86, server := .x64 }

def lowWideHandle : HANDLE narrowDeployment.server := (0x10 : BitVec 64)

def highWideHandle : HANDLE narrowDeployment.server := (0x100000010 : BitVec 64)

def narrowEvents : List (HostEvent narrowDeployment Bool) :=
  openEvents true (connectedWorld narrowDeployment) lowWideHandle ++
    openEvents false ((connectedWorld narrowDeployment).opened lowWideHandle) highWideHandle

theorem narrow_run :
    Run HostPool.Step (Pool.idle (connectedWorld narrowDeployment)) narrowEvents
      (Pool.idle (((connectedWorld narrowDeployment).opened lowWideHandle).opened
        highWideHandle)) := by
  have hlow := openEvents_run (i := true) (h := lowWideHandle)
    (P := (Pool.idle (connectedWorld narrowDeployment) : HostPool narrowDeployment Bool))
    rfl rfl rfl (by decide)
  have hhigh := openEvents_run (i := false) (h := highWideHandle)
    (P := (Pool.idle ((connectedWorld narrowDeployment).opened lowWideHandle) :
      HostPool narrowDeployment Bool)) rfl rfl rfl (by decide)
  exact hlow.append hhigh

/-- Two handles that differ in their high bits are one value on the client, twice. -/
theorem two_wide_handles_become_one_entry :
    ¬ ∀ (d : Deployment) (ι : Type) [DecidableEq ι] (W : World d)
      (Local : HANDLE d.client → Prop) (es : List (HostEvent d ι)) (P : HostPool d ι),
      W.bxprinters = [] →
      Run HostPool.Step (Pool.idle W) es P → (∀ e ∈ es, AtProcess W.server.pid e) →
      (∀ e ∈ es, OwnHandles Local e) → Along (UsesHeld Local) es →
      P.shared.bxprinters.Nodup ∧
        (∀ h ∈ P.shared.bxprinters, OpenOnServer P.shared h ∧ ¬ CloseForwarded es h) ∧
        ∀ h, Held Local es h → h ∈ P.shared.bxprinters := by
  intro law
  have hrules : ∀ e ∈ narrowEvents,
      AtProcess (connectedWorld narrowDeployment).server.pid e ∧ OwnHandles LowHandle e := by
    intro e he
    rcases List.mem_append.mp he with he | he
    · exact openEvents_rules (by unfold LowHandle; decide) e he
    · exact openEvents_rules (by unfold LowHandle; decide) e he
  have huse : Along (UsesHeld LowHandle) narrowEvents := by
    unfold narrowEvents
    rw [along_append]
    exact ⟨along_of_mem fun e he _ => usesHeld_openEvents _ e he,
      along_of_mem fun e he _ => usesHeld_openEvents _ e he⟩
  have hright := law _ Bool _ _ _ _ rfl narrow_run (fun e he => (hrules e he).1)
    (fun e he => (hrules e he).2) huse
  exact absurd hright.1 (by decide)

end RemotePrinter
