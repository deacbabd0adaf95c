-- Threads of the host that call the detours at the same time. The list of
-- tracked handles stays right under every interleaving of their operations:
-- a handle is added after its open and taken off before its close, so that no
-- other thread can get the same value in between.
import RemotePrinter.Steps
import RemotePrinter.Threads

open Interactive

namespace RemotePrinter

variable {d : Deployment} {ι : Type}

abbrev HostPool (d : Deployment) (ι : Type) :=
  Pool ι (ClientOp d.client) ClientOp.Answer Abnormal (SpoolCall (HANDLE d.client)) SpoolCall.Ret
    (World d)

abbrev HostEvent (d : Deployment) (ι : Type) :=
  Event ι (ClientOp d.client) ClientOp.Answer Abnormal (SpoolCall (HANDLE d.client))
    SpoolCall.Ret (Served d) Empty

/-- A thread calls a detour, performs one operation of it, or returns to the host. -/
def HostPool.Step [DecidableEq ι] : HostPool d ι → HostEvent d ι → HostPool d ι → Prop :=
  Pool.Step World.env (fun _ _ _ => False) detour

/-! ## What the host has and what was closed -/

def ReturnsHandle (Local : HANDLE d.client → Prop) (h : HANDLE d.client) : HostEvent d ι → Prop
  | .finished _ c r => gained c r = some h ∧ ¬ Local h
  | _ => False

def StartsClose (h : HANDLE d.client) : HostEvent d ι → Prop
  | .started _ c => c.closes = some h
  | _ => False

def GrantsHandle (h : HANDLE d.client) : HostEvent d ι → Prop
  | .acted _ o => grantedAt o = some h
  | _ => False

def ForwardsClose (h : HANDLE d.client) : HostEvent d ι → Prop
  | .acted _ o => requestAt o = some (.ClosePrinter (SAFE_HANDLE h))
  | _ => False

/-- An open has returned this remote handle to the host, and the host has not called
`ClosePrinter` on it since. -/
def Held (Local : HANDLE d.client → Prop) (es : List (HostEvent d ι)) (h : HANDLE d.client) :
    Prop :=
  Since (ReturnsHandle Local h) (fun e => ¬ StartsClose h e) es

/-- A close of this handle was forwarded, and the server has not given it out since. -/
def CloseForwarded (es : List (HostEvent d ι)) (h : HANDLE d.client) : Prop :=
  Since (ForwardsClose h) (fun e => ¬ GrantsHandle h e) es

/-! ## The rules of the run -/

/-- The server process `pid` runs at every operation. -/
def AtProcess (pid : Nat) : HostEvent d ι → Prop
  | .acted _ o => o.note.pid = pid
  | _ => True

/-- The local winspool gives out local handles, and the server gives out none of them. -/
def OwnHandles (Local : HANDLE d.client → Prop) : HostEvent d ι → Prop
  | .acted _ o =>
    (∀ h, localOpenAt o = some h → Local h) ∧ ∀ h, grantedAt o = some h → ¬ Local h
  | _ => True

/-- The client can hold every handle that the server gives out. -/
def HoldsGranted : HostEvent d ι → Prop
  | .acted _ o => ∀ c ∈ o.note.calls, ∀ s, c.op.opened c.answer = some s → d.Holds s
  | _ => True

/-- The host calls on a handle that is not a local one only while it holds the handle. -/
def UsesHeld (Local : HANDLE d.client → Prop) (es : List (HostEvent d ι)) :
    HostEvent d ι → Prop
  | .started _ c => ∀ h, c.handle = some h → Local h ∨ Held Local es h
  | _ => True

/-! ## The stages of a call -/

/-- What a thread is about to do with a handle. -/
inductive Stage (w : PtrWidth) where
  | quiet
  /-- The handle is to be closed, and it is still on the list. -/
  | closing (h : HANDLE w)
  /-- The handle is off the list, and the server is to be asked. -/
  | removed (h : HANDLE w)
  /-- The server gave the handle out, and it is not on the list. -/
  | adding (h : HANDLE w)
  /-- The handle is on the list, and the host does not have it. -/
  | returning (h : HANDLE w)

section
variable {w : PtrWidth}

def Stage.handle : Stage w → Option (HANDLE w)
  | quiet => none
  | closing h => some h
  | removed h => some h
  | adding h => some h
  | returning h => some h

/-- The handle of the stage is on the list. -/
def Stage.Listed : Stage w → Prop
  | closing _ => True
  | returning _ => True
  | _ => False

def stageAfter (granted : Option (HANDLE w)) : Stage w :=
  match granted with
  | some h => .adding h
  | none => .quiet

/-- The order in which a detour asks the server and changes the list. -/
def upkeep (Local : HANDLE w → Prop) : Discipline (ClientOp w) ClientOp.Answer (Stage w) where
  allowed s
    | .addBixolonPrinter h => s = .adding h
    | .closeBixolonPrinter h => s = .closing h
    | .api (.spool q) =>
      (s = .quiet ∧ ∀ i, q ≠ .ClosePrinter i) ∨
        ∃ h, s = .removed h ∧ q = .ClosePrinter (SAFE_HANDLE h)
    | _ => True
  possible
    | .isBixolonPrinterByHandle h, b => Local h → b = false
    | .original c, r => ∀ h, c.opened r = some h → Local h
    | _, _ => True
  next s
    | .addBixolonPrinter h, _ => .returning h
    | .closeBixolonPrinter h, _ => .removed h
    | .api (.spool q), .ok a => stageAfter (q.granted w a)
    | .api (.spool _), .error _ => .quiet
    | _, _ => s

/-- The host gets a handle that is not a local one only from a call that has it on the list. -/
def EndsWell (Local : HANDLE w → Prop) (c : SpoolCall (HANDLE w)) (s : Stage w)
    (r : Except Abnormal c.Ret) : Prop :=
  ∀ h, gained c r = some h → Local h ∨ s = .returning h

/-- The stage in which a call starts. -/
def StartStage (Local : HANDLE w → Prop) (c : SpoolCall (HANDLE w)) (s : Stage w) : Prop :=
  (s = .quiet ∧ ∀ h, c.closes = some h → Local h) ∨ ∃ h, c.closes = some h ∧ s = .closing h

end

/-! ### Every detour keeps the order -/

section
variable {Local : HANDLE d.client → Prop}

theorem endsWell_error (c : SpoolCall (HANDLE d.client)) (s : Stage d.client) (x : Abnormal) :
    EndsWell Local c s (.error x) := by
  intro h hg
  cases hg

theorem fpOriginal_follows (c : SpoolCall (HANDLE d.client)) (s : Stage d.client) :
    (fpOriginal c).Follows (upkeep Local) (EndsWell Local c) s := by
  refine ⟨trivial, fun r hr h hg => ?_⟩
  exact Or.inl (hr h hg)

theorem forwardOr_follows {c : SpoolCall (HANDLE d.client)} {h : HANDLE d.client}
    {F B : Client d.client c.Ret} {s : Stage d.client}
    (hF : ¬ Local h → F.Follows (upkeep Local) (EndsWell Local c) s)
    (hB : B.Follows (upkeep Local) (EndsWell Local c) s) :
    (forwardOr h F B).Follows (upkeep Local) (EndsWell Local c) s := by
  refine ⟨trivial, fun e _ => ?_⟩
  cases e with
  | false => exact hB
  | true =>
    refine ⟨trivial, fun b hb => ?_⟩
    cases b with
    | false => exact hB
    | true =>
      refine hF fun hl => ?_
      have hfalse : true = false := hb hl
      cases hfalse

theorem byName_follows {c : SpoolCall (HANDLE d.client)} {name : Option Bytes}
    {F B : Client d.client c.Ret} {s : Stage d.client}
    (hF : F.Follows (upkeep Local) (EndsWell Local c) s)
    (hB : B.Follows (upkeep Local) (EndsWell Local c) s) :
    Prog.Follows (upkeep Local) (EndsWell Local c) s
      (do if ← ensure_connection then (if ← isBixolonPrinterByName name then F else B) else B) := by
  refine ⟨trivial, fun e _ => ?_⟩
  cases e with
  | false => exact hB
  | true =>
    cases name with
    | none => exact hB
    | some m =>
      refine ⟨trivial, fun b _ => ?_⟩
      cases b with
      | false => exact hB
      | true => exact hF

theorem Finishes.follows {c : SpoolCall (HANDLE d.client)} {q : SpoolRequest} {a : q.Result}
    {k : Client d.client c.Ret} (h : Finishes c q a k) :
    k.Follows (upkeep Local) (EndsWell Local c) (stageAfter (q.granted d.client a)) := by
  rcases h with ⟨hg, r, rfl, hr⟩ | ⟨x, r, -, hg, rfl, hr⟩
  · intro y hy
    have hnone : gained c (.ok r) = none := hr
    rw [hnone] at hy
    cases hy
  · rw [hg]
    refine ⟨rfl, fun _ _ y hy => Or.inr ?_⟩
    have hgain : gained c (.ok r) = c.opened r := rfl
    rcases hr with hr | hr
    · rw [hgain, hr] at hy
      cases hy
      rfl
    · rw [hgain, hr] at hy
      cases hy

/-- A request that closes nothing. -/
theorem request_follows {c : SpoolCall (HANDLE d.client)} {q : SpoolRequest}
    {k : q.Result → Client d.client c.Ret} (hq : ∀ i, q ≠ .ClosePrinter i)
    (hk : ∀ a, Finishes c q a (k a)) :
    (api (.spool q) >>= k).Follows (upkeep Local) (EndsWell Local c) .quiet := by
  refine ⟨Or.inl ⟨rfl, hq⟩, fun a _ => ?_⟩
  cases a with
  | ok a => exact (hk a).follows
  | error x => exact endsWell_error c _ _

theorem close_follows (h : HANDLE d.client) :
    (do
      closeBixolonPrinter h
      return BOOL.ofBool (← api (.spool (.ClosePrinter (SAFE_HANDLE h)))) :
        Client d.client BOOL).Follows (upkeep Local) (EndsWell Local (.ClosePrinter h))
      (.closing h) := by
  refine ⟨rfl, fun _ _ => ⟨Or.inr ⟨h, rfl, rfl⟩, fun a _ => ?_⟩⟩
  cases a with
  | ok a =>
    intro y hy
    cases hy
  | error x => exact endsWell_error _ _ _

theorem startStage_quiet {c : SpoolCall (HANDLE d.client)} {s : Stage d.client}
    (h : StartStage Local c s) (hc : c.proc ≠ .ClosePrinter) : s = .quiet := by
  rcases h with ⟨rfl, -⟩ | ⟨x, hx, -⟩
  · rfl
  · rw [SpoolCall.closes_eq_none hc] at hx
    cases hx

/-- Every detour asks the server and changes the list in the one order. -/
theorem detour_follows {c : SpoolCall (HANDLE d.client)} {s : Stage d.client}
    (hs : StartStage Local c s) :
    (detour c).Follows (upkeep Local) (EndsWell Local c) s := by
  cases c with
  | OpenPrinterA n ph pd =>
    obtain rfl := startStage_quiet hs (by simp)
    cases pd with
    | none =>
      exact byName_follows (request_follows (by simp) fun a => finishes_openA ..)
        (fpOriginal_follows _ _)
    | some pDefault =>
      refine byName_follows ?_ (fpOriginal_follows _ _)
      cases hdt : pDefault.pDatatype with
      | none =>
        simp only [THRIFT_A_TO_STRING, hdt, Prog.fail_bind]
        exact endsWell_error _ _ _
      | some m =>
        simp only [THRIFT_A_TO_STRING, hdt, Prog.pure_eq, Prog.done_bind]
        exact request_follows (by simp) fun a => finishes_openA ..
  | OpenPrinterW n ph pd =>
    obtain rfl := startStage_quiet hs (by simp)
    cases pd with
    | none =>
      exact byName_follows (request_follows (by simp) fun a => finishes_openW ..)
        (fpOriginal_follows _ _)
    | some pDefault =>
      exact byName_follows (request_follows (by simp) fun a => finishes_openW ..)
        (fpOriginal_follows _ _)
  | StartPagePrinter x =>
    obtain rfl := startStage_quiet hs (by simp)
    exact forwardOr_follows (fun _ => request_follows (c := .StartPagePrinter x) (by simp)
      fun a => Or.inl ⟨rfl, _, rfl, rfl⟩) (fpOriginal_follows _ _)
  | EndPagePrinter x =>
    obtain rfl := startStage_quiet hs (by simp)
    exact forwardOr_follows (fun _ => request_follows (c := .EndPagePrinter x) (by simp)
      fun a => Or.inl ⟨rfl, _, rfl, rfl⟩) (fpOriginal_follows _ _)
  | EndDocPrinter x =>
    obtain rfl := startStage_quiet hs (by simp)
    exact forwardOr_follows (fun _ => request_follows (c := .EndDocPrinter x) (by simp)
      fun a => Or.inl ⟨rfl, _, rfl, rfl⟩) (fpOriginal_follows _ _)
  | StartDocPrinterW x level di =>
    obtain rfl := startStage_quiet hs (by simp)
    refine forwardOr_follows (fun _ => ?_) (fpOriginal_follows _ _)
    cases di with
    | none =>
      dsimp only
      rw [← Prog.bind_done (api _)]
      exact request_follows (c := .StartDocPrinterW x level none) (by simp)
        fun a => Or.inl ⟨rfl, _, rfl, rfl⟩
    | some doc =>
      dsimp only
      rw [← Prog.bind_done (api _)]
      exact request_follows (c := .StartDocPrinterW x level (some doc)) (by simp)
        fun a => Or.inl ⟨rfl, _, rfl, rfl⟩
  | WritePrinter x buf n pw =>
    obtain rfl := startStage_quiet hs (by simp)
    refine forwardOr_follows (fun _ => ?_) (fpOriginal_follows _ _)
    rw [std_string_ofNat]
    cases buf with
    | none =>
      by_cases hn : n.toNat = 0
      · simp only [hn, if_true, Prog.done_bind]
        exact request_follows (c := .WritePrinter x none n pw) (by simp)
          fun a => Or.inl ⟨rfl, _, rfl, rfl⟩
      · simp only [hn, if_false, Prog.fail_bind]
        exact endsWell_error _ _ _
    | some m =>
      simp only [Prog.done_bind]
      exact request_follows (c := .WritePrinter x (some m) n pw) (by simp)
        fun a => Or.inl ⟨rfl, _, rfl, rfl⟩
  | ClosePrinter x =>
    refine forwardOr_follows (fun hx => ?_) (fpOriginal_follows _ _)
    rcases hs with ⟨-, hlocal⟩ | ⟨y, hy, rfl⟩
    · exact absurd (hlocal x rfl) hx
    · cases hy
      exact close_follows x

end

end RemotePrinter
