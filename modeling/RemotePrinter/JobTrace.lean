-- The operations of a job, as the host makes them and as the two winspools
-- execute them. With the connection up the server executes on a handle that it
-- gave out what the host did on it, in the same order, as long as the handle
-- comes back to it as it was, the host does not call `EndDocPrinter`, which the
-- hook table leaves out, its documents are of level 1, and the server has the
-- entry points.
import RemotePrinter.ForwardedArguments
import RemotePrinter.HandleSpaces
import RemotePrinter.HookSessions
import Mathlib.Algebra.Order.BigOperators.Group.List
import Mathlib.Algebra.Order.Group.Nat

open Interactive

namespace RemotePrinter

variable {d : Deployment}

/-! ## The operations on one handle -/

/-- A `DOC_INFO_1W` or `DOC_INFO_3W` by what its pointers stand for. -/
structure Document where
  pDocName : Option (List UInt16)
  pOutputFile : Option (List UInt16)
  pDatatype : Option (List UInt16)
  dwFlags : Option DWORD

def DOC_INFO.document (doc : DOC_INFO) : Document where
  pDocName := doc.pDocName.map readWide
  pOutputFile := doc.pOutputFile.map readWide
  pDatatype := doc.pDatatype.map readWide
  dwFlags := doc.dwFlags

theorem sameDocument_iff {p p' : Option DOC_INFO} :
    SameDocument p p' ↔ p'.map DOC_INFO.document = p.map DOC_INFO.document := by
  cases p <;> cases p' <;> simp [SameDocument, SameWide, DOC_INFO.document]

/-- An operation on a job: the function with its arguments, except for the handle. A write has
the bytes that it hands over, and the start of a document its level and the document. -/
structure JobOp where
  proc : Proc
  Level : DWORD := 0
  pDocInfo : Option Document := none
  data : Bytes := []

def SpoolCall.jobOp {H : Type} : SpoolCall H → JobOp
  | StartDocPrinterW _ level di =>
    { proc := .StartDocPrinterW, Level := level, pDocInfo := di.map DOC_INFO.document }
  | WritePrinter _ b n _ => { proc := .WritePrinter, data := (b.getD []).take n.toNat }
  | c => { proc := c.proc }

/-- The buffer of a write has the bytes that the write says. -/
def SpoolCall.BufferFits {H : Type} : SpoolCall H → Prop
  | WritePrinter _ b n _ => n.toNat ≤ (b.getD []).length
  | _ => True

/-- The document is one that Windows admits. -/
def SpoolCall.DocumentFits {H : Type} : SpoolCall H → Prop
  | StartDocPrinterW _ level di => Admits level di
  | _ => True

section
variable {H : Type} [DecidableEq H]

/-- The operation of a call on the handle `h`, if it is one. -/
def opsOn (h : H) (c : SpoolCall H) : List JobOp := if c.handle = some h then [c.jobOp] else []

theorem opsOn_self {h : H} {c : SpoolCall H} (hc : c.handle = some h) : opsOn h c = [c.jobOp] :=
  if_pos hc

theorem opsOn_of_ne {h : H} {c : SpoolCall H} (hc : c.handle ≠ some h) : opsOn h c = [] :=
  if_neg hc

end

/-- The handles that the server gave out. -/
def issuedHandles (recs : List (CallRecord d)) : List (HANDLE d.server) :=
  recs.flatMap fun rec => (serverCalls rec.trace).filterMap fun c => c.op.opened c.answer

/-- The operations that the server's winspool executed in a call on a handle of its own. -/
def serverOpsAt (s : HANDLE d.server) (rec : CallRecord d) : List JobOp :=
  (serverCalls rec.trace).flatMap fun c => opsOn s c.op

/-- Those that the local winspool executed in it. -/
def localOpsAt (h : HANDLE d.client) (rec : CallRecord d) : List JobOp :=
  (localCalls rec.trace).flatMap (opsOn h)

/-- The operations that the host made on a handle. -/
def hostOps (h : HANDLE d.client) (recs : List (CallRecord d)) : List JobOp :=
  recs.flatMap fun rec => opsOn h rec.call

def localOps (h : HANDLE d.client) (recs : List (CallRecord d)) : List JobOp :=
  recs.flatMap (localOpsAt h)

def serverOps (s : HANDLE d.server) (recs : List (CallRecord d)) : List JobOp :=
  recs.flatMap (serverOpsAt s)

/-- The server executed on the handle that it gave out as `s` what the host did on it, and the
local winspool nothing. -/
def Faithful (recs : List (CallRecord d)) (s : HANDLE d.server) : Prop :=
  serverOps s recs = hostOps (d.clientHandle s) recs ∧ localOps (d.clientHandle s) recs = []

/-! ## The rules of the host -/

def heldHandlesStep (l : List (HANDLE d.client)) (rec : CallRecord d) : List (HANDLE d.client) :=
  match rec.call.closes with
  | some h => l.erase h
  | none => (gained rec.call rec.result).toList ++ l

/-- The handles that the host was given and has not closed. -/
def heldHandles (recs : List (CallRecord d)) : List (HANDLE d.client) :=
  recs.foldl heldHandlesStep []

/-- The host calls on handles that it holds, with buffers that fit and documents that Windows
admits. -/
structure HostCalls (pre : List (CallRecord d)) (rec : CallRecord d) : Prop where
  buffer : rec.call.BufferFits
  document : rec.call.DocumentFits
  held : ∀ h, rec.call.handle = some h → h ∈ heldHandles pre

theorem heldHandles_close (recs : List (CallRecord d)) {rec : CallRecord d}
    {h : HANDLE d.client} (hc : rec.call.closes = some h) :
    heldHandles (recs ++ [rec]) = (heldHandles recs).erase h := by
  simp [heldHandles, heldHandlesStep, hc]

theorem heldHandles_other (recs : List (CallRecord d)) {rec : CallRecord d}
    (hc : rec.call.closes = none) :
    heldHandles (recs ++ [rec]) =
      (gained rec.call rec.result).toList ++ heldHandles recs := by
  simp [heldHandles, heldHandlesStep, hc]

/-! ## The request of an operation -/

/-- The pointer that the server's handler of a function tests. -/
def Proc.tested : Proc → Proc
  | WritePrinter => OpenPrinterW
  | p => p

theorem tested_original {w : PtrWidth} (q : SpoolRequest) :
    q.tested = (q.original w).proc.tested := by
  cases q <;> rfl

/-- A call on a handle, with a buffer that fits, sends a request. -/
theorem request_of_fits {w : PtrWidth} {c : SpoolCall (HANDLE w)} (hfit : c.BufferFits)
    {h : HANDLE w} (hc : c.handle = some h) : c.request ≠ none := by
  cases c with
  | OpenPrinterA | OpenPrinterW => cases hc
  | StartDocPrinterW x l di => cases di <;> exact Option.some_ne_none _
  | WritePrinter x b n pw =>
    cases b with
    | none =>
      have hlen : n.toNat ≤ 0 := hfit
      have hn : n = 0 := BitVec.eq_of_toNat_eq (Nat.le_zero.mp hlen)
      have hsome : (SpoolCall.WritePrinter x none n pw).request =
        some (.WritePrinter (SAFE_HANDLE x) [] n) := if_pos hn
      rw [hsome]
      exact Option.some_ne_none _
    | some m => exact Option.some_ne_none _
  | StartPagePrinter | EndPagePrinter | EndDocPrinter | ClosePrinter =>
    exact Option.some_ne_none _

/-- The server gets the bytes of a write. -/
theorem take_cStr (m : Bytes) {n : Nat} (h : n ≤ m.length) :
    (cStr (m.take n)).take n = m.take n := by
  have hlen : (m.take n).length = n := List.length_take_of_le h
  unfold cStr
  rw [List.take_append_of_le_length (by omega), List.take_take, Nat.min_self]

/-- A start of a document has one, of level 1. -/
def SpoolCall.OfLevel1 {H : Type} : SpoolCall H → Prop
  | StartDocPrinterW _ level di => di ≠ none ∧ level = 1
  | _ => True

/-- The request of a call on a handle is for the same operation, just if its document is of
level 1. -/
theorem jobOp_original {c : SpoolCall (HANDLE d.client)} {q : SpoolRequest}
    (hq : c.request = some q) (hfit : c.BufferFits) (hdoc : c.DocumentFits) :
    (q.original d.server).jobOp = c.jobOp ↔ c.OfLevel1 := by
  cases c with
  | StartDocPrinterW x l di =>
    have hsent : q = .StartDocPrinterW (SAFE_HANDLE x) l
        (THRIFT_W_TO_STRING (di.bind (·.pDocName)))
        (THRIFT_W_TO_STRING (di.bind (·.pOutputFile)))
        (THRIFT_W_TO_STRING (di.bind (·.pDatatype))) := by
      cases di <;> cases hq <;> rfl
    have hiff := sameDocument_sent hdoc
    rw [sameDocument_iff] at hiff
    rw [hsent]
    simpa [SpoolRequest.original, SpoolCall.jobOp, SpoolCall.OfLevel1] using hiff
  | WritePrinter x b n pw =>
    refine iff_of_true ?_ trivial
    cases b with
    | none =>
      by_cases hn : n = 0
      · subst hn
        cases hq
        rfl
      · have hnone : (SpoolCall.WritePrinter x none n pw).request = none := if_neg hn
        rw [hnone] at hq
        cases hq
    | some m =>
      cases hq
      have htake : (cStr (m.take n.toNat)).take n.toNat = m.take n.toNat := take_cStr m hfit
      simp only [SpoolRequest.original, SpoolCall.jobOp, Option.getD_some, htake]
  | OpenPrinterA n ph pd =>
    refine iff_of_true ?_ trivial
    cases pd with
    | none => cases hq; rfl
    | some p =>
      unfold SpoolCall.request at hq
      rw [Option.map_eq_some_iff] at hq
      obtain ⟨m, -, rfl⟩ := hq
      rfl
  | OpenPrinterW n ph pd =>
    refine iff_of_true ?_ trivial
    cases pd <;> cases hq <;> rfl
  | StartPagePrinter x | EndPagePrinter x | EndDocPrinter x | ClosePrinter x =>
    cases hq
    exact iff_of_true rfl trivial

/-- Whether an operation of the host gets to the server's winspool as it is: its entry point is
hooked, the pointer that the handler tests is there, and its document is of level 1. -/
structure Carried (fp : Proc → Bool) (c : SpoolCall (HANDLE d.client)) : Prop where
  hooked : c.proc ≠ .EndDocPrinter
  found : fp c.proc.tested = true
  level : c.OfLevel1

/-! ## One call -/

section
variable {W W' : World d} {rec : CallRecord d}

/-- A call of the host on its local winspool, by what it leaves and shows. -/
structure MadeLocally (W : World d) (rec : CallRecord d) (W' : World d) : Prop where
  bxprinters : W'.bxprinters = W.bxprinters
  server : W.server.Lives W'.server
  localCalls : localCalls rec.trace = [rec.call]
  serverCalls : serverCalls rec.trace = []
  gained : ∀ h, gained rec.call rec.result = some h → h ∈ localOpens rec.trace

/-- What a call of the hooked host is: an `EndDocPrinter` goes to the local function, and every
other call through its detour. -/
theorem patched_step {addr : Addresses} {hooks : minhooklink.State}
    (hhook : HooksStarted addr hooks)
    (h : HostStep (patched addr hooks) W rec W') :
    rec.call.proc = .EndDocPrinter ∧ MadeLocally W rec W' ∨
      rec.call.proc ≠ .EndDocPrinter ∧ HostStep detour W rec W' := by
  unfold HostStep at h
  rw [patched_eq hhook] at h
  by_cases hp : rec.call.proc = .EndDocPrinter
  · rw [if_pos hp] at h
    obtain ⟨a, n, henv, htr, hr⟩ := fpOriginal_runsIn h
    obtain ⟨hbx, hlive, ⟨-, hn⟩, -, -⟩ := World.env_original henv
    obtain ⟨x, hx⟩ := SpoolCall.handle_of_EndDocPrinter hp
    refine Or.inl ⟨hp, hbx, hlive, ?_, ?_, fun y hy => ?_⟩
    · rw [htr]
      rfl
    · rw [htr]
      simp [serverCalls, hn]
    · rw [hr] at hy
      have hnone : gained rec.call (.ok a) = none := SpoolCall.opened_eq_none hx a
      rw [hnone] at hy
      cases hy
  · rw [if_neg hp] at h
    exact Or.inr ⟨hp, h⟩

/-- With the connection up the server makes no call for the host, or the one of the request. -/
theorem served_of_up (h : HostStep detour W rec W') (hup : Up W.server.pid rec) :
    serverCalls rec.trace = [] ∨ ∃ q r, rec.call.request = some q ∧
      W.server.fp q.tested = true ∧ serverCalls rec.trace = [⟨q.original d.server, r, ()⟩] ∧
      ∀ x, rec.call.handle = some x → x ∈ W.bxprinters := by
  have hpid := (h.same_of_up hup).1
  have key : ∀ {q a n S S'}, Sent W rec.call rec.trace W' q a n S S' →
      serverCalls rec.trace = [] ∨ ∃ q r, rec.call.request = some q ∧
        W.server.fp q.tested = true ∧ serverCalls rec.trace = [⟨q.original d.server, r, ()⟩] ∧
        ∀ x, rec.call.handle = some x → x ∈ W.bxprinters := by
    intro q a n S S' hsent
    have hreach := hsent.reaches
    rw [(hsent.same_server hup hpid).1] at hreach
    rw [hsent.serverCalls]
    generalize n.calls = calls at hreach ⊢
    cases hreach with
    | nothing ha => exact Or.inl rfl
    | executed ht hr ha => exact Or.inr ⟨q, _, hsent.request, ht, rfl, hsent.tracked⟩
  cases h.effect with
  | bypass v hr hbx hsp hserver hgrants hremovals hrequests hlocal hopens hserved hwhy =>
    exact Or.inl hserved
  | unread hr hq htracked hmeanwhile hgrants hremovals hrequests hlocal hopens hserved =>
    exact Or.inl hserved
  | asked q a n S S' hsent hp hbx hgrants hremovals hnone hgain => exact key hsent
  | opened q a n S S' x hsent hc hgrant hbx hgrants hremovals hgain => exact key hsent
  | closed x a n S S' hc hsent hbx hgrants hremovals hgain => exact key hsent

/-! ### What a call adds to the trace of the server -/

/-- Each tracked value stands for a handle of the server. -/
def FromServer (W : World d) : Prop := ∀ x ∈ W.bxprinters, ∃ s, d.clientHandle s = x

/-- The client sends for such a value a handle that has the value. -/
theorem FromServer.back (hfrom : FromServer W) {x : HANDLE d.client} (hx : x ∈ W.bxprinters) :
    d.clientHandle (d.serverHandle x) = x := by
  obtain ⟨s, rfl⟩ := hfrom x hx
  exact Deployment.clientHandle_sent s

/-- The server executes nothing on its handle, or the operation of the request of a call on the
value of the handle. -/
def ExecutedAt (fp : Proc → Bool) (s : HANDLE d.server) (rec : CallRecord d) : Prop :=
  serverOpsAt s rec = [] ∨
    (rec.call.handle = some (d.clientHandle s) ∧ d.Holds s ∧ rec.call.proc ≠ .EndDocPrinter ∧
      fp rec.call.proc.tested = true) ∧
    ∃ q, rec.call.request = some q ∧ serverOpsAt s rec = [(q.original d.server).jobOp]

theorem executedAt_of_up (hfrom : FromServer W) (h : HostStep detour W rec W')
    (hup : Up W.server.pid rec) (hp : rec.call.proc ≠ .EndDocPrinter) (s : HANDLE d.server) :
    ExecutedAt W.server.fp s rec := by
  rcases served_of_up h hup with hnone | ⟨q, r, hq, ht, hcalls, htracked⟩
  · exact Or.inl (by simp [serverOpsAt, hnone])
  · have hone : serverOpsAt s rec = opsOn s (q.original d.server) := by
      simp [serverOpsAt, hcalls]
    by_cases hs : (q.original d.server).handle = some s
    · right
      have hsent := hs
      rw [(request_original hq).2, Option.map_eq_some_iff] at hsent
      obtain ⟨x, hx, rfl⟩ := hsent
      rw [tested_original (w := d.server), (request_original hq).1] at ht
      refine ⟨⟨?_, Deployment.holds_serverHandle x, hp, ht⟩, q, hq, hone.trans (opsOn_self hs)⟩
      rw [hfrom.back (htracked x hx), hx]
    · exact Or.inl (hone.trans (opsOn_of_ne hs))

theorem ExecutedAt.length_le {fp : Proc → Bool} {s : HANDLE d.server} (h : ExecutedAt fp s rec) :
    (serverOpsAt s rec).length ≤ (opsOn (d.clientHandle s) rec.call).length := by
  rcases h with hnone | ⟨⟨hx, -⟩, q, -, hone⟩
  · rw [hnone]
    exact Nat.zero_le _
  · rw [hone, opsOn_self hx]
    exact Nat.le_refl 1

/-- If the server executes just the operation of the host, that is carried, and on a handle that
the client can hold. -/
theorem ExecutedAt.carried {fp : Proc → Bool} {s : HANDLE d.server} (h : ExecutedAt fp s rec)
    (hfit : rec.call.BufferFits) (hdoc : rec.call.DocumentFits)
    (hx : rec.call.handle = some (d.clientHandle s))
    (hsame : serverOpsAt s rec = opsOn (d.clientHandle s) rec.call) :
    Carried fp rec.call ∧ d.Holds s := by
  rw [opsOn_self hx] at hsame
  rcases h with hnone | ⟨⟨-, hholds, hp, ht⟩, q, hq, hone⟩
  · rw [hnone] at hsame
    cases hsame
  · have hop : (q.original d.server).jobOp = rec.call.jobOp := by
      rw [hone] at hsame
      exact (List.cons.inj hsame).1
    exact ⟨⟨hp, ht, (jobOp_original hq hfit hdoc).mp hop⟩, hholds⟩

/-- The server executes a carried operation on a tracked handle that the client can hold, and the
local winspool does not. -/
theorem served_of_carried (h : HostStep detour W rec W') (hup : Up W.server.pid rec)
    {s : HANDLE d.server} (hx : rec.call.handle = some (d.clientHandle s))
    (hfit : rec.call.BufferFits) (hdoc : rec.call.DocumentFits) (hholds : d.Holds s)
    (hcarried : Carried W.server.fp rec.call) (htracked : d.clientHandle s ∈ W.bxprinters) :
    serverOpsAt s rec = [rec.call.jobOp] ∧ localOpsAt (d.clientHandle s) rec = [] := by
  have hpass : Passes rec.trace := (detour_course h).passes_of_tracked hup hx htracked
  obtain ⟨q, hq⟩ := Option.ne_none_iff_exists'.mp (request_of_fits hfit hx)
  have ht : W.server.fp q.tested = true := by
    rw [tested_original (w := d.server), (request_original hq).1]
    exact hcarried.found
  obtain ⟨r, n, hcalls, -⟩ := h.carried hup hpass hq ht
  constructor
  · have hs : (q.original d.server).handle = some s := by
      rw [(request_original hq).2, hx, Option.map_some]
      exact congrArg some hholds
    have hone : serverOpsAt s rec = opsOn s (q.original d.server) := by
      simp [serverOpsAt, hcalls]
    rw [hone, opsOn_self hs, (jobOp_original hq hfit hdoc).mpr hcarried.level]
  · simp [localOpsAt, (detour_course h).localCalls_of_passes hpass]

/-- The local winspool executes no other call than that of the host. -/
theorem localOpsAt_of_ne (h : HostStep detour W rec W') {x : HANDLE d.client}
    (hx : rec.call.handle ≠ some x) : localOpsAt x rec = [] := by
  unfold localOpsAt
  cases h.effect with
  | bypass v hr hbx hsp hserver hgrants hremovals hrequests hlocal hopens hserved hwhy =>
    simp [hlocal, opsOn_of_ne hx]
  | unread hr hq htracked hmeanwhile hgrants hremovals hrequests hlocal hopens hserved =>
    simp [hlocal]
  | asked q a n S S' hsent hp hbx hgrants hremovals hnone hgain => simp [hsent.localCalls]
  | opened q a n S S' y hsent hc hgrant hbx hgrants hremovals hgain => simp [hsent.localCalls]
  | closed y a n S S' hc hsent hbx hgrants hremovals hgain => simp [hsent.localCalls]

theorem MadeLocally.localOpsAt_of_ne (h : MadeLocally W rec W') {x : HANDLE d.client}
    (hx : rec.call.handle ≠ some x) : localOpsAt x rec = [] := by
  simp [localOpsAt, h.localCalls, opsOn_of_ne hx]

/-! ### What the host holds -/

/-- The host holds the value of the handle at most once, and only while the client tracks it and
the server has the handle open. -/
structure HeldOnce (pre : List (CallRecord d)) (W : World d) (s : HANDLE d.server) : Prop where
  once : (heldHandles pre).count (d.clientHandle s) ≤ 1
  live : d.clientHandle s ∈ heldHandles pre →
    d.clientHandle s ∈ W.bxprinters ∧ s ∈ W.server.spooler.openHandles

variable {pre : List (CallRecord d)} {s : HANDLE d.server}

/-- A call that closes nothing, and gains the value of the handle only with the handle itself. -/
theorem heldOnce_other (h : HeldOnce pre W s) (hc : rec.call.closes = none)
    (hbx : ∀ x ∈ W.bxprinters, x ∈ W'.bxprinters)
    (hopen : ∀ x ∈ W.server.spooler.openHandles, x ∈ W'.server.spooler.openHandles)
    (hgain : gained rec.call rec.result = some (d.clientHandle s) →
      s ∉ W.server.spooler.openHandles ∧ d.clientHandle s ∈ W'.bxprinters ∧
        s ∈ W'.server.spooler.openHandles) : HeldOnce (pre ++ [rec]) W' s := by
  have hheld := heldHandles_other pre hc
  have hlive : d.clientHandle s ∈ heldHandles pre →
      d.clientHandle s ∈ W'.bxprinters ∧ s ∈ W'.server.spooler.openHandles :=
    fun hs => ⟨hbx _ (h.live hs).1, hopen _ (h.live hs).2⟩
  by_cases hg : gained rec.call rec.result = some (d.clientHandle s)
  · obtain ⟨hfresh, hnew⟩ := hgain hg
    have hnot : d.clientHandle s ∉ heldHandles pre := fun hs => hfresh (h.live hs).2
    constructor
    · rw [hheld, hg]
      simp [List.count_eq_zero_of_not_mem hnot]
    · exact fun _ => hnew
  · have hne : d.clientHandle s ∉ (gained rec.call rec.result).toList := by
      rwa [Option.mem_toList]
    constructor
    · rw [hheld, List.count_append, List.count_eq_zero_of_not_mem hne, Nat.zero_add]
      exact h.once
    · intro hs
      rw [hheld, List.mem_append] at hs
      exact hlive (hs.resolve_left hne)

/-- A close takes its own handle from the host, and no other one from the client or the server. -/
theorem heldOnce_close (h : HeldOnce pre W s) {y : HANDLE d.client}
    (hc : rec.call.closes = some y)
    (hkeep : d.clientHandle s ≠ y → d.clientHandle s ∈ W.bxprinters →
      s ∈ W.server.spooler.openHandles →
      d.clientHandle s ∈ W'.bxprinters ∧ s ∈ W'.server.spooler.openHandles) :
    HeldOnce (pre ++ [rec]) W' s := by
  have hheld := heldHandles_close pre hc
  have honce := h.once
  by_cases hy : d.clientHandle s = y
  · rw [← hy] at hheld
    have hcount : (heldHandles (pre ++ [rec])).count (d.clientHandle s) = 0 := by
      rw [hheld, List.count_erase_self]
      omega
    refine ⟨by omega, fun hs => ?_⟩
    rw [List.count_eq_zero] at hcount
    exact absurd hs hcount
  · constructor
    · rw [hheld, List.count_erase_of_ne hy]
      exact honce
    · intro hs
      rw [hheld, List.mem_erase_of_ne hy] at hs
      exact hkeep hy (h.live hs).1 (h.live hs).2

/-- A call on the local winspool. -/
theorem heldOnce_local (h : HeldOnce pre W s) (hbx : W'.bxprinters = W.bxprinters)
    (hserver : W'.server = W.server)
    (hgain : gained rec.call rec.result ≠ some (d.clientHandle s)) :
    HeldOnce (pre ++ [rec]) W' s := by
  cases hc : rec.call.closes with
  | none =>
    exact heldOnce_other h hc (fun x hx => by rw [hbx]; exact hx)
      (fun x hx => by rw [hserver]; exact hx) fun hg => absurd hg hgain
  | some y =>
    refine heldOnce_close h hc fun _ hb ho => ?_
    rw [hbx, hserver]
    exact ⟨hb, ho⟩

/-- A call of a detour, in a run that gives out the value for this handle alone. -/
theorem heldOnce_step (hfrom : FromServer W) (h : HeldOnce pre W s)
    (hstep : HostStep detour W rec W') (hup : Up W.server.pid rec)
    (hnl : d.clientHandle s ∉ localOpens rec.trace)
    (hown : ∀ c ∈ serverCalls rec.trace, ∀ s', c.op.opened c.answer = some s' →
      d.clientHandle s' = d.clientHandle s → s' = s) : HeldOnce (pre ++ [rec]) W' s := by
  have hpid := (hstep.same_of_up hup).1
  cases hstep.effect with
  | bypass v hr hbx hsp hserver hgrants hremovals hrequests hlocal hopens hserved hwhy =>
    refine heldOnce_local h hbx (hserver.eq_of_pid hpid) fun hg => ?_
    rw [hr] at hg
    exact hnl (mem_localOpens_of_gained hopens hg)
  | unread hr hq htracked hmeanwhile hgrants hremovals hrequests hlocal hopens hserved =>
    refine heldOnce_local h hmeanwhile.bxprinters (hmeanwhile.server.eq_of_pid hpid) ?_
    rw [hr]
    simp [gained]
  | asked q a n S S' hsent hp hbx hgrants hremovals hnone hgain =>
    obtain ⟨hS, hS'⟩ := hsent.same_server hup hpid
    have hclose : (q.original d.server).proc ≠ .ClosePrinter := by
      rw [(request_original hsent.request).1]
      exact hp
    refine heldOnce_other h (SpoolCall.closes_eq_none hp) (fun x hx => by rw [hbx]; exact hx)
      (fun x hx => ?_) fun hg => ?_
    · rw [← hS']
      exact kept_of_reaches hsent.reaches hclose (by rw [hS]; exact hx)
    · rw [hgain] at hg
      cases hg
  | opened q a n S S' x hsent hc hgrant hbx hgrants hremovals hgain =>
    obtain ⟨hS, hS'⟩ := hsent.same_server hup hpid
    obtain ⟨s', hsx, ⟨c, hcall, hs'⟩, hfresh, hmem⟩ :=
      open_of_granted hsent.reaches hgrant (handle_of_granted hgrant)
    rw [hS] at hfresh hmem
    rw [hS'] at hmem
    refine heldOnce_other h (SpoolCall.closes_of_no_handle hc)
      (fun y hy => by rw [hbx]; exact List.mem_append_left _ hy)
      (fun y hy => (hmem y).mpr (Or.inr hy)) fun hg => ?_
    have hx : x = d.clientHandle s := by
      rcases hgain with hsome | hnone
      · rw [hsome] at hg
        exact Option.some.inj hg
      · rw [hnone] at hg
        cases hg
    have hss : s' = s :=
      hown c (by rw [hsent.serverCalls]; exact hcall) s' hs' (hsx.trans hx)
    rw [hss] at hfresh hmem
    refine ⟨hfresh, ?_, (hmem s).mpr (Or.inl rfl)⟩
    rw [hbx, ← hx]
    simp
  | closed y a n S S' hc hsent hbx hgrants hremovals hgain =>
    obtain ⟨hS, hS'⟩ := hsent.same_server hup hpid
    refine heldOnce_close h (y := y) (by rw [hc]; rfl) fun hy hb ho => ?_
    constructor
    · rw [hbx, bxprinters.mem_closeBixolonPrinter]
      exact ⟨hb, hy⟩
    · rw [← hS']
      refine kept_of_close hsent.reaches (by rw [hS]; exact ho) fun hs => hy ?_
      -- the server closes the handle that has the closed value
      rw [hs]
      exact hfrom.back (hsent.tracked y (by rw [hc]; rfl))

/-- What the client tracks stays the server's. -/
theorem fromServer_step (hfrom : FromServer W) (hstep : HostStep detour W rec W') :
    FromServer W' := by
  intro x hx
  cases hstep.effect with
  | bypass v hr hbx hsp hserver hgrants hremovals hrequests hlocal hopens hserved hwhy =>
    rw [hbx] at hx
    exact hfrom x hx
  | unread hr hq htracked hmeanwhile hgrants hremovals hrequests hlocal hopens hserved =>
    rw [hmeanwhile.bxprinters] at hx
    exact hfrom x hx
  | asked q a n S S' hsent hp hbx hgrants hremovals hnone hgain =>
    rw [hbx] at hx
    exact hfrom x hx
  | opened q a n S S' y hsent hc hgrant hbx hgrants hremovals hgain =>
    rw [hbx, List.mem_append, List.mem_singleton] at hx
    rcases hx with hold | rfl
    · exact hfrom x hold
    · obtain ⟨s, hs, -⟩ :=
        open_of_granted hsent.reaches hgrant (handle_of_granted hgrant)
      exact ⟨s, hs⟩
  | closed y a n S S' hc hsent hbx hgrants hremovals hgain =>
    rw [hbx, bxprinters.mem_closeBixolonPrinter] at hx
    exact hfrom x hx.1

end

/-! ## Whole runs -/

/-- If no part of the first list is longer, the joined lists are the same just if the parts are. -/
theorem flatMap_eq_flatMap_iff {α β : Type} {f g : α → List β} {l : List α}
    (hle : ∀ a ∈ l, (f a).length ≤ (g a).length) :
    l.flatMap f = l.flatMap g ↔ ∀ a ∈ l, f a = g a := by
  induction l with
  | nil => simp
  | cons a l ih =>
    obtain ⟨ha, hl⟩ := List.forall_mem_cons.mp hle
    rw [List.flatMap_cons, List.flatMap_cons, List.forall_mem_cons]
    constructor
    · intro he
      have hrest : (l.flatMap f).length ≤ (l.flatMap g).length := by
        rw [List.length_flatMap, List.length_flatMap]
        exact List.sum_le_sum hl
      have hlen := congrArg List.length he
      rw [List.length_append, List.length_append] at hlen
      obtain ⟨hfirst, hrest'⟩ := List.append_inj he (by omega)
      exact ⟨hfirst, (ih hl).mp hrest'⟩
    · rintro ⟨hfirst, hrest⟩
      rw [hfirst, (ih hl).mpr hrest]

section
variable {W W' : World d} {recs : List (CallRecord d)} {addr : Addresses}
  {hooks : minhooklink.State}

/-- In a run the two winspools execute no operation that the host does not make on the value. -/
theorem executed_in_run (hbx : W.bxprinters = []) (hhook : HooksStarted addr hooks)
    (run : Run (HostStep (patched addr hooks)) W recs W')
    (hup : ∀ rec ∈ recs, Up W.server.pid rec) :
    ∀ rec ∈ recs, (∀ s, ExecutedAt W.server.fp s rec) ∧
      ∀ x, rec.call.handle ≠ some x → localOpsAt x rec = [] := by
  have hlaw : Along (fun _ rec => (∀ s, ExecutedAt W.server.fp s rec) ∧
      ∀ x, rec.call.handle ≠ some x → localOpsAt x rec = []) recs := by
    refine run.along (J := fun _ V => FromServer V ∧ V.server.pid = W.server.pid ∧
      V.server.fp = W.server.fp) ?_ ?_ (along_of_forall hup)
    · exact ⟨by simp [FromServer, hbx], rfl, rfl⟩
    · rintro pre V rec V' ⟨hfrom, hpid, hfp⟩ hupV hstep
      rw [← hpid] at hupV
      obtain ⟨hpid', hfp'⟩ := HostStep.same_of_up hstep hupV
      rcases patched_step hhook hstep with ⟨-, hmade⟩ | ⟨hp, hdetour⟩
      · refine ⟨⟨?_, hpid'.trans hpid, hfp'.trans hfp⟩, fun s => Or.inl ?_, ?_⟩
        · unfold FromServer
          rw [hmade.bxprinters]
          exact hfrom
        · simp [serverOpsAt, hmade.serverCalls]
        · exact fun x hx => hmade.localOpsAt_of_ne hx
      · refine ⟨⟨fromServer_step hfrom hdetour, hpid'.trans hpid, hfp'.trans hfp⟩, ?_, ?_⟩
        · intro s
          rw [← hfp]
          exact executedAt_of_up hfrom hdetour hupV hp s
        · exact fun x hx => localOpsAt_of_ne hdetour hx
  intro rec hrec
  obtain ⟨pre, post, hsplit⟩ := List.append_of_mem hrec
  exact hlaw pre rec post hsplit

/-- In a run that gives out the value of a handle for this handle alone, the server executes
every carried operation on it. -/
theorem carried_in_run (hbx : W.bxprinters = []) (hhook : HooksStarted addr hooks)
    (run : Run (HostStep (patched addr hooks)) W recs W')
    (hup : ∀ rec ∈ recs, Up W.server.pid rec) (hcalls : Along HostCalls recs)
    {s : HANDLE d.server} (hnl : d.clientHandle s ∉ localIssued recs) (hholds : d.Holds s)
    (hown : ∀ s' ∈ issuedHandles recs, d.clientHandle s' = d.clientHandle s → s' = s) :
    ∀ rec ∈ recs, rec.call.handle = some (d.clientHandle s) → Carried W.server.fp rec.call →
      serverOpsAt s rec = [rec.call.jobOp] ∧ localOpsAt (d.clientHandle s) rec = [] := by
  have hrules : ∀ rec ∈ recs, Up W.server.pid rec ∧ d.clientHandle s ∉ localOpens rec.trace ∧
      ∀ c ∈ serverCalls rec.trace, ∀ s', c.op.opened c.answer = some s' →
        d.clientHandle s' = d.clientHandle s → s' = s := by
    refine fun rec hrec => ⟨hup rec hrec, fun hl => hnl ?_, fun c hc s' hs' => hown s' ?_⟩
    · exact List.mem_flatMap.mpr ⟨rec, hrec, hl⟩
    · exact List.mem_flatMap.mpr ⟨rec, hrec, List.mem_filterMap.mpr ⟨c, hc, hs'⟩⟩
  have hlaw : Along (fun _ rec => rec.call.handle = some (d.clientHandle s) →
      Carried W.server.fp rec.call →
        serverOpsAt s rec = [rec.call.jobOp] ∧ localOpsAt (d.clientHandle s) rec = []) recs := by
    refine run.along (J := fun pre V => (FromServer V ∧ HeldOnce pre V s) ∧
      V.server.pid = W.server.pid ∧ V.server.fp = W.server.fp) ?_ ?_
      ((along_of_forall hrules).and hcalls)
    · exact ⟨⟨by simp [FromServer, hbx], by simp [heldHandles], by simp [heldHandles]⟩, rfl, rfl⟩
    · rintro pre V rec V' ⟨⟨hfrom, hheld⟩, hpid, hfp⟩ ⟨⟨hupV, hnlV, hownV⟩, hcall⟩ hstep
      rw [← hpid] at hupV
      obtain ⟨hpid', hfp'⟩ := HostStep.same_of_up hstep hupV
      rcases patched_step hhook hstep with ⟨hp, hmade⟩ | ⟨hp, hdetour⟩
      · refine ⟨⟨⟨?_, ?_⟩, hpid'.trans hpid, hfp'.trans hfp⟩, fun _ hc => absurd hp hc.hooked⟩
        · unfold FromServer
          rw [hmade.bxprinters]
          exact hfrom
        · exact heldOnce_local hheld hmade.bxprinters (hmade.server.eq_of_pid hpid')
            fun hg => hnlV (hmade.gained _ hg)
      · refine ⟨⟨⟨fromServer_step hfrom hdetour, ?_⟩, hpid'.trans hpid, hfp'.trans hfp⟩, ?_⟩
        · exact heldOnce_step hfrom hheld hdetour hupV hnlV hownV
        · intro hx hcarried
          rw [← hfp] at hcarried
          exact served_of_carried hdetour hupV hx hcall.buffer hcall.document hholds hcarried
            (hheld.live (hcall.held _ hx)).1
  intro rec hrec
  obtain ⟨pre, post, hsplit⟩ := List.append_of_mem hrec
  exact hlaw pre rec post hsplit

/-- With the connection up, every job arrives whole, and none of it stays on the client, just if
each operation on a handle of the server is hooked, finds its entry point on the server and has
its document kept, and the handle comes back to the server as it was. -/
theorem every_job_arrives_whole_just_if_its_operations_are_carried (hbx : W.bxprinters = [])
    (hhook : HooksStarted addr hooks) (run : Run (HostStep (patched addr hooks)) W recs W')
    (hup : ∀ rec ∈ recs, Up W.server.pid rec) (hcalls : Along HostCalls recs)
    (hdis : ∀ s ∈ issuedHandles recs, d.clientHandle s ∉ localIssued recs) :
    (∀ s ∈ issuedHandles recs, Faithful recs s) ↔
      ∀ rec ∈ recs, ∀ s ∈ issuedHandles recs, rec.call.handle = some (d.clientHandle s) →
        Carried W.server.fp rec.call ∧ d.serverHandle (d.clientHandle s) = s := by
  have hexec := executed_in_run hbx hhook run hup
  have hparts : ∀ s, serverOps s recs = hostOps (d.clientHandle s) recs ↔
      ∀ rec ∈ recs, serverOpsAt s rec = opsOn (d.clientHandle s) rec.call :=
    fun s => flatMap_eq_flatMap_iff fun rec hrec => ((hexec rec hrec).1 s).length_le
  constructor
  · intro hall rec hrec s hs hx
    obtain ⟨pre, post, hsplit⟩ := List.append_of_mem hrec
    have hcall := hcalls pre rec post hsplit
    exact ((hexec rec hrec).1 s).carried hcall.buffer hcall.document hx
      ((hparts s).mp (hall s hs).1 rec hrec)
  · intro hall s hs
    by_cases hany : ∃ rec ∈ recs, rec.call.handle = some (d.clientHandle s)
    · obtain ⟨rec₀, hrec₀, hx₀⟩ := hany
      have hholds : d.Holds s := (hall rec₀ hrec₀ s hs hx₀).2
      have hown : ∀ s' ∈ issuedHandles recs, d.clientHandle s' = d.clientHandle s → s' = s := by
        intro s' hs' he
        have hholds' : d.Holds s' := (hall rec₀ hrec₀ s' hs' (by rw [he]; exact hx₀)).2
        exact hholds'.inj hholds he
      have hcarried := carried_in_run hbx hhook run hup hcalls (hdis s hs) hholds hown
      have hat : ∀ rec ∈ recs, serverOpsAt s rec = opsOn (d.clientHandle s) rec.call ∧
          localOpsAt (d.clientHandle s) rec = [] := by
        intro rec hrec
        by_cases hx : rec.call.handle = some (d.clientHandle s)
        · rw [opsOn_self hx]
          exact hcarried rec hrec hx (hall rec hrec s hs hx).1
        · have hle := ((hexec rec hrec).1 s).length_le
          rw [opsOn_of_ne hx] at hle ⊢
          exact ⟨List.length_eq_zero_iff.mp (Nat.le_zero.mp hle), (hexec rec hrec).2 _ hx⟩
      exact ⟨(hparts s).mpr fun rec hrec => (hat rec hrec).1,
        List.flatMap_eq_nil_iff.mpr fun rec hrec => (hat rec hrec).2⟩
    · push Not at hany
      refine ⟨(hparts s).mpr fun rec hrec => ?_, List.flatMap_eq_nil_iff.mpr fun rec hrec => ?_⟩
      · have hle := ((hexec rec hrec).1 s).length_le
        rw [opsOn_of_ne (hany rec hrec)] at hle ⊢
        exact List.length_eq_zero_iff.mp (Nat.le_zero.mp hle)
      · exact (hexec rec hrec).2 _ (hany rec hrec)

end

/-! ### A job that arrives, and one that does not -/

/-- The hooked host makes a call through its detour. -/
theorem hostStep_patched {addr : Addresses} {hooks : minhooklink.State}
    (hhook : HooksStarted addr hooks)
    {W W' : World d} {rec : CallRecord d} (hp : rec.call.proc ≠ .EndDocPrinter)
    (h : HostStep detour W rec W') : HostStep (patched addr hooks) W rec W' := by
  unfold HostStep
  rw [patched_eq hhook, if_neg hp]
  exact h

/-- An `EndDocPrinter` of the hooked host. -/
def endDocRecord (W : World d) (h : HANDLE d.client) : CallRecord d where
  call := .EndDocPrinter h
  trace := [⟨.original (.EndDocPrinter h), (0 : BOOL), W.idle⟩]
  result := .ok (0 : BOOL)

theorem hostStep_endDoc {addr : Addresses} {hooks : minhooklink.State}
    (hhook : HooksStarted addr hooks)
    (W : World d) (h : HANDLE d.client) : HostStep (patched addr hooks) W (endDocRecord W h) W := by
  unfold HostStep
  rw [patched_eq hhook]
  apply fpOriginal_run (W := W) (c := .EndDocPrinter h) (r := (0 : BOOL))
  rfl

/-- The host opens a Bixolon printer and makes some more calls. -/
def jobOf (recs : List (CallRecord x86Deployment)) : List (CallRecord x86Deployment) :=
  openRecord freshWorld [] remoteHandle :: recs

section
variable {addr : Addresses} {hooks : minhooklink.State}
  {recs : List (CallRecord x86Deployment)}

theorem jobOf_run (hhook : HooksStarted addr hooks)
    {W : World x86Deployment} (h : Run (HostStep (patched addr hooks)) trackingWorld recs W) :
    Run (HostStep (patched addr hooks)) freshWorld (jobOf recs) W :=
  .cons (hostStep_patched hhook (by simp [openRecord])
    (hostStep_open [] rfl rfl (by simp [freshWorld]))) h

theorem jobOf_up (h : ∀ rec ∈ recs, Up trackingWorld.server.pid rec) :
    ∀ rec ∈ jobOf recs, Up freshWorld.server.pid rec :=
  List.forall_mem_cons.mpr ⟨up_openRecord freshWorld [] remoteHandle, h⟩

/-- The host holds the handle of its open as long as it does not close it. -/
theorem jobOf_calls
    (h : Along (fun pre rec => HostCalls (openRecord freshWorld [] remoteHandle :: pre) rec) recs) :
    Along HostCalls (jobOf recs) := by
  refine along_cons.mpr ⟨⟨trivial, trivial, ?_⟩, h⟩
  rintro x ⟨⟩

theorem jobOf_disjoint (h : ∀ rec ∈ recs, localOpens rec.trace = []) :
    ∀ s ∈ issuedHandles (jobOf recs),
      x86Deployment.clientHandle s ∉ localIssued (jobOf recs) := by
  have hnone : localIssued (jobOf recs) = [] :=
    List.flatMap_eq_nil_iff.mpr (List.forall_mem_cons.mpr ⟨rfl, h⟩)
  simp [hnone]

theorem mem_issued_jobOf : remoteHandle ∈ issuedHandles (jobOf recs) := List.mem_cons_self

end

/-- A document of one page, with three bytes of data. -/
def onePageCalls : List (CallRecord x86Deployment) :=
  [startA 1 none, startPageRecord trackingWorld trackedHandle,
    writeOnRecord trackingWorld trackedHandle [1, 2, 3] 3 ⟨1, 3⟩,
    closeRecord trackingWorld trackedHandle 1]

theorem onePageCalls_run {addr : Addresses} {hooks : minhooklink.State}
    (hhook : HooksStarted addr hooks) :
    ∃ W, Run (HostStep (patched addr hooks)) trackingWorld onePageCalls W := by
  have hclose : trackingWorld.server.spooler.Answers
      (.ClosePrinter (x86Deployment.serverHandle trackedHandle)) (1 : BOOL)
      { openHandles := [], issued := [remoteHandle] } :=
    Or.inr ⟨BOOL.one_ne_zero, List.mem_singleton_self _, rfl⟩
  exact ⟨_, .cons (hostStep_patched hhook (by simp [startA, startDocRecord]) (startA_step 1 none))
    (.cons (hostStep_patched hhook (by simp [startPageRecord])
      (hostStep_startPage rfl rfl mem_trackingWorld))
    (.cons (hostStep_patched hhook (by simp [writeOnRecord])
      (hostStep_writeOn _ _ _ rfl rfl rfl mem_trackingWorld))
    (.cons (hostStep_patched hhook (by simp [closeRecord])
      (hostStep_close rfl rfl mem_trackingWorld hclose)) (.nil _))))⟩

def addresses : Addresses where
  Detour _ := 4096
  fp _ := 8192

/-- The page arrives, with the document, the data and the close. -/
theorem a_job_of_one_page_arrives_whole :
    ∃ (hooks : minhooklink.State) (W : World x86Deployment), HooksStarted addresses hooks ∧
      Run (HostStep (patched addresses hooks)) freshWorld (jobOf onePageCalls) W ∧
      Faithful (jobOf onePageCalls) remoteHandle := by
  obtain ⟨hooks, hhook⟩ := exists_hooksStarted addresses
  obtain ⟨W, hcalls⟩ := onePageCalls_run hhook
  have hrun := jobOf_run hhook hcalls
  refine ⟨hooks, W, hhook, hrun,
    (every_job_arrives_whole_just_if_its_operations_are_carried rfl hhook hrun (jobOf_up ?_)
      (jobOf_calls ?_) (jobOf_disjoint ?_)).mpr ?_ remoteHandle mem_issued_jobOf⟩
  · simp only [onePageCalls, List.forall_mem_cons, List.not_mem_nil, false_implies, implies_true,
      and_true]
    exact ⟨up_startDocRecord _ _ _ _ _, up_startPageRecord _ _, up_writeOnRecord _ _ _ _ _,
      up_closeRecord _ _ _⟩
  · unfold onePageCalls
    rw [along_cons, along_cons, along_cons, along_cons]
    refine ⟨⟨trivial, admits_documentA (Or.inl ⟨rfl, rfl⟩), ?_⟩, ⟨trivial, trivial, ?_⟩,
      ⟨Nat.le_refl 3, trivial, ?_⟩, ⟨trivial, trivial, ?_⟩, along_nil _⟩
    all_goals rintro x ⟨⟩; exact List.mem_cons_self
  · simp only [onePageCalls, List.forall_mem_cons, List.not_mem_nil, false_implies, implies_true,
      and_true]
    exact ⟨rfl, rfl, rfl, rfl⟩
  · intro rec hrec s _ _
    refine ⟨?_, Deployment.holds_of_le (d := x86Deployment) (Nat.le_refl _) s⟩
    simp only [jobOf, onePageCalls, List.mem_cons, List.not_mem_nil, or_false] at hrec
    rcases hrec with rfl | rfl | rfl | rfl | rfl
    · exact ⟨by simp [openRecord], rfl, trivial⟩
    · exact ⟨by simp [startA, startDocRecord], rfl, by simp [documentA], rfl⟩
    · exact ⟨by simp [startPageRecord], rfl, trivial⟩
    · exact ⟨by simp [writeOnRecord], rfl, trivial⟩
    · exact ⟨by simp [closeRecord], rfl, trivial⟩

/-- An `EndDocPrinter` does not arrive. -/
theorem a_job_can_lose_its_end :
    ¬ ∀ (d : Deployment) (W W' : World d) (recs : List (CallRecord d)) (addr : Addresses)
      (hooks : minhooklink.State), W.bxprinters = [] → HooksStarted addr hooks →
      Run (HostStep (patched addr hooks)) W recs W' → (∀ rec ∈ recs, Up W.server.pid rec) →
      Along HostCalls recs →
      (∀ s ∈ issuedHandles recs, d.clientHandle s ∉ localIssued recs) →
      ∀ s ∈ issuedHandles recs, Faithful recs s := by
  intro law
  obtain ⟨hooks, hhook⟩ := exists_hooksStarted addresses
  have hfaithful := law _ _ _ (jobOf [endDocRecord trackingWorld trackedHandle]) addresses hooks
    rfl hhook (jobOf_run hhook (.cons (hostStep_endDoc hhook _ trackedHandle) (.nil _)))
    (jobOf_up ?_) (jobOf_calls ?_) (jobOf_disjoint ?_) remoteHandle mem_issued_jobOf
  · have hlocal : localOps trackedHandle (jobOf [endDocRecord trackingWorld trackedHandle]) ≠ [] :=
      List.cons_ne_nil _ _
    exact hlocal hfaithful.2
  · rintro rec hrec o ho
    cases List.mem_singleton.mp hrec
    cases List.mem_singleton.mp ho
    exact ⟨rfl, trivial⟩
  · refine along_cons.mpr ⟨⟨trivial, trivial, ?_⟩, along_nil _⟩
    rintro x ⟨⟩
    exact List.mem_cons_self
  · rintro rec hrec
    cases List.mem_singleton.mp hrec
    rfl

end RemotePrinter
