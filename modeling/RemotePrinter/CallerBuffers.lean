-- The buffer of a caller of `EnumPrintersW` or `GetPrinterW`: which bytes a detour
-- writes, and what is in the buffer after a FALSE.
import RemotePrinter.PrinterQueries

open Interactive ByteMemory

namespace RemotePrinter

/-! ## What a caller relies on -/

/-- A run that writes to the first `cbBuf` bytes of the buffer only, takes bytes of the reply
only, and does not answer FALSE after it has changed the buffer. -/
structure RunInside {w w' : PtrWidth} (cbBuf : Nat) (S : QueryState w')
    (tr : List (Obs (QueryClientOp w) QueryClientOp.Answer Unit))
    (r : Except QueryAbnormal QueryResult) (S' : QueryState w') : Prop where
  inside : ∀ o ∈ tr, o.op.Inside cbBuf
  nonnull : r ≠ .error .nullWrite
  unchanged : Forwarded tr → ∀ v, r = .ok v → v.ret = 0 → S'.memory = S.memory

def StaysInside {w w' : PtrWidth} (srv : Server w') (lossy : Prop) (cbBuf : Nat)
    (S : QueryState w') (p : QueryClient w QueryResult) : Prop :=
  ∀ tr r S', p.RunsIn (QueryState.env srv lossy) S tr r S' → RunInside cbBuf S tr r S'

/-- Where the last pointer ends that is stored into a structure. -/
def storedEnd (w : PtrWidth) (info : List (InfoField × FieldType)) (fields : List InfoField) :
    Nat :=
  (fields.map fun f => offsetOf w info f + w.bytes).foldr max 0

theorem storedEnd_le {w : PtrWidth} {info : List (InfoField × FieldType)} {fields : List InfoField}
    {n : Nat} :
    storedEnd w info fields ≤ n ↔ ∀ f ∈ fields, offsetOf w info f + w.bytes ≤ n := by
  unfold storedEnd
  induction fields with
  | nil => simp
  | cons f fields ih =>
    rw [List.map_cons, List.foldr_cons, Nat.max_le, ih, List.forall_mem_cons]

example : storedEnd .x86 PRINTER_INFO_2 (getPrinterFields ++ [.pSecurityDescriptor]) = 52 ∧
    storedEnd .x64 PRINTER_INFO_2 (enumPrintersFields 2) = 96 ∧
    storedEnd .x86 PRINTER_INFO_1 (enumPrintersFields 1) = 16 := by
  decide

section
variable {w w' : PtrWidth} {srv : Server w'} {lossy : Prop} {fp : Proc → Bool} {cbBuf : Nat}
  {S S' : QueryState w'} {tr : List (Obs (QueryClientOp w) QueryClientOp.Answer Unit)}
  {r : Except QueryAbnormal QueryResult}

open QueryDetour

/-- The local function is called with no write of the detour, so only forwarded runs matter. -/
theorem staysInside_orBypass {c : QueryCall w} {forward : QueryClient w QueryResult} :
    StaysInside srv lossy cbBuf S (orBypass c forward) ↔
      ∀ tr r S', (orBypass c forward).RunsIn (QueryState.env srv lossy) S tr r S' ∧ Forwarded tr →
        RunInside cbBuf S tr r S' := by
  constructor
  · intro h tr r S' hrun
    exact h tr r S' hrun.1
  · intro h tr r S' hrun
    rcases orBypass_runsIn.mp hrun with hfwd | ⟨-, tr', ⟨a, l, S₁, tr'', -, rfl, rfl, rfl, -⟩, rfl⟩
    · exact h tr r S' (orBypass_forwarded.mpr hfwd)
    · refine ⟨?_, by simp, ?_⟩
      · simp [QueryClientOp.Inside]
      · simp [Forwarded]

/-- A call that throws writes nothing. -/
theorem RunInside.of_thrown {q : QueryRequest} (h : Thrown q S tr r S') :
    RunInside cbBuf S tr r S' := by
  obtain ⟨x, rfl, rfl, -⟩ := h
  refine ⟨by simp [QueryClientOp.Inside], by simp, ?_⟩
  intro _ v hv
  cases hv

theorem storeObs_inside {stores : List (Nat × HANDLE w)} {n : Nat} :
    (∀ o ∈ storeObs stores, o.op.Inside n) ↔ ∀ s ∈ stores, s.1 + w.bytes ≤ n := by
  unfold storeObs
  rw [List.forall_mem_map]
  exact Iff.rfl

theorem relocations_inside {info : List (InfoField × FieldType)} {fields : List InfoField}
    {n : Nat} (address : HANDLE w) (map : StdMap I32) :
    (∀ o ∈ storeObs (relocations address info fields map), o.op.Inside n) ↔
      storedEnd w info fields ≤ n := by
  rw [storeObs_inside, storedEnd_le]
  simp [relocations]

theorem printerStores_inside {n : Nat} (address : HANDLE w) (a : ArgGetPrinterW) :
    (∀ o ∈ storeObs (printerStores a address), o.op.Inside n) ↔
      storedEnd w PRINTER_INFO_2 (getPrinterFields ++ [.pSecurityDescriptor]) ≤ n := by
  rw [storeObs_inside, storedEnd_le]
  simp [printerStores, relocations, or_imp, forall_and]

/-! ## `GetPrinterW` -/

variable {hPrinter : HANDLE w} {Flags Level size : DWORD} {Name : Option Bytes}
  {pcbNeeded pcReturned : Bool} {t : ServerThread w'}

/-- A refusal leaves the buffer alone. -/
theorem printer_refused_inside {pPrinter : Option (Buffer w)} {a : ArgGetPrinterW}
    (hfp : fp .GetPrinterW = true)
    (hans : srv.answers (.GetPrinterW (printerArg hPrinter Level size)) S.server =
      (some (.ok a), t)) (hret : a.ret = false) :
    StaysInside srv lossy cbBuf S
      (DetourGetPrinterW fp hPrinter Level pPrinter size pcbNeeded) := by
  apply staysInside_orBypass.mpr
  intro tr r S' hrun
  rcases (DetourGetPrinterW_refused hfp hans hret).mp hrun with ⟨-, hx⟩ | ⟨rfl, rfl, rfl⟩
  · exact .of_thrown hx
  · exact ⟨by simp [QueryClientOp.Inside], by simp, fun _ _ _ _ => rfl⟩

/-- So does a request that the server does not answer. -/
theorem printer_abort_inside {pPrinter : Option (Buffer w)} {x : HandlerAbort}
    (hfp : fp .GetPrinterW = true)
    (hans : srv.answers (.GetPrinterW (printerArg hPrinter Level size)) S.server =
      (some (.error x), t)) :
    StaysInside srv lossy cbBuf S
      (DetourGetPrinterW fp hPrinter Level pPrinter size pcbNeeded) := by
  apply staysInside_orBypass.mpr
  intro tr r S' hrun
  unfold forwardGetPrinterW at hrun
  rw [if_neg (by simp [hfp]), forwarded_of_abort hans] at hrun
  exact .of_thrown hrun

/-- With a printer in the reply, the stores decide. -/
theorem printer_filled_inside {b : Buffer w} {a : ArgGetPrinterW} (hfp : fp .GetPrinterW = true)
    (hans : srv.answers (.GetPrinterW (printerArg hPrinter 2 size)) S.server = (some (.ok a), t))
    (hret : a.ret = true)
    (hlen : ApiForwardHandler.sizeOfInt w a.pcbNeeded ≤ a.pPrinter.length)
    (hsize : a.pPrinter.length = cbBuf) :
    StaysInside srv lossy cbBuf S (DetourGetPrinterW fp hPrinter 2 (some b) size pcbNeeded) ↔
      storedEnd w PRINTER_INFO_2 (getPrinterFields ++ [.pSecurityDescriptor]) ≤ cbBuf := by
  rw [← printerStores_inside b.address a]
  constructor
  · intro h o ho
    have hrun : (DetourGetPrinterW fp hPrinter 2 (some b) size pcbNeeded).RunsIn
        (QueryState.env srv lossy) S _ _ _ ∧ Forwarded _ :=
      (DetourGetPrinterW_filled hfp hans hret hlen).mpr (Or.inr ⟨rfl, rfl, rfl⟩)
    exact (h _ _ _ hrun.1).inside o (List.mem_append_right _ ho)
  · intro h
    apply staysInside_orBypass.mpr
    intro tr r S' hrun
    rcases (DetourGetPrinterW_filled hfp hans hret hlen).mp hrun with ⟨-, hx⟩ | ⟨rfl, rfl, rfl⟩
    · exact .of_thrown hx
    · refine ⟨?_, by simp, ?_⟩
      · intro o ho
        rcases List.mem_append.mp ho with ho | ho
        · have hcopy : ApiForwardHandler.sizeOfInt w a.pcbNeeded ≤ cbBuf := by omega
          simp only [List.mem_cons, List.not_mem_nil, or_false] at ho
          rcases ho with rfl | rfl | rfl | rfl
          · trivial
          · trivial
          · trivial
          · exact ⟨hcopy, hlen⟩
        · exact h o ho
      · intro _ v hv h0
        cases hv
        simp at h0

/-- A caller without a buffer has the structure written to NULL. -/
theorem printer_null_runs {a : ArgGetPrinterW} (lossy : Prop) (pcbNeeded : Bool)
    (hfp : fp .GetPrinterW = true)
    (hans : srv.answers (.GetPrinterW (printerArg hPrinter 2 size)) S.server = (some (.ok a), t))
    (hret : a.ret = true) :
    ∃ tr S', (DetourGetPrinterW fp hPrinter 2 none size pcbNeeded).RunsIn
      (QueryState.env srv lossy) S tr (.error .nullWrite) S' := by
  refine ⟨[⟨.ensure_connection, true, ()⟩,
    ⟨.api (.GetPrinterW (printerArg hPrinter 2 size)), .ok a, ()⟩,
    ⟨.SetLastError a.lasterror, (), ()⟩], { S with lastError := a.lasterror, server := t }, ?_⟩
  unfold DetourGetPrinterW forwardGetPrinterW
  rw [if_neg (by simp [hfp])]
  refine ((forwarded_of_answer hans).mpr (Or.inr
    ⟨[⟨.SetLastError a.lasterror, (), ()⟩], ?_, rfl⟩)).1
  refine SetLastError_runsIn.mpr ⟨[], ?_, rfl⟩
  rw [if_pos hret]
  unfold QueryDetour.memcpy storeFields
  dsimp only
  by_cases hn : ApiForwardHandler.sizeOfInt w a.pcbNeeded = 0
  · simp [hn, Prog.RunsIn]
  · simp [hn, Prog.RunsIn]

/-- A detour without a local function writes nothing. -/
theorem printer_unhooked_inside {pPrinter : Option (Buffer w)} (hfp : fp .GetPrinterW = false) :
    StaysInside srv lossy cbBuf S
      (DetourGetPrinterW fp hPrinter Level pPrinter size pcbNeeded) := by
  apply staysInside_orBypass.mpr
  intro tr r S' hrun
  obtain ⟨rfl, rfl, rfl⟩ := (DetourGetPrinterW_unhooked hfp).mp hrun
  exact ⟨by simp [QueryClientOp.Inside], by simp, fun _ _ _ _ => rfl⟩

/-- `GetPrinterW` stays inside the buffer just if a printer of level 2 comes to a caller with
room for the pointers. -/
theorem printer_staysInside (srv : Server w') (lossy : Prop) (fp : Proc → Bool)
    (hPrinter : HANDLE w) (Level size : DWORD) (pPrinter : Option (Buffer w)) (pcbNeeded : Bool)
    (S : QueryState w') {q : QueryRet}
    (hq : q = srv.spool (srv.printerCall (printerArg hPrinter Level size)))
    (hneeded : q.ret ≠ 0 → q.count.toNat ≤ size.toNat) :
    StaysInside srv lossy size.toNat S
        (DetourGetPrinterW fp hPrinter Level pPrinter size pcbNeeded) ↔
      (fp .GetPrinterW = true → srv.fp .GetPrinterW = true → size.toNat < 2 ^ 31 → q.ret ≠ 0 →
        Level = 2 → pPrinter.isSome = true ∧
          storedEnd w PRINTER_INFO_2 (getPrinterFields ++ [.pSecurityDescriptor]) ≤
            size.toNat) := by
  cases hfp : fp .GetPrinterW with
  | false => exact iff_of_true (printer_unhooked_inside hfp) (by simp)
  | true =>
  cases hsrv : srv.fp .GetPrinterW with
  | false =>
    have hans :=
      answers_of_missing (q := .GetPrinterW (printerArg hPrinter Level size)) hsrv S.server
    exact iff_of_true (printer_refused_inside hfp hans rfl) (by simp)
  | true =>
  have hans := answers_GetPrinterW hsrv (printerArg hPrinter Level size) S.server
  have hlevel : (printerArg hPrinter Level size).Level = Level := rfl
  have hcbBuf : (printerArg hPrinter Level size).cbBuf = size := rfl
  unfold Server.printerReply at hans
  rw [← hq, hlevel, hcbBuf] at hans
  by_cases hsize : size.toNat < 2 ^ 31
  · rw [if_pos hsize] at hans
    by_cases hret : q.ret ≠ 0
    · rw [if_pos ((BOOL.toBool_eq_true _).mpr hret)] at hans
      by_cases hl : Level = 2
      · subst hl
        have hcount := hneeded hret
        cases pPrinter with
        | none =>
          refine iff_of_false (fun h => ?_) fun h => by simpa using (h rfl rfl hsize hret rfl).1
          obtain ⟨tr, S', hrun⟩ := printer_null_runs lossy pcbNeeded hfp hans rfl
          exact (h _ _ _ hrun).nonnull rfl
        | some b =>
          rw [printer_filled_inside hfp hans rfl]
          · exact ⟨fun h _ _ _ _ _ => ⟨rfl, h⟩, fun h => (h rfl rfl hsize hret rfl).2⟩
          · rw [sizeOfInt_of_lt (by dsimp only; omega)]
            simpa using hcount
          · simp
      · exact iff_of_true (printer_refused_inside hfp hans (decide_eq_false hl))
          fun _ _ _ _ h => absurd h hl
    · rw [if_neg ((BOOL.toBool_eq_true _).not.mpr hret)] at hans
      exact iff_of_true (printer_refused_inside hfp hans rfl) fun _ _ _ h => absurd h hret
  · rw [if_neg hsize] at hans
    exact iff_of_true (printer_abort_inside hfp hans) fun _ _ h => absurd h hsize

/-! ## `EnumPrintersW` -/

/-- A detour without a local function writes nothing. -/
theorem printers_unhooked_inside {pPrinterEnum : Option (Buffer w)}
    (hfp : fp .EnumPrintersW = false) :
    StaysInside srv lossy cbBuf S
      (DetourEnumPrintersW fp Flags Name Level pPrinterEnum size pcbNeeded pcReturned) := by
  apply staysInside_orBypass.mpr
  intro tr r S' hrun
  obtain ⟨rfl, rfl, rfl⟩ := (DetourEnumPrintersW_unhooked hfp).mp hrun
  exact ⟨by simp [QueryClientOp.Inside], by simp, fun _ _ _ _ => rfl⟩

/-- Nothing is written after a refusal, or without a buffer. -/
theorem printers_refused_inside {pPrinterEnum : Option (Buffer w)} {a : ArgEnumPrintersW}
    (hfp : fp .EnumPrintersW = true)
    (hans : srv.answers (.EnumPrintersW (printersArg Flags Name Level size)) S.server =
      (some (.ok a), t)) (hret : ¬ (a.ret = true ∧ pPrinterEnum.isSome = true)) :
    StaysInside srv lossy cbBuf S
      (DetourEnumPrintersW fp Flags Name Level pPrinterEnum size pcbNeeded pcReturned) := by
  apply staysInside_orBypass.mpr
  intro tr r S' hrun
  rcases (DetourEnumPrintersW_refused hfp hans hret).mp hrun with ⟨-, hx⟩ | ⟨rfl, rfl, rfl⟩
  · exact .of_thrown hx
  · exact ⟨by simp [QueryClientOp.Inside], by simp, fun _ _ _ _ => rfl⟩

/-- Nothing is written after a request that the server does not answer. -/
theorem printers_abort_inside {pPrinterEnum : Option (Buffer w)} {x : HandlerAbort}
    (hfp : fp .EnumPrintersW = true)
    (hans : srv.answers (.EnumPrintersW (printersArg Flags Name Level size)) S.server =
      (some (.error x), t)) :
    StaysInside srv lossy cbBuf S
      (DetourEnumPrintersW fp Flags Name Level pPrinterEnum size pcbNeeded pcReturned) := by
  apply staysInside_orBypass.mpr
  intro tr r S' hrun
  unfold forwardEnumPrintersW at hrun
  rw [if_neg (by simp [hfp]), forwarded_of_abort hans] at hrun
  exact .of_thrown hrun

/-- With printers in the reply, the stores decide. -/
theorem printers_filled_inside {b : Buffer w} {a : ArgEnumPrintersW}
    {info : List (InfoField × FieldType)} (hfp : fp .EnumPrintersW = true)
    (hans : srv.answers (.EnumPrintersW (printersArg Flags Name Level size)) S.server =
      (some (.ok a), t)) (hret : a.ret = true) (hinfo : printerInfo Level = some info)
    (hlen : size.toNat ≤ a.pPrinterEnum.length) :
    StaysInside srv lossy size.toNat S
        (DetourEnumPrintersW fp Flags Name Level (some b) size pcbNeeded pcReturned) ↔
      storedEnd w info (enumPrintersFields Level) ≤ size.toNat := by
  rw [← relocations_inside b.address a.int32PrinterEnum]
  constructor
  · intro h o ho
    have hrun : (DetourEnumPrintersW fp Flags Name Level (some b) size pcbNeeded pcReturned).RunsIn
        (QueryState.env srv lossy) S _ _ _ ∧ Forwarded _ :=
      (DetourEnumPrintersW_filled hfp hans hret hinfo hlen).mpr (Or.inr ⟨rfl, rfl, rfl⟩)
    exact (h _ _ _ hrun.1).inside o (List.mem_append_right _ ho)
  · intro h
    apply staysInside_orBypass.mpr
    intro tr r S' hrun
    rcases (DetourEnumPrintersW_filled hfp hans hret hinfo hlen).mp hrun with
      ⟨-, hx⟩ | ⟨rfl, rfl, rfl⟩
    · exact .of_thrown hx
    · refine ⟨?_, by simp, ?_⟩
      · intro o ho
        rcases List.mem_append.mp ho with ho | ho
        · simp only [List.mem_cons, List.not_mem_nil, or_false] at ho
          rcases ho with rfl | rfl | rfl
          · trivial
          · trivial
          · exact ⟨Nat.le_refl _, hlen⟩
        · exact h o ho
      · intro _ v hv h0
        cases hv
        simp [printersResult] at h0

/-- With no printers of a level that the client does not know, the copied bytes decide. -/
theorem printers_unknown_inside {b : Buffer w} {a : ArgEnumPrintersW}
    (hfp : fp .EnumPrintersW = true)
    (hans : srv.answers (.EnumPrintersW (printersArg Flags Name Level size)) S.server =
      (some (.ok a), t)) (hret : a.ret = true) (hinfo : printerInfo Level = none)
    (hlen : a.pPrinterEnum.length = size.toNat) :
    StaysInside srv lossy size.toNat S
        (DetourEnumPrintersW fp Flags Name Level (some b) size pcbNeeded pcReturned) ↔
      a.pPrinterEnum = S.memory.read 0 size.toNat := by
  have htake : a.pPrinterEnum.take size.toNat = a.pPrinterEnum := by
    rw [← hlen, List.take_length]
  rw [← hlen, ← Mem.write_eq_self]
  constructor
  · intro h
    have hrun : (DetourEnumPrintersW fp Flags Name Level (some b) size pcbNeeded pcReturned).RunsIn
        (QueryState.env srv lossy) S _ _ _ ∧ Forwarded _ :=
      (DetourEnumPrintersW_unknown hfp hans hret hinfo (Nat.le_of_eq hlen.symm)).mpr
        (Or.inr ⟨rfl, rfl, rfl⟩)
    have hsame := (hlen ▸ h _ _ _ hrun.1).unchanged hrun.2 _ rfl rfl
    simpa only [htake] using hsame
  · intro h
    apply staysInside_orBypass.mpr
    intro tr r S' hrun
    rcases (DetourEnumPrintersW_unknown hfp hans hret hinfo (Nat.le_of_eq hlen.symm)).mp hrun with
      ⟨-, hx⟩ | ⟨rfl, rfl, rfl⟩
    · exact .of_thrown hx
    · refine ⟨?_, by simp, ?_⟩
      · intro o ho
        simp only [List.mem_cons, List.not_mem_nil, or_false] at ho
        rcases ho with rfl | rfl | rfl
        · trivial
        · trivial
        · exact ⟨Nat.le_of_eq hlen.symm, Nat.le_of_eq hlen.symm⟩
      · intro _ _ _ _
        dsimp only
        rw [htake, h]

/-- What the level decides about an answer `q` of the server that is not FALSE. -/
def PrintersFit (w : PtrWidth) (Level : DWORD) (size : Nat) (q : QueryRet) (m : Mem) : Prop :=
  match printerInfo Level with
  | some info => storedEnd w info (enumPrintersFields Level) ≤ size
  | none => q.returned ≠ 0 ∨ q.memory.read 0 size = m.read 0 size

/-- `EnumPrintersW` stays inside the buffer just if an answer that is not FALSE has a level that
the client knows, with room for the pointers of one structure, or an unknown level with printers,
or with the bytes that the buffer has already. -/
theorem printers_staysInside (srv : Server w') (lossy : Prop) (fp : Proc → Bool) (Flags : DWORD)
    (Name : Option Bytes) (Level size : DWORD) (pPrinterEnum : Option (Buffer w))
    (pcbNeeded pcReturned : Bool) (S : QueryState w') {q : QueryRet}
    (hq : q = srv.spool (srv.printersCall (printersArg Flags Name Level size))) :
    StaysInside srv lossy size.toNat S
        (DetourEnumPrintersW fp Flags Name Level pPrinterEnum size pcbNeeded pcReturned) ↔
      (fp .EnumPrintersW = true → srv.fp .EnumPrintersW = true → size.toNat < 2 ^ 31 →
        q.ret ≠ 0 → pPrinterEnum.isSome = true → PrintersFit w Level size.toNat q S.memory) := by
  cases hfp : fp .EnumPrintersW with
  | false => exact iff_of_true (printers_unhooked_inside hfp) (by simp)
  | true =>
  cases hsrv : srv.fp .EnumPrintersW with
  | false =>
    have hans :=
      answers_of_missing (q := .EnumPrintersW (printersArg Flags Name Level size)) hsrv S.server
    exact iff_of_true (printers_refused_inside hfp hans (by simp [QueryRequest.failure])) (by simp)
  | true =>
  have hans := answers_EnumPrintersW hsrv (printersArg Flags Name Level size) S.server
  have hlevel : (printersArg Flags Name Level size).Level = Level := rfl
  have hcbBuf : (printersArg Flags Name Level size).cbBuf = size := rfl
  rw [← hq, hcbBuf] at hans
  by_cases hsize : size.toNat < 2 ^ 31
  · rw [if_pos hsize] at hans
    have hlen : (srv.printersReply (printersArg Flags Name Level size) q).pPrinterEnum.length =
      size.toNat := Mem.length_read _ _ _
    by_cases hret : q.ret ≠ 0
    · cases pPrinterEnum with
      | none =>
        exact iff_of_true (printers_refused_inside hfp hans (by simp)) fun _ _ _ _ h => by simp at h
      | some b =>
        unfold PrintersFit
        cases hinfo : printerInfo Level with
        | some info =>
          have htrue : (srv.printersReply (printersArg Flags Name Level size) q).ret = true :=
            Server.printersReply_ret.mpr ⟨hret, Or.inr (by rw [hlevel, hinfo]; rfl)⟩
          rw [printers_filled_inside hfp hans htrue hinfo (Nat.le_of_eq hlen.symm)]
          exact ⟨fun h _ _ _ _ _ => h, fun h => h rfl rfl hsize hret rfl⟩
        | none =>
          by_cases h0 : q.returned = 0
          · have htrue : (srv.printersReply (printersArg Flags Name Level size) q).ret = true :=
              Server.printersReply_ret.mpr ⟨hret, Or.inl h0⟩
            rw [printers_unknown_inside hfp hans htrue hinfo hlen]
            exact ⟨fun h _ _ _ _ _ => Or.inr h,
              fun h => (h rfl rfl hsize hret rfl).resolve_left (not_not.mpr h0)⟩
          · have hfalse :
                ¬ (srv.printersReply (printersArg Flags Name Level size) q).ret = true := by
              intro htrue
              have hknown := (Server.printersReply_ret.mp htrue).2.resolve_left h0
              rw [hlevel, hinfo] at hknown
              cases hknown
            exact iff_of_true (printers_refused_inside hfp hans fun h => hfalse h.1)
              fun _ _ _ _ _ => Or.inl h0
    · have hfalse : ¬ (srv.printersReply (printersArg Flags Name Level size) q).ret = true :=
        fun htrue => hret (Server.printersReply_ret.mp htrue).1
      exact iff_of_true (printers_refused_inside hfp hans fun h => hfalse h.1)
        fun _ _ _ h => absurd h hret
  · rw [if_neg hsize] at hans
    exact iff_of_true (printers_abort_inside hfp hans) fun _ _ h => absurd h hsize

end

/-- A spooler that succeeds needs no more bytes than it was given. -/
def Server.ObeysSizes {w : PtrWidth} (srv : Server w) : Prop :=
  ∀ hPrinter Level b cbBuf pcbNeeded,
    let r := srv.spool (.GetPrinterW hPrinter Level b cbBuf pcbNeeded)
    r.ret ≠ 0 → r.count.toNat ≤ cbBuf.toNat

/-- The detours of the queries stay inside the caller's buffer just if the answer of the server,
unless it is FALSE, leaves room for what they store. -/
theorem queries_stay_inside_just_if_the_answer_fits {w w' : PtrWidth} (srv : Server w')
    (lossy : Prop) (fp : Proc → Bool) (S : QueryState w') (hspool : srv.ObeysSizes) :
    (∀ (Flags : DWORD) (Name : Option Bytes) (Level cbBuf : DWORD)
      (pPrinterEnum : Option (Buffer w)) (pcbNeeded pcReturned : Bool),
      let q := srv.spool (srv.printersCall (QueryDetour.printersArg Flags Name Level cbBuf))
      StaysInside srv lossy cbBuf.toNat S (QueryDetour.DetourEnumPrintersW fp Flags Name Level
          pPrinterEnum cbBuf pcbNeeded pcReturned) ↔
        (fp .EnumPrintersW = true → srv.fp .EnumPrintersW = true → cbBuf.toNat < 2 ^ 31 →
          q.ret ≠ 0 → pPrinterEnum.isSome = true →
            PrintersFit w Level cbBuf.toNat q S.memory)) ∧
    (∀ (hPrinter : HANDLE w) (Level cbBuf : DWORD) (pPrinter : Option (Buffer w))
      (pcbNeeded : Bool),
      let q := srv.spool (srv.printerCall (QueryDetour.printerArg hPrinter Level cbBuf))
      StaysInside srv lossy cbBuf.toNat S (QueryDetour.DetourGetPrinterW fp hPrinter Level
          pPrinter cbBuf pcbNeeded) ↔
        (fp .GetPrinterW = true → srv.fp .GetPrinterW = true → cbBuf.toNat < 2 ^ 31 →
          q.ret ≠ 0 → Level = 2 → pPrinter.isSome = true ∧
            storedEnd w PRINTER_INFO_2 (getPrinterFields ++ [.pSecurityDescriptor]) ≤
              cbBuf.toNat)) := by
  constructor
  · intro Flags Name Level cbBuf pPrinterEnum pcbNeeded pcReturned
    exact printers_staysInside srv lossy fp Flags Name Level cbBuf pPrinterEnum pcbNeeded
      pcReturned S rfl
  · intro hPrinter Level cbBuf pPrinter pcbNeeded
    exact printer_staysInside srv lossy fp hPrinter Level cbBuf pPrinter pcbNeeded S rfl
      (hspool _ _ _ _ _)

/-! ## A spooler without printers -/

/-- A server that succeeds with zero printers, whatever it is asked for. -/
def emptyServer : Server .x86 := .plain .x86 fun _ => { ret := 1, memory := Mem.ofBytes [] }

/-- In sixteen bytes there is room for the pointers of a `PRINTER_INFO_1`. -/
theorem no_printers_fit_sixteen_bytes :
    StaysInside emptyServer False 16 ⟨Mem.ofBytes [], 0, ⟨0, []⟩⟩
      (QueryDetour.DetourEnumPrintersW (fun _ => true) 0 none 1
        (some (zeroBuffer 16 (by decide))) 16 true true) :=
  ((queries_stay_inside_just_if_the_answer_fits emptyServer False (fun _ => true)
    ⟨Mem.ofBytes [], 0, ⟨0, []⟩⟩ fun _ _ _ _ _ _ => Nat.zero_le _).1 0 none 1 16
      (some (zeroBuffer 16 (by decide))) true true).mpr fun _ _ _ _ _ => by
        change storedEnd .x86 PRINTER_INFO_1 (enumPrintersFields 1) ≤ 16
        decide

/-- A caller that declares no bytes has pointers stored behind its buffer. -/
theorem no_printers_do_not_fit_no_bytes :
    emptyServer.ObeysSizes ∧
      ¬ StaysInside emptyServer False 0 ⟨Mem.ofBytes [], 0, ⟨0, []⟩⟩
        (QueryDetour.DetourEnumPrintersW (fun _ => true) 0 none 1
          (some (zeroBuffer 0 (by decide))) 0 true true) := by
  refine ⟨fun _ _ _ _ _ _ => Nat.zero_le _, fun h => ?_⟩
  have hfit : storedEnd .x86 PRINTER_INFO_1 (enumPrintersFields 1) ≤ 0 :=
    (printers_staysInside emptyServer False (fun _ => true) 0 none 1 0
    (some (zeroBuffer 0 (by decide))) true true _ rfl).mp h rfl rfl (by decide) (by decide) rfl
  exact absurd hfit (by decide)

end RemotePrinter
