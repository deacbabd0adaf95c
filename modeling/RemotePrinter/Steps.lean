-- Calls that can happen: for each kind of course, a world in which a call takes
-- it, with what is observed and the world after it.
import RemotePrinter.Courses

open Interactive

namespace RemotePrinter

variable {d : Deployment}

theorem BOOL.one_ne_zero : (1 : BOOL) ≠ 0 := by decide

/-! ## Operations -/

/-- The note of an operation that the server has no part in. -/
def World.idle (W : World d) : Served d := { pid := W.server.pid }

/-- An operation during which the server process goes on. -/
theorem World.env_of_acts {W W' : World d} {op : ClientOp d.client} {a : op.Answer}
    {n : Served d} (hpid : n.pid = W.server.pid) (h : W.Acts op a n W') :
    World.env W op a n W' := ⟨W.server, .refl _, hpid, h⟩

theorem World.idle_idle (W : World d) : W.idle.Idle := ⟨rfl, rfl⟩

theorem World.env_connected {W : World d} (hc : W.connected ≠ none) :
    World.env W .ensure_connection true W.idle W :=
  World.env_of_acts rfl ⟨W.idle_idle, Or.inl ⟨rfl, Or.inl ⟨hc, rfl⟩⟩⟩

theorem World.env_disconnected (W : World d) :
    World.env W .ensure_connection false W.idle { W with connected := none } :=
  World.env_of_acts rfl ⟨W.idle_idle, Or.inr ⟨rfl, rfl⟩⟩

/-- The registry may answer either way. -/
theorem World.env_named (W : World d) (name : Bytes) (b : Bool) :
    World.env W (.isBixolonPrinterByName name) b W.idle W :=
  World.env_of_acts rfl ⟨W.idle_idle, rfl⟩

theorem World.env_tracked {W : World d} {h : HANDLE d.client} (hb : h ∈ W.bxprinters) :
    World.env W (.isBixolonPrinterByHandle h) true W.idle W := by
  apply World.env_of_acts rfl
  exact ⟨W.idle_idle, by simpa using hb, rfl⟩

theorem World.env_untracked {W : World d} {h : HANDLE d.client} (hb : h ∉ W.bxprinters) :
    World.env W (.isBixolonPrinterByHandle h) false W.idle W := by
  apply World.env_of_acts rfl
  refine ⟨W.idle_idle, ?_, rfl⟩
  rw [eq_comm, Bool.eq_false_iff]
  simpa using hb

theorem World.env_added (W : World d) (h : HANDLE d.client) :
    World.env W (.addBixolonPrinter h) true W.idle
      { W with bxprinters := W.bxprinters ++ [h] } :=
  World.env_of_acts rfl ⟨W.idle_idle, rfl, rfl⟩

theorem World.env_removed (W : World d) (h : HANDLE d.client) :
    World.env W (.closeBixolonPrinter h) () W.idle
      { W with bxprinters := bxprinters.closeBixolonPrinter W.bxprinters h } :=
  World.env_of_acts rfl ⟨W.idle_idle, rfl⟩

theorem World.env_local {W : World d} {c : SpoolCall (HANDLE d.client)} {r : c.Ret}
    {sp : Spooler (HANDLE d.client)} (h : W.winspool.Answers c r sp) :
    World.env W (.original c) r W.idle { W with winspool := sp } :=
  World.env_of_acts rfl ⟨W.idle_idle, sp, h, rfl⟩

theorem fpOriginal_run {W : World d} {c : SpoolCall (HANDLE d.client)} {r : c.Ret}
    {sp : Spooler (HANDLE d.client)} (h : W.winspool.Answers c r sp) :
    (fpOriginal c).RunsIn World.env W [⟨.original c, r, W.idle⟩] (.ok r)
      { W with winspool := sp } :=
  .next (World.env_local h) (.ended _ _)

/-- A handler that passes its tests, and the answer of the one call that it makes. -/
theorem ApiForwardHandler.runsIn_handle {w : PtrWidth} {σ ℓ : Type}
    (env : Env (SpoolCall (HANDLE w)) SpoolCall.Ret ℓ σ) (fp : Proc → Bool) (q : SpoolRequest)
    {r : (q.original w).Ret} {l : ℓ} {s s' : σ} (ht : fp q.tested = true)
    (ho : fp (q.original w).proc = true) (h : env s (q.original w) r l s') :
    (handle w fp q).RunsIn env s [⟨q.original w, r, l⟩] (.ok (q.pack w r)) s' := by
  rw [handle_eq]
  unfold guarded callOriginal
  rw [if_pos ht, if_pos ho]
  exact .next h (.ended _ _)

/-- The world after the server carried out a call. -/
def World.withSpooler (W : World d) (sp : Spooler (HANDLE d.server)) : World d :=
  { W with server := { W.server with spooler := sp } }

/-- What is observed of a request that the server carries out. -/
def carriedOut (W : World d) (q : SpoolRequest) (r : (q.original d.server).Ret) : Observed d :=
  ⟨.api (.spool q), .ok (q.pack d.server r),
    { pid := W.server.pid, handled := true, calls := [⟨q.original d.server, r, ()⟩] }⟩

theorem World.env_carriedOut {W : World d} {q : SpoolRequest} {r : (q.original d.server).Ret}
    {sp : Spooler (HANDLE d.server)} (hc : W.connected = some W.server.pid)
    (ht : W.server.fp q.tested = true) (ho : W.server.fp (q.original d.server).proc = true)
    (h : W.server.spooler.Answers (q.original d.server) r sp) :
    World.env W (.api (.spool q)) (carriedOut W q r).answer (carriedOut W q r).note
      (W.withSpooler sp) :=
  World.env_of_acts rfl
    ⟨hc, rfl, sp, ApiForwardHandler.runsIn_handle Spooler.env W.server.fp q ht ho h, rfl⟩

def World.opened (W : World d) (h : HANDLE d.server) : World d :=
  { W with
    bxprinters := W.bxprinters ++ [d.clientHandle h]
    server := { W.server with
      spooler := { openHandles := h :: W.server.spooler.openHandles
                   issued := h :: W.server.spooler.issued } } }

/-! ## Calls

The steps that runs are built from. -/

/-- An open of a Bixolon printer that the server carries out. -/
def openRecord (W : World d) (name : Bytes) (h : HANDLE d.server) : CallRecord d where
  call := .OpenPrinterA (some name) true none
  trace := [⟨.ensure_connection, true, W.idle⟩,
    ⟨.isBixolonPrinterByName (cString name), true, W.idle⟩,
    carriedOut W (.OpenPrinterA (cString name) false [] [] 0) { ret := 1, phPrinter := some h },
    ⟨.addBixolonPrinter (d.clientHandle h), true, W.idle⟩]
  result := .ok { ret := 1, phPrinter := some (d.clientHandle h) }

theorem hostStep_open {W : World d} {h : HANDLE d.server} (name : Bytes)
    (hc : W.connected = some W.server.pid) (ht : W.server.fp .OpenPrinterA = true)
    (hfresh : h ∉ W.server.spooler.openHandles) :
    HostStep detour W (openRecord W name h) (W.opened h) := by
  have hanswer : W.server.spooler.Answers (.OpenPrinterA (cString name) true none)
      { ret := 1, phPrinter := some h } (W.opened h).server.spooler :=
    Or.inr ⟨h, rfl, BOOL.one_ne_zero, rfl, hfresh, rfl⟩
  apply Prog.RunsIn.next (World.env_connected (by simp [hc]))
  apply Prog.RunsIn.next (World.env_named W (cString name) true)
  apply Prog.RunsIn.next (World.env_carriedOut
    (q := .OpenPrinterA (cString name) false [] [] 0) hc ht ht hanswer)
  apply Prog.RunsIn.next (World.env_added _ (d.clientHandle h))
  apply Prog.RunsIn.ended

/-- An open with defaults, by the ANSI name. -/
def openARecord (W : World d) (name pDatatype : Bytes) (pDevMode : Option Bytes)
    (DesiredAccess : DWORD) (h : HANDLE d.server) : CallRecord d where
  call := .OpenPrinterA (some name) true (some ⟨some pDatatype, pDevMode, DesiredAccess⟩)
  trace := [⟨.ensure_connection, true, W.idle⟩,
    ⟨.isBixolonPrinterByName (cString name), true, W.idle⟩,
    carriedOut W (.OpenPrinterA (cString name) true (cString pDatatype)
      (THRIFT_B_TO_STRING pDevMode dmSizeA) DesiredAccess) { ret := 1, phPrinter := some h },
    ⟨.addBixolonPrinter (d.clientHandle h), true, W.idle⟩]
  result := .ok { ret := 1, phPrinter := some (d.clientHandle h) }

theorem hostStep_openA {W : World d} {h : HANDLE d.server} (name pDatatype : Bytes)
    (pDevMode : Option Bytes) (DesiredAccess : DWORD) (hc : W.connected = some W.server.pid)
    (ht : W.server.fp .OpenPrinterA = true) (hfresh : h ∉ W.server.spooler.openHandles) :
    HostStep detour W (openARecord W name pDatatype pDevMode DesiredAccess h) (W.opened h) := by
  have hanswer (n dt dm acc) : W.server.spooler.Answers (.OpenPrinterA n true
      (ApiForwardHandler.localDefault true dt dm acc)) { ret := 1, phPrinter := some h }
      (W.opened h).server.spooler :=
    Or.inr ⟨h, rfl, BOOL.one_ne_zero, rfl, hfresh, rfl⟩
  apply Prog.RunsIn.next (World.env_connected (by simp [hc]))
  apply Prog.RunsIn.next (World.env_named W (cString name) true)
  apply Prog.RunsIn.next (World.env_carriedOut
    (q := .OpenPrinterA (cString name) true (cString pDatatype)
      (THRIFT_B_TO_STRING pDevMode dmSizeA) DesiredAccess) hc ht ht (hanswer _ _ _ _))
  apply Prog.RunsIn.next (World.env_added _ (d.clientHandle h))
  apply Prog.RunsIn.ended

/-- An open by the wide name. -/
def openWRecord (W : World d) (name : Bytes) (pDefault : PRINTER_DEFAULTS)
    (h : HANDLE d.server) : CallRecord d where
  call := .OpenPrinterW (some name) true (some pDefault)
  trace := [⟨.ensure_connection, true, W.idle⟩,
    ⟨.isBixolonPrinterByName (cString (cStr (ws2s name))), true, W.idle⟩,
    carriedOut W (.OpenPrinterW (THRIFT_W_TO_STRING (some name)) true
      (THRIFT_W_TO_STRING pDefault.pDatatype) (THRIFT_B_TO_STRING pDefault.pDevMode dmSizeW)
      pDefault.DesiredAccess) { ret := 1, phPrinter := some h },
    ⟨.addBixolonPrinter (d.clientHandle h), true, W.idle⟩]
  result := .ok { ret := 1, phPrinter := some (d.clientHandle h) }

theorem hostStep_openW {W : World d} {h : HANDLE d.server} (name : Bytes)
    (pDefault : PRINTER_DEFAULTS) (hc : W.connected = some W.server.pid)
    (ht : W.server.fp .OpenPrinterW = true) (hfresh : h ∉ W.server.spooler.openHandles) :
    HostStep detour W (openWRecord W name pDefault h) (W.opened h) := by
  have hanswer (n dt dm acc) : W.server.spooler.Answers (.OpenPrinterW n true
      (ApiForwardHandler.localDefault true dt dm acc)) { ret := 1, phPrinter := some h }
      (W.opened h).server.spooler :=
    Or.inr ⟨h, rfl, BOOL.one_ne_zero, rfl, hfresh, rfl⟩
  apply Prog.RunsIn.next (World.env_connected (by simp [hc]))
  apply Prog.RunsIn.next (World.env_named W (cString (cStr (ws2s name))) true)
  apply Prog.RunsIn.next (World.env_carriedOut
    (q := .OpenPrinterW (THRIFT_W_TO_STRING (some name)) true
      (THRIFT_W_TO_STRING pDefault.pDatatype) (THRIFT_B_TO_STRING pDefault.pDevMode dmSizeW)
      pDefault.DesiredAccess) hc ht ht (hanswer _ _ _ _))
  apply Prog.RunsIn.next (World.env_added _ (d.clientHandle h))
  apply Prog.RunsIn.ended

/-- A call without a connection. -/
def downRecord (W : World d) (c : SpoolCall (HANDLE d.client)) (r : c.Ret) : CallRecord d where
  call := c
  trace := [⟨.ensure_connection, false, W.idle⟩, ⟨.original c, r, W.idle⟩]
  result := .ok r

theorem hostStep_down {W : World d} {c : SpoolCall (HANDLE d.client)} {r : c.Ret}
    {sp : Spooler (HANDLE d.client)} (h : W.winspool.Answers c r sp) :
    HostStep detour W (downRecord W c r) { W with connected := none, winspool := sp } := by
  have hcall : (fpOriginal c).RunsIn World.env { W with connected := none }
      [⟨.original c, r, W.idle⟩] (.ok r) { W with connected := none, winspool := sp } :=
    fpOriginal_run (W := { W with connected := none }) h
  cases c <;> exact .next (World.env_disconnected W) hcall

/-- A call on a handle that is not tracked. -/
def localRecord (W : World d) (c : SpoolCall (HANDLE d.client)) (h : HANDLE d.client)
    (r : c.Ret) : CallRecord d where
  call := c
  trace := [⟨.ensure_connection, true, W.idle⟩, ⟨.isBixolonPrinterByHandle h, false, W.idle⟩,
    ⟨.original c, r, W.idle⟩]
  result := .ok r

theorem hostStep_local {W : World d} {c : SpoolCall (HANDLE d.client)} {h : HANDLE d.client}
    {r : c.Ret} {sp : Spooler (HANDLE d.client)} (hc : W.connected ≠ none)
    (hh : c.handle = some h) (hb : h ∉ W.bxprinters) (hr : W.winspool.Answers c r sp) :
    HostStep detour W (localRecord W c h r) { W with winspool := sp } := by
  have hcall := fpOriginal_run hr
  cases c <;> cases hh <;>
    exact .next (World.env_connected hc) (.next (World.env_untracked hb) hcall)

/-- An open of a printer that is no Bixolon printer. -/
def localOpenRecord (W : World d) (name : Bytes) (h : HANDLE d.client) : CallRecord d where
  call := .OpenPrinterA (some name) true none
  trace := [⟨.ensure_connection, true, W.idle⟩,
    ⟨.isBixolonPrinterByName (cString name), false, W.idle⟩,
    ⟨.original (.OpenPrinterA (some name) true none), { ret := 1, phPrinter := some h }, W.idle⟩]
  result := .ok { ret := 1, phPrinter := some h }

def World.openedLocal (W : World d) (h : HANDLE d.client) : World d :=
  { W with
    winspool := { openHandles := h :: W.winspool.openHandles, issued := h :: W.winspool.issued } }

theorem hostStep_localOpen {W : World d} {h : HANDLE d.client} (name : Bytes)
    (hc : W.connected ≠ none) (hfresh : h ∉ W.winspool.openHandles) :
    HostStep detour W (localOpenRecord W name h) (W.openedLocal h) := by
  have hanswer : W.winspool.Answers (.OpenPrinterA (some name) true none)
      { ret := 1, phPrinter := some h } (W.openedLocal h).winspool :=
    Or.inr ⟨h, rfl, BOOL.one_ne_zero, rfl, hfresh, rfl⟩
  apply Prog.RunsIn.next (World.env_connected hc)
  apply Prog.RunsIn.next (World.env_named W (cString name) false)
  apply fpOriginal_run hanswer

/-- A `StartPagePrinter` on a tracked handle that the server carries out. -/
def startPageRecord (W : World d) (h : HANDLE d.client) : CallRecord d where
  call := .StartPagePrinter h
  trace := [⟨.ensure_connection, true, W.idle⟩, ⟨.isBixolonPrinterByHandle h, true, W.idle⟩,
    carriedOut W (.StartPagePrinter (SAFE_HANDLE h)) (1 : BOOL)]
  result := .ok (1 : BOOL)

theorem hostStep_startPage {W : World d} {h : HANDLE d.client}
    (hc : W.connected = some W.server.pid) (ht : W.server.fp .StartPagePrinter = true)
    (hb : h ∈ W.bxprinters) : HostStep detour W (startPageRecord W h) W := by
  apply Prog.RunsIn.next (World.env_connected (by simp [hc]))
  apply Prog.RunsIn.next (World.env_tracked hb)
  apply Prog.RunsIn.next (World.env_carriedOut (q := .StartPagePrinter (SAFE_HANDLE h))
    (r := (1 : BOOL)) hc ht ht rfl)
  apply Prog.RunsIn.ended

/-- A start of a document on a tracked handle that the server carries out. -/
def startDocRecord (W : World d) (h : HANDLE d.client) (Level : DWORD) (doc : DOC_INFO)
    (job : DWORD) : CallRecord d where
  call := .StartDocPrinterW h Level (some doc)
  trace := [⟨.ensure_connection, true, W.idle⟩, ⟨.isBixolonPrinterByHandle h, true, W.idle⟩,
    carriedOut W (.StartDocPrinterW (SAFE_HANDLE h) Level (THRIFT_W_TO_STRING doc.pDocName)
      (THRIFT_W_TO_STRING doc.pOutputFile) (THRIFT_W_TO_STRING doc.pDatatype)) job]
  result := .ok job

theorem hostStep_startDoc {W : World d} {h : HANDLE d.client} (Level : DWORD) (doc : DOC_INFO)
    (job : DWORD) (hc : W.connected = some W.server.pid)
    (ht : W.server.fp .StartDocPrinterW = true) (hb : h ∈ W.bxprinters) :
    HostStep detour W (startDocRecord W h Level doc job) W := by
  apply Prog.RunsIn.next (World.env_connected (by simp [hc]))
  apply Prog.RunsIn.next (World.env_tracked hb)
  apply Prog.RunsIn.next (World.env_carriedOut
    (q := .StartDocPrinterW (SAFE_HANDLE h) Level (THRIFT_W_TO_STRING doc.pDocName)
      (THRIFT_W_TO_STRING doc.pOutputFile) (THRIFT_W_TO_STRING doc.pDatatype))
    (r := job) hc ht ht rfl)
  apply Prog.RunsIn.ended

/-- A write on a tracked handle that the server carries out. -/
def writeOnRecord (W : World d) (h : HANDLE d.client) (buf : Bytes) (cbBuf : DWORD)
    (r : WriteRet) : CallRecord d where
  call := .WritePrinter h (some buf) cbBuf true
  trace := [⟨.ensure_connection, true, W.idle⟩, ⟨.isBixolonPrinterByHandle h, true, W.idle⟩,
    carriedOut W (.WritePrinter (SAFE_HANDLE h) (buf.take cbBuf.toNat) cbBuf) r]
  result := .ok
    { ret := THRIFT_SAFE_GET (SpoolRequest.pack d.server
        (.WritePrinter (SAFE_HANDLE h) (buf.take cbBuf.toNat) cbBuf) r) kReturn 0
      pcWritten := THRIFT_SAFE_GET (SpoolRequest.pack d.server
        (.WritePrinter (SAFE_HANDLE h) (buf.take cbBuf.toNat) cbBuf) r) kPcWritten 0 }

theorem hostStep_writeOn {W : World d} {h : HANDLE d.client} (buf : Bytes) (cbBuf : DWORD)
    (r : WriteRet) (hc : W.connected = some W.server.pid)
    (ht : W.server.fp .OpenPrinterW = true) (ho : W.server.fp .WritePrinter = true)
    (hb : h ∈ W.bxprinters) : HostStep detour W (writeOnRecord W h buf cbBuf r) W := by
  apply Prog.RunsIn.next (World.env_connected (by simp [hc]))
  apply Prog.RunsIn.next (World.env_tracked hb)
  have hread : (std_string (some buf) (cbBuf.toNat : Int) : Client d.client Bytes) =
      .done (buf.take cbBuf.toNat) := std_string_ofNat (some buf) cbBuf.toNat
  simp only [hread, Prog.done_bind, if_true]
  apply Prog.RunsIn.next (World.env_carriedOut
    (q := .WritePrinter (SAFE_HANDLE h) (buf.take cbBuf.toNat) cbBuf) (r := r) hc ht ho rfl)
  apply Prog.RunsIn.ended

/-- A close of a tracked handle that the server answers with `r`. -/
def closeRecord (W : World d) (h : HANDLE d.client) (r : BOOL) : CallRecord d where
  call := .ClosePrinter h
  trace := [⟨.ensure_connection, true, W.idle⟩, ⟨.isBixolonPrinterByHandle h, true, W.idle⟩,
    ⟨.closeBixolonPrinter h, (), W.idle⟩,
    carriedOut W (.ClosePrinter (SAFE_HANDLE h)) r]
  result := .ok (BOOL.ofBool r.toBool)

theorem hostStep_close {W : World d} {h : HANDLE d.client} {r : BOOL}
    {sp : Spooler (HANDLE d.server)}
    (hc : W.connected = some W.server.pid) (ht : W.server.fp .ClosePrinter = true)
    (hb : h ∈ W.bxprinters)
    (hr : W.server.spooler.Answers (.ClosePrinter (d.serverHandle h)) r sp) :
    HostStep detour W (closeRecord W h r)
      (World.withSpooler
        { W with bxprinters := bxprinters.closeBixolonPrinter W.bxprinters h } sp) := by
  apply Prog.RunsIn.next (World.env_connected (by simp [hc]))
  apply Prog.RunsIn.next (World.env_tracked hb)
  apply Prog.RunsIn.next (World.env_removed W h)
  apply Prog.RunsIn.next (World.env_carriedOut (q := .ClosePrinter (SAFE_HANDLE h))
    (W := { W with bxprinters := bxprinters.closeBixolonPrinter W.bxprinters h }) hc ht ht hr)
  apply Prog.RunsIn.ended

/-! ## These steps with the connection up -/

theorem upAt_carriedOut (W : World d) (q : SpoolRequest) (r : (q.original d.server).Ret) :
    UpAt W.server.pid (carriedOut W q r) := ⟨rfl, _, rfl⟩

/-- The operations of an open that the server carries out. -/
theorem up_opened (W : World d) (name : Bytes) (q : SpoolRequest)
    (r : (q.original d.server).Ret) (h : HANDLE d.client) :
    ∀ o ∈ [⟨.ensure_connection, true, W.idle⟩, ⟨.isBixolonPrinterByName name, true, W.idle⟩,
      carriedOut W q r, ⟨.addBixolonPrinter h, true, W.idle⟩], UpAt W.server.pid o := by
  intro o ho
  simp only [List.mem_cons, List.not_mem_nil, or_false] at ho
  rcases ho with rfl | rfl | rfl | rfl
  · exact ⟨rfl, rfl⟩
  · exact ⟨rfl, trivial⟩
  · exact upAt_carriedOut W _ _
  · exact ⟨rfl, trivial⟩

/-- The operations of a call on a tracked handle that the server carries out. -/
theorem up_tracked (W : World d) (h : HANDLE d.client) (q : SpoolRequest)
    (r : (q.original d.server).Ret) :
    ∀ o ∈ [⟨.ensure_connection, true, W.idle⟩, ⟨.isBixolonPrinterByHandle h, true, W.idle⟩,
      carriedOut W q r], UpAt W.server.pid o := by
  intro o ho
  simp only [List.mem_cons, List.not_mem_nil, or_false] at ho
  rcases ho with rfl | rfl | rfl
  · exact ⟨rfl, rfl⟩
  · exact ⟨rfl, trivial⟩
  · exact upAt_carriedOut W _ _

theorem up_openRecord (W : World d) (name : Bytes) (h : HANDLE d.server) :
    Up W.server.pid (openRecord W name h) := by
  apply up_opened

theorem up_openARecord (W : World d) (name pDatatype : Bytes) (pDevMode : Option Bytes)
    (acc : DWORD) (h : HANDLE d.server) :
    Up W.server.pid (openARecord W name pDatatype pDevMode acc h) := by
  apply up_opened

theorem up_startDocRecord (W : World d) (h : HANDLE d.client) (Level : DWORD) (doc : DOC_INFO)
    (job : DWORD) : Up W.server.pid (startDocRecord W h Level doc job) := by
  apply up_tracked

theorem up_writeOnRecord (W : World d) (h : HANDLE d.client) (buf : Bytes) (cbBuf : DWORD)
    (r : WriteRet) : Up W.server.pid (writeOnRecord W h buf cbBuf r) := by
  apply up_tracked

theorem up_localRecord (W : World d) (c : SpoolCall (HANDLE d.client)) (h : HANDLE d.client)
    (r : c.Ret) : Up W.server.pid (localRecord W c h r) := by
  intro o ho
  simp only [localRecord, List.mem_cons, List.not_mem_nil, or_false] at ho
  rcases ho with rfl | rfl | rfl
  · exact ⟨rfl, rfl⟩
  · exact ⟨rfl, trivial⟩
  · exact ⟨rfl, trivial⟩

theorem up_localOpenRecord (W : World d) (name : Bytes) (h : HANDLE d.client) :
    Up W.server.pid (localOpenRecord W name h) := by
  intro o ho
  simp only [localOpenRecord, List.mem_cons, List.not_mem_nil, or_false] at ho
  rcases ho with rfl | rfl | rfl
  · exact ⟨rfl, rfl⟩
  · exact ⟨rfl, trivial⟩
  · exact ⟨rfl, trivial⟩

theorem up_startPageRecord (W : World d) (h : HANDLE d.client) :
    Up W.server.pid (startPageRecord W h) := by
  apply up_tracked

theorem up_closeRecord (W : World d) (h : HANDLE d.client) (r : BOOL) :
    Up W.server.pid (closeRecord W h r) := by
  intro o ho
  simp only [closeRecord, List.mem_cons, List.not_mem_nil, or_false] at ho
  rcases ho with rfl | rfl | rfl | rfl
  · exact ⟨rfl, rfl⟩
  · exact ⟨rfl, trivial⟩
  · exact ⟨rfl, trivial⟩
  · exact upAt_carriedOut W _ _

/-! ## A world to start from -/

/-- A client that is connected to a server with all its function pointers. -/
def connectedWorld (d : Deployment) : World d where
  connected := some 1
  server := { pid := 1, fp := fun _ => true }

/-- A 32-bit client of a 32-bit server. -/
def x86Deployment : Deployment := { client := .x86, server := .x86 }

theorem holdsHandles_x86 (rec : CallRecord x86Deployment) : HoldsHandles rec :=
  fun _ _ s _ => Deployment.holds_of_le (d := x86Deployment) (Nat.le_refl _) s

/-- Nothing is open yet, and the client is connected to the first server process. -/
def freshWorld : World x86Deployment where
  connected := some 1
  server := { pid := 1, fp := fun _ => true }

/-- The handle that the server gives out in the runs on fixed values. -/
def remoteHandle : HANDLE x86Deployment.server := (0x10 : BitVec 32)

end RemotePrinter
