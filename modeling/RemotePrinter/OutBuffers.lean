-- Queries whose answer has a size that the caller does not know: the settings of
-- a printer, and the name of the default printer. The size that goes to the
-- server is not always that of the answer.
import RemotePrinter.QueryRuns

open Interactive ByteMemory

namespace RemotePrinter

/-! ## The settings of a printer -/

def DM_OUT_BUFFER : DWORD := 2

/-- The field `dmDriverExtra` of a `DEVMODEW`. -/
def dmDriverExtraW (m : Bytes) : Nat := wordAt m 70

/-- A `DEVMODEW` has as many bytes as `dmSize` and `dmDriverExtra` say. -/
structure DEVMODE where
  bytes : Bytes
  header : 72 ≤ bytes.length
  size : dmSizeW bytes + dmDriverExtraW bytes = bytes.length

/-- The driver of a printer writes a `DEVMODE` of `n` bytes into each buffer that it is given
under `DM_OUT_BUFFER`, unless it refuses. -/
def Server.WritesDevMode {w : PtrWidth} (srv : Server w) (hPrinter : HANDLE w)
    (dm : QueryCall w → DEVMODE) (n : Nat) : Prop :=
  ∀ hWnd pDeviceName b pDevModeInput fMode, fMode &&& DM_OUT_BUFFER ≠ 0 →
    let c := .DocumentPropertiesW hWnd hPrinter pDeviceName (some b) pDevModeInput fMode
    (dm c).bytes.length = n ∧
      (0 ≤ (srv.spool c).ret.toInt → (srv.spool c).memory.read 0 n = (dm c).bytes)

theorem wordAt_lt (m : Bytes) (offset : Nat) : wordAt m offset < 65536 := by
  have hlo := (m.getD offset 0).toNat_lt
  have hhi := (m.getD (offset + 1) 0).toNat_lt
  unfold wordAt
  omega

section
variable {w w' : PtrWidth} {srv : Server w'} {lossy : Prop} {fp : Proc → Bool}
  {hWnd hPrinter : HANDLE w} {pDeviceName pDevModeInput : Option Bytes} {fMode : DWORD}
  {S S' : QueryState w'} {tr : List (Obs (QueryClientOp w) QueryClientOp.Answer Unit)}
  {r : Except QueryAbnormal QueryResult}

open QueryDetour

/-- Without the local function the detour answers 0, and does nothing. -/
theorem DetourDocumentPropertiesW_unhooked {b : Option (Buffer w)}
    (hfp : fp .DocumentPropertiesW = false) :
    (DetourDocumentPropertiesW fp hWnd hPrinter pDeviceName b pDevModeInput fMode).RunsIn
        (QueryState.env srv lossy) S tr r S' ∧ Forwarded tr ↔
      tr = [⟨.ensure_connection, true, ()⟩] ∧ r = .ok { ret := 0 } ∧ S' = S := by
  unfold DetourDocumentPropertiesW forwardDocumentPropertiesW
  rw [orBypass_forwarded, if_pos (by simp [hfp]), Prog.pure_eq]
  constructor
  · rintro ⟨-, ⟨rfl, hr, hS⟩, rfl⟩
    exact ⟨rfl, hr, hS⟩
  · rintro ⟨rfl, hr, hS⟩
    exact ⟨[], ⟨rfl, hr, hS⟩, rfl⟩

/-- With an answer of the server, the buffer is filled from it if the answer is not negative. -/
theorem DetourDocumentPropertiesW_runsIn {b : Buffer w} {arg a : ArgDocumentPropertiesW}
    {t : ServerThread w'} (hfp : fp .DocumentPropertiesW = true)
    (harg : arg = documentArg hWnd hPrinter pDeviceName (some b) pDevModeInput fMode)
    (hans : srv.answers (.DocumentPropertiesW arg) S.server = (some (.ok a), t)) :
    (DetourDocumentPropertiesW fp hWnd hPrinter pDeviceName (some b) pDevModeInput fMode).RunsIn
        (QueryState.env srv False) S tr r S' ∧ Forwarded tr ↔
      r = .ok { ret := a.ret } ∧
      S' = { memory := if 0 ≤ a.ret.toInt then S.memory.write 0 a.pDevModeOutput else S.memory
             lastError := a.lasterror
             server := t } ∧
      tr = [⟨.ensure_connection, true, ()⟩, ⟨.api (.DocumentPropertiesW arg), .ok a, ()⟩] ++
        (if 0 ≤ a.ret.toInt then
          [⟨.memcpy a.pDevModeOutput a.pDevModeOutput.length, (), ()⟩] else []) ++
        [⟨.SetLastError a.lasterror, (), ()⟩] := by
  subst harg
  unfold DetourDocumentPropertiesW forwardDocumentPropertiesW
  rw [if_neg (by simp [hfp]), forwarded_of_answer hans]
  by_cases h0 : 0 ≤ a.ret.toInt
  · simp only [h0, Option.isSome_some, and_self, if_true, memcpy_runsIn (Nat.le_refl _),
      SetLastError_runsIn, Prog.pure_eq, done_runsIn, List.take_length, and_assoc,
      exists_and_left, exists_eq_left, false_and, false_or, List.cons_append, List.nil_append]
  · simp only [h0, false_and, if_false, SetLastError_runsIn, Prog.pure_eq, done_runsIn,
      and_assoc, exists_and_left, exists_eq_left, false_or, List.cons_append, List.nil_append]

/-- The request carries the old output, as far as its `dmSize` says. -/
theorem length_documentArg {b : Buffer w} :
    (documentArg hWnd hPrinter pDeviceName (some b) pDevModeInput fMode).pDevModeOutput.length =
      dmSizeW (b.bytes.read 0 70) :=
  Mem.length_read _ _ _

/-- So it fits every server. -/
theorem length_documentArg_le {b : Buffer w} {arg : ArgDocumentPropertiesW}
    (harg : arg = documentArg hWnd hPrinter pDeviceName (some b) pDevModeInput fMode) :
    arg.pDevModeOutput.length ≤ maxReserve w' := by
  apply le_maxReserve
  rw [harg, length_documentArg]
  have hword := wordAt_lt (b.bytes.read 0 70) 68
  unfold dmSizeW
  omega

end

/-- What a caller of `DetourDocumentPropertiesW` with an output of `n` bytes relies on: at an
answer that is not negative the server has made one call, with a buffer of at least `n` bytes,
and the output holds what the driver wrote at that call. -/
def SettingsComeBack {w w' : PtrWidth} (srv : Server w') (dm : QueryCall w' → DEVMODE) (n : Nat)
    (S : QueryState w') (p : QueryClient w QueryResult) : Prop :=
  ∀ tr v S', p.RunsIn (QueryState.env srv False) S tr (.ok v) S' → 0 ≤ v.ret.toInt →
    ∃ c lent, S'.server.calls = S.server.calls ++ [c] ∧ c.buffer = some lent ∧ n ≤ lent.lent ∧
      S'.memory.read 0 n = (dm c).bytes

section
variable {w w' : PtrWidth} {srv : Server w'} {fp : Proc → Bool} {hWnd hPrinter : HANDLE w}
  {pDeviceName pDevModeInput : Option Bytes} {fMode : DWORD} {b : Buffer w} {n : Nat}
  {dm : QueryCall w' → DEVMODE} {S : QueryState w'}

open QueryDetour

/-- The 0 of a detour without a local function is no success. -/
theorem settings_of_unhooked (hfp : fp .DocumentPropertiesW = false) :
    ¬ SettingsComeBack srv dm n S
      (DetourDocumentPropertiesW fp hWnd hPrinter pDeviceName (some b) pDevModeInput fMode) := by
  intro h
  have hrun : (DetourDocumentPropertiesW fp hWnd hPrinter pDeviceName (some b) pDevModeInput
      fMode).RunsIn (QueryState.env srv False) S _ _ _ ∧ Forwarded _ :=
    (DetourDocumentPropertiesW_unhooked hfp).mpr ⟨rfl, rfl, rfl⟩
  obtain ⟨c, lent, hcalls, -⟩ := h _ _ _ hrun.1 (by decide)
  simp at hcalls

/-- A server without the function answers with a negative number. -/
theorem settings_of_missing (hfp : fp .DocumentPropertiesW = true)
    (hsrv : srv.fp .DocumentPropertiesW = false) :
    SettingsComeBack srv dm n S
      (DetourDocumentPropertiesW fp hWnd hPrinter pDeviceName (some b) pDevModeInput fMode) := by
  intro tr v S' hrun h0
  have hans := answers_of_missing (q := .DocumentPropertiesW
    (documentArg hWnd hPrinter pDeviceName (some b) pDevModeInput fMode)) hsrv S.server
  obtain ⟨hv, -, -⟩ :=
    (DetourDocumentPropertiesW_runsIn hfp rfl hans).mp ⟨hrun, forwarded_of_lossless hrun⟩
  cases hv
  have hneg : ¬ 0 ≤ (-1 : I32).toInt := by decide
  exact absurd h0 hneg

/-- A server with the function hands the driver as many bytes as the old output said. -/
theorem settings_of_answered {arg : ArgDocumentPropertiesW} (hmode : fMode &&& DM_OUT_BUFFER ≠ 0)
    (hdm : srv.WritesDevMode (handleOfInt64 w' (SAFE_HANDLE hPrinter)) dm n)
    (hfp : fp .DocumentPropertiesW = true)
    (hsrv : srv.fp .DocumentPropertiesW = true)
    (harg : arg = documentArg hWnd hPrinter pDeviceName (some b) pDevModeInput fMode) :
    SettingsComeBack srv dm n S
        (DetourDocumentPropertiesW fp hWnd hPrinter pDeviceName (some b) pDevModeInput fMode) ↔
      (srv.spool (srv.documentCall arg)).ret.toInt < 0 ∨ n ≤ arg.pDevModeOutput.length := by
  have hfits : arg.pDevModeOutput.length ≤ maxReserve w' := length_documentArg_le harg
  have hans := answers_DocumentPropertiesW hsrv hfits S.server
  have hruns := fun tr v S' => (DetourDocumentPropertiesW_runsIn hfp harg hans :
    (DetourDocumentPropertiesW fp hWnd hPrinter pDeviceName (some b) pDevModeInput fMode).RunsIn
      (QueryState.env srv False) S tr (.ok v) S' ∧ Forwarded tr ↔ _)
  have hpos : 0 < n := by
    obtain ⟨hn, -⟩ := hdm srv.desktop none (srv.heap 1) none fMode hmode
    rw [← hn]
    exact Nat.lt_of_lt_of_le (by decide) (dm _).header
  constructor
  · intro h
    by_contra hnot
    obtain ⟨hret, hsize⟩ := not_or.mp hnot
    have hrun := ((hruns _ _ _).mpr ⟨rfl, rfl, rfl⟩).1
    obtain ⟨c, lent, hcalls, hbuf, hle, -⟩ := h _ _ _ hrun (Int.not_lt.mp hret)
    obtain rfl : srv.documentCall arg = c := by simpa [Server.after] using hcalls
    have hlent := srv.lends_data hfits hbuf
    omega
  · intro h tr v S' hrun h0
    obtain ⟨hv, rfl, -⟩ := (hruns tr v S').mp ⟨hrun, forwarded_of_lossless hrun⟩
    cases hv
    have hsize : n ≤ arg.pDevModeOutput.length := h.resolve_left (Int.not_lt.mpr h0)
    have hdata := srv.data_of_pos (Nat.lt_of_lt_of_le hpos hsize)
    have hcall : srv.documentCall arg = .DocumentPropertiesW srv.desktop
        (handleOfInt64 w' (SAFE_HANDLE hPrinter))
        (THRIFT_ZERO_SIZE_STRING_TO_NULL arg.pDeviceName)
        (some (srv.heap arg.pDevModeOutput.length))
        (THRIFT_ZERO_SIZE_STRING_TO_NULL arg.pDevModeInput) fMode := by
      unfold Server.documentCall
      rw [hdata, harg]
      rfl
    obtain ⟨-, hwritten⟩ := hdm srv.desktop
      (THRIFT_ZERO_SIZE_STRING_TO_NULL arg.pDeviceName) (srv.heap arg.pDevModeOutput.length)
      (THRIFT_ZERO_SIZE_STRING_TO_NULL arg.pDevModeInput) fMode hmode
    rw [← hcall] at hwritten
    have hbuffer : (srv.documentCall arg).buffer = some (srv.heap arg.pDevModeOutput.length) := by
      rw [hcall]
      rfl
    refine ⟨srv.documentCall arg, srv.heap arg.pDevModeOutput.length, rfl, hbuffer, ?_, ?_⟩
    · rw [srv.lends_data hfits hdata]
      exact hsize
    · dsimp only [Server.documentReply] at h0 ⊢
      simp only [h0, if_true]
      rw [Mem.read_write_take (by simpa using hsize), Mem.take_read hsize]
      exact hwritten h0

end

/-- The settings that a driver writes come back to a caller that asks for them just if the
driver refuses, or the old output said that it is at least as long. -/
theorem settings_come_back_just_if_the_old_size_is_no_less {w w' : PtrWidth} (srv : Server w')
    (fp : Proc → Bool) (hWnd hPrinter : HANDLE w) (pDeviceName pDevModeInput : Option Bytes)
    (fMode : DWORD) (b : Buffer w) (n : Nat) (dm : QueryCall w' → DEVMODE) (S : QueryState w')
    (hmode : fMode &&& DM_OUT_BUFFER ≠ 0)
    (hdm : srv.WritesDevMode (handleOfInt64 w' (SAFE_HANDLE hPrinter)) dm n)
    (hb : CallerBuffer (some b) n S) :
    SettingsComeBack srv dm n S
        (QueryDetour.DetourDocumentPropertiesW fp hWnd hPrinter pDeviceName (some b)
          pDevModeInput fMode) ↔
      fp .DocumentPropertiesW = true ∧
      (srv.fp .DocumentPropertiesW = true →
        (srv.spool (srv.documentCall (QueryDetour.documentArg hWnd hPrinter pDeviceName (some b)
          pDevModeInput fMode))).ret.toInt < 0 ∨
        n ≤ dmSizeW (S.memory.read 0 70)) := by
  have hold : dmSizeW (S.memory.read 0 70) = (QueryDetour.documentArg hWnd hPrinter pDeviceName
      (some b) pDevModeInput fMode).pDevModeOutput.length := by
    rw [length_documentArg, hb.2]
  cases hfp : fp .DocumentPropertiesW with
  | false => exact iff_of_false (settings_of_unhooked hfp) (by simp)
  | true =>
    cases hsrv : srv.fp .DocumentPropertiesW with
    | false => exact iff_of_true (settings_of_missing hfp hsrv) (by simp)
    | true =>
      rw [hold, settings_of_answered hmode hdm hfp hsrv rfl]
      simp

/-! ### A driver with private data -/

/-- A `DEVMODE` of 72 bytes with 8 bytes of the driver's after them. -/
def privateSettings : DEVMODE where
  bytes := List.replicate 68 0 ++ [72, 0, 8, 0] ++ List.replicate 8 7
  header := by decide
  size := by decide

/-- The output of a caller, with a `dmSize` in it. -/
def outputOfSize (dmSize : UInt8) : Buffer .x86 :=
  { zeroBuffer 80 (by decide) with bytes := Mem.ofBytes (List.replicate 68 0 ++ [dmSize]) }

/-- A server whose drivers write these settings. -/
def settingsServer : Server .x86 :=
  .plain .x86 fun _ => { ret := 1, memory := Mem.ofBytes privateSettings.bytes }

theorem settingsServer_writes (h : HANDLE .x86) :
    settingsServer.WritesDevMode h (fun _ => privateSettings) 80 :=
  fun _ _ _ _ _ _ => ⟨rfl, fun _ => Mem.read_ofBytes privateSettings.bytes⟩

/-- A caller whose output says how long the settings are gets them. -/
theorem settings_of_80_bytes_come_back :
    SettingsComeBack settingsServer (fun _ => privateSettings) 80
      ⟨(outputOfSize 80).bytes, 0, ⟨0, []⟩⟩
      (QueryDetour.DetourDocumentPropertiesW (fun _ => true) 0 1 none (some (outputOfSize 80))
        none DM_OUT_BUFFER) :=
  (settings_come_back_just_if_the_old_size_is_no_less settingsServer _ 0 1 none none DM_OUT_BUFFER
    (outputOfSize 80) 80 _ _ (by decide) (settingsServer_writes _) ⟨rfl, rfl⟩).mpr
    ⟨rfl, fun _ => Or.inr (by decide)⟩

/-- A caller whose output has the `dmSize` of the structure, without the driver's data, does not:
the driver writes 80 bytes into a buffer of 72, and 72 come back. -/
theorem private_settings_are_cut :
    settingsServer.WritesDevMode (handleOfInt64 .x86 (SAFE_HANDLE (1 : HANDLE .x86)))
        (fun _ => privateSettings) 80 ∧
      ¬ SettingsComeBack settingsServer (fun _ => privateSettings) 80
        ⟨(outputOfSize 72).bytes, 0, ⟨0, []⟩⟩
        (QueryDetour.DetourDocumentPropertiesW (fun _ => true) 0 1 none (some (outputOfSize 72))
          none DM_OUT_BUFFER) := by
  refine ⟨settingsServer_writes _, ?_⟩
  rw [settings_of_answered (by decide) (settingsServer_writes _) rfl rfl rfl]
  decide

/-! ## The name of the default printer -/

/-- The spooler of a server has a default printer, whose name has `m` characters of two bytes: it
answers with the size `m + 1`, and writes the name and its terminator if the given size is no
less. -/
structure Server.NamesDefault {w : PtrWidth} (srv : Server w) (name : Bytes) (m : Nat) : Prop where
  found : srv.fp .GetDefaultPrinterW = true
  length : name.length = 2 * m
  succeeds : ∀ size, (srv.spool (srv.defaultCall size)).ret ≠ 0 ↔ m + 1 ≤ size.toNat
  needed : ∀ size, (srv.spool (srv.defaultCall size)).count.toNat = m + 1
  written : ∀ size, m + 1 ≤ size.toNat →
    (srv.spool (srv.defaultCall size)).memory.read 0 (2 * (m + 1)) = name ++ [0, 0]

/-- What a caller of `DetourGetDefaultPrinterW` relies on: it gets the result and the size of the
server, and on success the whole name, for which the server has lent its spooler enough bytes. -/
def NameComesBack {w w' : PtrWidth} (srv : Server w') (name : Bytes) (m : Nat) (size : DWORD)
    (S : QueryState w') (p : QueryClient w QueryResult) : Prop :=
  ∀ tr r S', p.RunsIn (QueryState.env srv False) S tr r S' →
    ∃ v c, r = .ok v ∧ (v.ret ≠ 0 ↔ m + 1 ≤ size.toNat) ∧
      v.count.map BitVec.toNat = some (m + 1) ∧ S'.server.calls = S.server.calls ++ [c] ∧
      (m + 1 ≤ size.toNat → S'.memory.read 0 (2 * (m + 1)) = name ++ [0, 0] ∧
        ∃ lent, c.buffer = some lent ∧ 2 * (m + 1) ≤ lent.lent)

section
variable {w w' : PtrWidth} {srv : Server w'} {size : DWORD} {pszBuffer : Option (Buffer w)}
  {S S' : QueryState w'} {tr : List (Obs (QueryClientOp w) QueryClientOp.Answer Unit)}
  {r : Except QueryAbnormal QueryResult} {name : Bytes} {m : Nat}

open QueryDetour

/-- A failed request leaves the buffer alone. -/
theorem DetourGetDefaultPrinterW_refused {a : ArgGetDefaultPrinterW} {t : ServerThread w'}
    (hans : srv.answers (.GetDefaultPrinterW { pcchBuffer := size }) S.server = (some (.ok a), t))
    (hret : a.ret = false) :
    (DetourGetDefaultPrinterW pszBuffer (some size)).RunsIn (QueryState.env srv False) S tr r S' ∧
        Forwarded tr ↔
      r = .ok { ret := 0, count := some a.pcchBuffer } ∧ S' = { S with server := t } ∧
      tr = [⟨.ensure_connection, true, ()⟩,
        ⟨.api (.GetDefaultPrinterW { pcchBuffer := size }), .ok a, ()⟩] := by
  unfold DetourGetDefaultPrinterW forwardGetDefaultPrinterW
  dsimp only
  rw [forwarded_of_answer hans]
  simp only [hret, Bool.false_eq_true, if_false, Prog.pure_eq, done_runsIn, and_assoc,
    exists_eq_left, false_and, false_or, BOOL.ofBool]

/-- A name of which the size is no more than what came back is copied as far as the size says. -/
theorem DetourGetDefaultPrinterW_filled {b : Buffer w} {a : ArgGetDefaultPrinterW}
    {t : ServerThread w'}
    (hans : srv.answers (.GetDefaultPrinterW { pcchBuffer := size }) S.server = (some (.ok a), t))
    (hret : a.ret = true)
    (hlen : ApiForwardHandler.sizeOfInt w a.pcchBuffer = a.pszBuffer.length) :
    (DetourGetDefaultPrinterW (some b) (some size)).RunsIn (QueryState.env srv False) S tr r S' ∧
        Forwarded tr ↔
      r = .ok { ret := 1, count := some a.pcchBuffer } ∧
      S' = { S with memory := S.memory.write 0 a.pszBuffer, server := t } ∧
      tr = [⟨.ensure_connection, true, ()⟩,
        ⟨.api (.GetDefaultPrinterW { pcchBuffer := size }), .ok a, ()⟩,
        ⟨.memcpy a.pszBuffer a.pszBuffer.length, (), ()⟩] := by
  unfold DetourGetDefaultPrinterW forwardGetDefaultPrinterW
  dsimp only
  rw [forwarded_of_answer hans]
  simp only [hret, hlen, if_true, memcpy_runsIn (Nat.le_refl _), Prog.pure_eq, done_runsIn,
    List.take_length, and_assoc, exists_and_left, exists_eq_left, false_and, false_or,
    BOOL.ofBool]

/-- A request that is answered has a run, whatever the size of the copy. -/
theorem default_runs {b : Buffer w} {a : ArgGetDefaultPrinterW} {t : ServerThread w'}
    (hans : srv.answers (.GetDefaultPrinterW { pcchBuffer := size }) S.server = (some (.ok a), t))
    (hret : a.ret = true) :
    ∃ tr r m, (DetourGetDefaultPrinterW (some b) (some size)).RunsIn
      (QueryState.env srv False) S tr r { S with memory := m, server := t } := by
  obtain ⟨m, hcopy⟩ := memcpy_runs srv False b a.pszBuffer
    (ApiForwardHandler.sizeOfInt w a.pcchBuffer) { S with server := t }
  refine ⟨_, .ok { ret := 1, count := some a.pcchBuffer }, m,
    ((forwarded_of_answer hans).mpr (Or.inr
      ⟨[⟨.memcpy a.pszBuffer (ApiForwardHandler.sizeOfInt w a.pcchBuffer), (), ()⟩], ?_, rfl⟩)).1⟩
  dsimp only
  rw [if_pos hret, hret]
  exact hcopy ⟨rfl, rfl, rfl⟩

/-- A size that the server cannot reserve ends the call with an exception. -/
theorem name_of_huge (hname : srv.NamesDefault name m) (hsize : ¬ size.toNat ≤ maxReserve w') :
    ¬ NameComesBack srv name m size S (DetourGetDefaultPrinterW pszBuffer (some size)) := by
  intro h
  have hans := answers_GetDefaultPrinterW_throws hname.found { pcchBuffer := size } hsize S.server
  have hrun : (DetourGetDefaultPrinterW pszBuffer (some size)).RunsIn
      (QueryState.env srv False) S _ _ S ∧ Forwarded _ :=
    (forwarded_of_abort hans).mpr ⟨.TApplicationException 0, rfl, rfl, rfl⟩
  obtain ⟨v, c, hv, -⟩ := h _ _ _ hrun.1
  cases hv

/-- What the server answers at a size that it can reserve. -/
theorem answers_default (hname : srv.NamesDefault name m) (hsize : size.toNat ≤ maxReserve w')
    (t : ServerThread w') :
    srv.answers (.GetDefaultPrinterW { pcchBuffer := size }) t =
      (some (.ok (Server.defaultReply (srv.spool (srv.defaultCall size)))),
        srv.after t (srv.defaultCall size)) := by
  refine answers_GetDefaultPrinterW hname.found { pcchBuffer := size } hsize ?_ t
  intro hret
  have hle := (hname.succeeds size).mp ((BOOL.toBool_eq_true _).mp hret)
  dsimp only
  omega

/-- At a size that is too small for the name, the caller gets the size that it needs. -/
theorem name_of_small (hname : srv.NamesDefault name m) (hsize : size.toNat ≤ maxReserve w')
    (hm : size.toNat ≤ m) :
    NameComesBack srv name m size S (DetourGetDefaultPrinterW pszBuffer (some size)) := by
  intro tr r S' hrun
  have hret : BOOL.toBool (srv.spool (srv.defaultCall size)).ret = false := by
    rw [BOOL.toBool_eq_false]
    by_contra hne
    have := (hname.succeeds size).mp hne
    omega
  have hreply : Server.defaultReply (srv.spool (srv.defaultCall size)) =
      { pcchBuffer := (srv.spool (srv.defaultCall size)).count, ret := false } := by
    unfold Server.defaultReply
    rw [hret]
    rfl
  have hans := answers_default hname hsize S.server
  rw [hreply] at hans
  obtain ⟨rfl, rfl, -⟩ :=
    (DetourGetDefaultPrinterW_refused hans rfl).mp ⟨hrun, forwarded_of_lossless hrun⟩
  refine ⟨_, _, rfl, ?_, ?_, rfl, ?_⟩
  · exact iff_of_false (by simp) (by omega)
  · simp [hname.needed size]
  · intro hle
    omega

/-- At a size that is large enough for the name, the server lends a byte for each character, and
as many come back. -/
theorem name_of_large (hname : srv.NamesDefault name m) (hsize : size.toNat ≤ maxReserve w')
    (hm : m + 1 ≤ size.toNat) {b : Buffer w} :
    NameComesBack srv name m size S (DetourGetDefaultPrinterW (some b) (some size)) ↔
      2 * (m + 1) ≤ size.toNat ∧ S.memory.read (m + 1) (m + 1) = (name ++ [0, 0]).drop (m + 1) := by
  have hcount := hname.needed size
  have hwritten := hname.written size hm
  have hret : BOOL.toBool (srv.spool (srv.defaultCall size)).ret = true :=
    (BOOL.toBool_eq_true _).mpr ((hname.succeeds size).mpr hm)
  have hreply : Server.defaultReply (srv.spool (srv.defaultCall size)) =
      { pcchBuffer := (srv.spool (srv.defaultCall size)).count, ret := true
        pszBuffer := (name ++ [0, 0]).take (m + 1) } := by
    unfold Server.defaultReply
    rw [hret, hcount, ← hwritten, Mem.take_read (by omega)]
    rfl
  have hans := answers_default hname hsize S.server
  rw [hreply] at hans
  have hlength : (name ++ [0, 0]).length = 2 * (m + 1) := by
    rw [List.length_append, hname.length]
    rfl
  by_cases hlarge : 2 * (m + 1) ≤ size.toNat
  · have hbound := size.isLt
    have hlen : ApiForwardHandler.sizeOfInt w (srv.spool (srv.defaultCall size)).count =
        ((name ++ [0, 0]).take (m + 1)).length := by
      rw [sizeOfInt_of_lt (by omega), hcount, List.length_take]
      omega
    have hmemory : (S.memory.write 0 ((name ++ [0, 0]).take (m + 1))).read 0 (2 * (m + 1)) =
        name ++ [0, 0] ↔ S.memory.read (m + 1) (m + 1) = (name ++ [0, 0]).drop (m + 1) := by
      have h : (S.memory.write 0 ((name ++ [0, 0]).take (m + 1))).read 0 (name ++ [0, 0]).length =
          name ++ [0, 0] ↔ _ := Mem.read_write_prefix (by omega)
      rwa [hlength, show 2 * (m + 1) - (m + 1) = m + 1 by omega] at h
    have hruns := fun tr r S' => (DetourGetDefaultPrinterW_filled hans rfl hlen :
      (DetourGetDefaultPrinterW (some b) (some size)).RunsIn (QueryState.env srv False) S tr r S' ∧
        Forwarded tr ↔ _)
    rw [← hmemory]
    constructor
    · intro h
      obtain ⟨v, c, -, -, -, -, hfull⟩ := h _ _ _ ((hruns _ _ _).mpr ⟨rfl, rfl, rfl⟩).1
      exact ⟨hlarge, (hfull hm).1⟩
    · rintro ⟨-, hfull⟩ tr r S' hrun
      obtain ⟨rfl, rfl, -⟩ := (hruns tr r S').mp ⟨hrun, forwarded_of_lossless hrun⟩
      refine ⟨_, _, rfl, iff_of_true (by simp) hm, by simp [hcount], rfl, fun _ => ⟨hfull, ?_⟩⟩
      have hdata : (srv.defaultCall size).buffer = some (srv.heap size.toNat) :=
        srv.data_of_pos (by omega)
      exact ⟨_, hdata, by rw [srv.lends_data hsize hdata]; exact hlarge⟩
  · refine iff_of_false (fun h => ?_) (fun h => hlarge h.1)
    -- any run will do: the buffer of the server is too short in each
    obtain ⟨tr, r, mem, hrun⟩ := default_runs (b := b) hans rfl
    obtain ⟨v, c, -, -, -, hcalls, hfull⟩ := h _ _ _ hrun
    obtain rfl : srv.defaultCall size = c := by simpa [Server.after] using hcalls
    obtain ⟨-, lent, hbuf, hle⟩ := hfull hm
    have hlent := srv.lends_data hsize hbuf
    omega

end

/-- The name of the default printer comes back just if the size fits the server, and is too small
for the name or counts its bytes twice over; then the buffer must also hold the second half of
the name before. -/
theorem name_comes_back_just_if_the_size_counts_bytes {w w' : PtrWidth} (srv : Server w')
    (name : Bytes) (m : Nat) (size : DWORD) (pszBuffer : Option (Buffer w)) (S : QueryState w')
    (hname : srv.NamesDefault name m) (hbuf : CallerBuffer pszBuffer (2 * size.toNat) S) :
    NameComesBack srv name m size S
        (QueryDetour.DetourGetDefaultPrinterW pszBuffer (some size)) ↔
      size.toNat ≤ maxReserve w' ∧
      (size.toNat ≤ m ∨
        2 * (m + 1) ≤ size.toNat ∧
        S.memory.read (m + 1) (m + 1) = (name ++ [0, 0]).drop (m + 1)) := by
  by_cases hsize : size.toNat ≤ maxReserve w'
  · by_cases hm : size.toNat ≤ m
    · exact iff_of_true (name_of_small hname hsize hm) ⟨hsize, Or.inl hm⟩
    · cases pszBuffer with
      | none =>
        have h0 : 2 * size.toNat = 0 := hbuf
        omega
      | some b =>
        rw [name_of_large hname hsize (by omega)]
        simp [hsize, hm]
  · exact iff_of_false (name_of_huge hname hsize) (fun h => hsize h.1)

/-! ### Two names -/

/-- A server with a default printer. -/
def namedServer (name : Bytes) (m : Nat) : Server .x86 :=
  .plain .x86 fun
    | .GetDefaultPrinterW _ (some size) =>
      { ret := if m + 1 ≤ size.toNat then 1 else 0
        count := BitVec.ofNat 32 (m + 1)
        memory := Mem.ofBytes (name ++ [0, 0]) }
    | _ => { ret := 0, memory := Mem.ofBytes [] }

theorem namedServer_names (name : Bytes) (m : Nat) (hlen : name.length = 2 * m)
    (hm : m + 1 < 2 ^ 32) : (namedServer name m).NamesDefault name m where
  found := rfl
  length := hlen
  succeeds := by
    intro size
    change (if m + 1 ≤ size.toNat then (1 : BOOL) else 0) ≠ 0 ↔ _
    by_cases h : m + 1 ≤ size.toNat <;> simp [h]
  needed := by
    intro size
    exact Nat.mod_eq_of_lt hm
  written := by
    intro size _
    have hlength : (name ++ [0, 0]).length = 2 * (m + 1) := by
      rw [List.length_append, hlen]
      rfl
    rw [← hlength]
    exact Mem.read_ofBytes _

/-- The name `A` comes back in a buffer of four characters with zeros in it. -/
theorem name_of_one_character_comes_back :
    NameComesBack (namedServer [65, 0] 1) [65, 0] 1 4 ⟨Mem.ofBytes [], 0, ⟨0, []⟩⟩
      (QueryDetour.DetourGetDefaultPrinterW (some (zeroBuffer 8 (by decide))) (some 4)) :=
  (name_comes_back_just_if_the_size_counts_bytes _ _ 1 4 (some (zeroBuffer 8 (by decide))) _
    (namedServer_names _ _ rfl (by decide)) ⟨rfl, rfl⟩).mpr ⟨by decide, Or.inr (by decide)⟩

/-- The name `AB` does not come back to a caller that asks with its size of three characters: the
server lends three bytes for six. -/
theorem name_of_two_characters_is_cut :
    (namedServer [65, 0, 66, 0] 2).NamesDefault [65, 0, 66, 0] 2 ∧
      ¬ NameComesBack (namedServer [65, 0, 66, 0] 2) [65, 0, 66, 0] 2 3
        ⟨Mem.ofBytes [], 0, ⟨0, []⟩⟩
        (QueryDetour.DetourGetDefaultPrinterW (some (zeroBuffer 6 (by decide))) (some 3)) := by
  have hname := namedServer_names [65, 0, 66, 0] 2 rfl (by decide)
  refine ⟨hname, ?_⟩
  rw [name_of_large hname (by decide) (by decide)]
  decide

end RemotePrinter
