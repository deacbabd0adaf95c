-- The settings that a host hands in. A `DEVMODE` says by two fields how long it is,
-- with the private data of the driver behind the public part; the client goes by the
-- first of them wherever it takes the structure as a string.
import RemotePrinter.ForwardedArguments
import RemotePrinter.OutBuffers

open Interactive

namespace RemotePrinter

/-! ## A structure that says how long it is -/

/-- The bytes of a `DEVMODE` whose fields `dmSize` and `dmDriverExtra` are at an offset. -/
def devModeSize (offset : Nat) (m : Bytes) : Nat := wordAt m offset + wordAt m (offset + 2)

/-- The private data of the driver, behind the public part. -/
def privateData (offset : Nat) (m : Bytes) : Bytes :=
  (m.drop (wordAt m offset)).take (wordAt m (offset + 2))

/-- A pointer to a whole `DEVMODE`. -/
def HoldsDevMode (offset : Nat) (m : Bytes) : Prop := devModeSize offset m ≤ m.length

/-- The server has NULL just if the host has it, and else a buffer that holds the structure of
the host, also for a reader that goes by the size fields that it finds there. -/
def Survives (offset : Nat) (p p' : Option Bytes) : Prop :=
  (p' = none ↔ p = none) ∧
  ∀ m ∈ p, ∀ m' ∈ p', m'.take (devModeSize offset m) = m.take (devModeSize offset m) ∧
    devModeSize offset m ≤ m'.length ∧
    (offset + 4 ≤ devModeSize offset m → HoldsDevMode offset m')

/-- The fields lie in the structure, so a copy of it has the same. -/
theorem devModeSize_eq_of_take {offset n : Nat} {m m' : Bytes} (h : m'.take n = m.take n)
    (hn : offset + 4 ≤ n) : devModeSize offset m' = devModeSize offset m := by
  have hbyte : ∀ i < n, m'.getD i 0 = m.getD i 0 := by
    intro i hi
    have hget := congrArg (fun l => l.getD i 0) h
    simpa [List.getD_eq_getElem?_getD, List.getElem?_take, hi] using hget
  unfold devModeSize wordAt
  rw [hbyte offset (by omega), hbyte (offset + 1) (by omega), hbyte (offset + 2) (by omega),
    hbyte (offset + 2 + 1) (by omega)]

/-- So it is enough that the bytes are there. -/
theorem survives_some {offset : Nat} {m m' : Bytes} (hm : HoldsDevMode offset m) :
    Survives offset (some m) (some m') ↔
      m'.take (devModeSize offset m) = m.take (devModeSize offset m) := by
  constructor
  · intro h
    exact (h.2 m rfl m' rfl).1
  · intro htake
    have hlength := congrArg List.length htake
    unfold HoldsDevMode at hm
    rw [List.length_take, List.length_take] at hlength
    refine ⟨by simp, ?_⟩
    rintro m₁ ⟨⟩ m₂ ⟨⟩
    refine ⟨htake, by omega, fun hfields => ?_⟩
    unfold HoldsDevMode
    rw [devModeSize_eq_of_take htake hfields]
    omega

/-! ## What the client sends of it -/

/-- The string of the client ends with the public part, and the server reads a NUL behind it. -/
theorem take_sent {offset : Nat} {m : Bytes} (hm : HoldsDevMode offset m) :
    (cStr (m.take (wordAt m offset))).take (devModeSize offset m) =
        m.take (devModeSize offset m) ↔ privateData offset m <+: [0] := by
  unfold HoldsDevMode devModeSize at hm
  have hlength : (m.take (wordAt m offset)).length = wordAt m offset := by
    rw [List.length_take]
    omega
  have hprivate : (privateData offset m).length = wordAt m (offset + 2) := by
    unfold privateData
    rw [List.length_take, List.length_drop]
    omega
  have hcut : (cStr (m.take (wordAt m offset))).take (devModeSize offset m) =
      m.take (wordAt m offset) ++ ([0] : Bytes).take (wordAt m (offset + 2)) := by
    unfold cStr devModeSize
    conv_lhs => rw [← hlength, List.length_take_of_le (by omega)]
    rw [List.take_append, List.take_take, hlength]
    simp
  have hwhole : m.take (devModeSize offset m) =
      m.take (wordAt m offset) ++ privateData offset m := List.take_add
  rw [hcut, hwhole, List.append_cancel_left_eq]
  constructor
  · intro h
    rw [← h]
    apply List.take_prefix
  · intro h
    rw [← hprivate]
    exact (List.prefix_iff_eq_take.mp h).symm

/-- The structure of the host survives just if it has a public part, and no private data but the
one zero byte that stands behind every string. -/
theorem survives_sent {offset : Nat} {p : Option Bytes} (hp : ∀ m ∈ p, HoldsDevMode offset m) :
    Survives offset p
        (THRIFT_ZERO_SIZE_STRING_TO_NULL (THRIFT_B_TO_STRING p fun m => wordAt m offset)) ↔
      ∀ m ∈ p, wordAt m offset ≠ 0 ∧ privateData offset m <+: [0] := by
  cases p with
  | none => simp [Survives, THRIFT_B_TO_STRING, THRIFT_ZERO_SIZE_STRING_TO_NULL]
  | some m =>
    have hm := hp m rfl
    have hlength : (m.take (wordAt m offset)).length = wordAt m offset := by
      unfold HoldsDevMode devModeSize at hm
      rw [List.length_take]
      omega
    unfold THRIFT_B_TO_STRING THRIFT_ZERO_SIZE_STRING_TO_NULL
    dsimp only
    rw [hlength]
    by_cases h0 : wordAt m offset = 0
    · rw [if_neg (by omega)]
      refine iff_of_false (fun h => ?_) (fun h => (h m rfl).1 h0)
      cases h.1.mp rfl
    · rw [if_pos (by omega), survives_some hm, take_sent hm]
      simp [h0]

/-! ## The opens -/

/-- The `DEVMODE` among the defaults of an open. -/
def SpoolCall.pDevMode {H : Type} : SpoolCall H → Option Bytes
  | OpenPrinterA _ _ pDefault => pDefault.bind PRINTER_DEFAULTS.pDevMode
  | OpenPrinterW _ _ pDefault => pDefault.bind PRINTER_DEFAULTS.pDevMode
  | _ => none

section
variable {d : Deployment} {W W' : World d} {pPrinterName : Option Bytes} {phPrinter : Bool}
  {pDefault : Option PRINTER_DEFAULTS} {tr : Trace d}
  {r : Except Abnormal (OpenRet (HANDLE d.client))} {x : ServerCall d}

/-- What the server hands on of an open by the ANSI name. -/
theorem pDevMode_openA
    (h : HostStep detour W ⟨.OpenPrinterA pPrinterName phPrinter pDefault, tr, r⟩ W')
    (hx : x ∈ serverCalls tr) :
    x.op.pDevMode = THRIFT_ZERO_SIZE_STRING_TO_NULL
      (THRIFT_B_TO_STRING (pDefault.bind PRINTER_DEFAULTS.pDevMode) dmSizeA) := by
  obtain ⟨q, o, hq, -, rfl⟩ := h.served hx
  cases pDefault with
  | none =>
    cases hq
    rfl
  | some p =>
    obtain ⟨t, -, rfl⟩ := Option.map_eq_some_iff.mp hq
    rfl

/-- What the server hands on of an open by the wide name. -/
theorem pDevMode_openW
    (h : HostStep detour W ⟨.OpenPrinterW pPrinterName phPrinter pDefault, tr, r⟩ W')
    (hx : x ∈ serverCalls tr) :
    x.op.pDevMode = THRIFT_ZERO_SIZE_STRING_TO_NULL
      (THRIFT_B_TO_STRING (pDefault.bind PRINTER_DEFAULTS.pDevMode) dmSizeW) := by
  obtain ⟨q, o, hq, -, rfl⟩ := h.served hx
  cases pDefault <;> cases hq <;> rfl

end

/-! ## `DocumentPropertiesW` -/

/-- The settings that a call is given to start from. -/
def QueryCall.pDevModeInput {w : PtrWidth} : QueryCall w → Option Bytes
  | DocumentPropertiesW _ _ _ _ p _ => p
  | _ => none

/-- The server makes the call when it carries out the request, in some state of its thread. -/
def Server.Makes {w : PtrWidth} (srv : Server w) (q : QueryRequest) (c : QueryCall w) : Prop :=
  ∃ t made, (srv.answers q t).2.calls = t.calls ++ made ∧ c ∈ made

section
variable {w w' : PtrWidth} {srv : Server w'} {lossy : Prop} {fp : Proc → Bool}
  {hWnd hPrinter : HANDLE w} {pDeviceName pDevModeInput : Option Bytes} {fMode : DWORD}
  {pDevModeOutput : Option (Buffer w)} {S S' : QueryState w'}
  {tr : List (Obs (QueryClientOp w) QueryClientOp.Answer Unit)}
  {r : Except QueryAbnormal QueryResult} {q : QueryRequest} {a : Except TException q.Result}

open QueryDetour

/-- The size of an output is a `WORD`, which fits every server. -/
theorem documentArg_fits :
    (documentArg hWnd hPrinter pDeviceName pDevModeOutput pDevModeInput fMode).pDevModeOutput.length
      ≤ maxReserve w' := by
  cases pDevModeOutput with
  | none => exact Nat.zero_le _
  | some b => exact length_documentArg_le rfl

/-- The one call of the server. -/
theorem pDevModeInput_of_makes {c : QueryCall w'}
    (h : srv.Makes (.DocumentPropertiesW
      (documentArg hWnd hPrinter pDeviceName pDevModeOutput pDevModeInput fMode)) c) :
    c.pDevModeInput =
      THRIFT_ZERO_SIZE_STRING_TO_NULL (THRIFT_B_TO_STRING pDevModeInput dmSizeW) := by
  obtain ⟨t, made, hcalls, hc⟩ := h
  cases hsrv : srv.fp .DocumentPropertiesW with
  | false =>
    rw [answers_of_missing hsrv] at hcalls
    have hnone : made = [] := by simpa using hcalls
    simp [hnone] at hc
  | true =>
    rw [answers_DocumentPropertiesW hsrv documentArg_fits] at hcalls
    have hone : made = [srv.documentCall
        (documentArg hWnd hPrinter pDeviceName pDevModeOutput pDevModeInput fMode)] :=
      (List.append_cancel_left hcalls).symm
    rw [hone, List.mem_singleton] at hc
    rw [hc]
    rfl

/-- The detour sends no other request than that for its arguments. -/
theorem request_of_DocumentPropertiesW
    (h : (DetourDocumentPropertiesW fp hWnd hPrinter pDeviceName pDevModeOutput pDevModeInput
      fMode).RunsIn (QueryState.env srv lossy) S tr r S') (hq : ⟨.api q, a, ()⟩ ∈ tr) :
    q = .DocumentPropertiesW
      (documentArg hWnd hPrinter pDeviceName pDevModeOutput pDevModeInput fMode) := by
  have hset : ∀ {e : DWORD} {v : QueryResult} {S₁ : QueryState w'} {tr'},
      (SetLastError e >>= fun _ => Prog.done v).RunsIn (QueryState.env (w := w) srv lossy) S₁ tr' r
        S' → ⟨.api q, a, ()⟩ ∉ tr' := by
    intro e v S₁ tr' hrun
    obtain ⟨tr'', hdone, rfl⟩ := SetLastError_runsIn.mp hrun
    obtain ⟨rfl, -, -⟩ := done_runsIn.mp hdone
    simp
  rcases orBypass_runsIn.mp h with ⟨tr₁, hforward, rfl⟩ | ⟨-, tr₁, horiginal, rfl⟩
  · have hq₁ : ⟨.api q, a, ()⟩ ∈ tr₁ := by simpa using hq
    unfold forwardDocumentPropertiesW at hforward
    cases hfp : fp .DocumentPropertiesW with
    | false =>
      rw [if_pos (by simp [hfp])] at hforward
      obtain ⟨rfl, -, -⟩ := done_runsIn.mp hforward
      cases hq₁
    | true =>
      rw [if_neg (by simp [hfp])] at hforward
      rcases QueryDetour.api_runsIn.mp hforward with ⟨v, t, tr₂, -, hrest, rfl⟩ | ⟨x, -, rfl, -, -⟩
      · rcases List.mem_cons.mp hq₁ with heq | hin
        · cases heq
          rfl
        · -- behind the request there is a copy at most
          exfalso
          split at hrest
          · next hcopy =>
            obtain ⟨b, rfl⟩ := Option.isSome_iff_exists.mp hcopy.2
            obtain ⟨tr₃, hlast, rfl⟩ := (memcpy_runsIn (Nat.le_refl _)).mp hrest
            exact hset hlast (by simpa using hin)
          · exact hset hrest hin
      · cases List.mem_singleton.mp hq₁
        rfl
  · obtain ⟨o, l, S₁, tr₂, -, rfl, rfl, -⟩ := horiginal
    simp at hq

end

/-! ## All three -/

/-- A `DEVMODE` that a host hands to an open or to `DocumentPropertiesW` survives every call of
the server just if it has a public part, and no private data but one zero byte at most. -/
theorem settings_survive_just_without_private_data (d : Deployment) :
    (∀ {W W' : World d} {pPrinterName : Option Bytes} {phPrinter : Bool}
      {pDefault : Option PRINTER_DEFAULTS} {tr : Trace d}
      {r : Except Abnormal (OpenRet (HANDLE d.client))},
      HostStep detour W ⟨.OpenPrinterA pPrinterName phPrinter pDefault, tr, r⟩ W' →
      (∀ m ∈ pDefault.bind PRINTER_DEFAULTS.pDevMode, HoldsDevMode 36 m) →
      ∀ x ∈ serverCalls tr,
        Survives 36 (pDefault.bind PRINTER_DEFAULTS.pDevMode) x.op.pDevMode ↔
          ∀ m ∈ pDefault.bind PRINTER_DEFAULTS.pDevMode,
            dmSizeA m ≠ 0 ∧ privateData 36 m <+: [0]) ∧
    (∀ {W W' : World d} {pPrinterName : Option Bytes} {phPrinter : Bool}
      {pDefault : Option PRINTER_DEFAULTS} {tr : Trace d}
      {r : Except Abnormal (OpenRet (HANDLE d.client))},
      HostStep detour W ⟨.OpenPrinterW pPrinterName phPrinter pDefault, tr, r⟩ W' →
      (∀ m ∈ pDefault.bind PRINTER_DEFAULTS.pDevMode, HoldsDevMode 68 m) →
      ∀ x ∈ serverCalls tr,
        Survives 68 (pDefault.bind PRINTER_DEFAULTS.pDevMode) x.op.pDevMode ↔
          ∀ m ∈ pDefault.bind PRINTER_DEFAULTS.pDevMode,
            dmSizeW m ≠ 0 ∧ privateData 68 m <+: [0]) ∧
    ∀ {srv : Server d.server} {lossy : Prop} {fp : Proc → Bool} {hWnd hPrinter : HANDLE d.client}
      {pDeviceName pDevModeInput : Option Bytes} {fMode : DWORD}
      {pDevModeOutput : Option (Buffer d.client)} {S S' : QueryState d.server}
      {tr : List (Obs (QueryClientOp d.client) QueryClientOp.Answer Unit)}
      {r : Except QueryAbnormal QueryResult},
      (QueryDetour.DetourDocumentPropertiesW fp hWnd hPrinter pDeviceName pDevModeOutput
        pDevModeInput fMode).RunsIn (QueryState.env srv lossy) S tr r S' →
      (∀ m ∈ pDevModeInput, HoldsDevMode 68 m) →
      ∀ q a c, ⟨.api q, a, ()⟩ ∈ tr → srv.Makes q c →
        (Survives 68 pDevModeInput c.pDevModeInput ↔
          ∀ m ∈ pDevModeInput, dmSizeW m ≠ 0 ∧ privateData 68 m <+: [0]) := by
  refine ⟨fun h hp x hx => ?_, fun h hp x hx => ?_, fun h hp q a c hq hc => ?_⟩
  · rw [pDevMode_openA h hx]
    apply survives_sent hp
  · rw [pDevMode_openW h hx]
    apply survives_sent hp
  · cases request_of_DocumentPropertiesW h hq
    rw [pDevModeInput_of_makes hc]
    apply survives_sent hp

/-! ### Two `DEVMODE`s -/

/-- A `DEVMODE` of a driver that keeps no data of its own. -/
def publicSettings : Bytes := List.replicate 68 0 ++ [72, 0, 0, 0]

def settingsDefaults (pDevMode : Bytes) : PRINTER_DEFAULTS where
  pDatatype := none
  pDevMode := some pDevMode
  DesiredAccess := 8

/-- The open of the printer `A` with settings, by the wide name. -/
def settingsOpen (pDevMode : Bytes) : CallRecord x86Deployment :=
  openWRecord freshWorld (inMemory letterA []) (settingsDefaults pDevMode) remoteHandle

theorem settingsOpen_step (pDevMode : Bytes) :
    HostStep detour freshWorld (settingsOpen pDevMode) (freshWorld.opened remoteHandle) :=
  hostStep_openW _ _ rfl rfl (by simp [freshWorld])

/-- The call of the server has the string that it received, with the NUL behind it. -/
theorem mem_settingsOpen (pDevMode : Bytes) :
    ∃ x ∈ serverCalls (settingsOpen pDevMode).trace, x.op.pDevMode =
      THRIFT_ZERO_SIZE_STRING_TO_NULL (THRIFT_B_TO_STRING (some pDevMode) dmSizeW) :=
  ⟨_, List.mem_singleton_self _, rfl⟩

theorem public_settings_survive :
    ∃ x ∈ serverCalls (settingsOpen publicSettings).trace,
      Survives 68 (some publicSettings) x.op.pDevMode := by
  obtain ⟨x, hx, -⟩ := mem_settingsOpen publicSettings
  refine ⟨x, hx, ?_⟩
  have hwhole : ∀ m ∈ some publicSettings, HoldsDevMode 68 m := by
    rintro m ⟨⟩
    unfold HoldsDevMode
    decide
  apply ((settings_survive_just_without_private_data x86Deployment).2.1
    (settingsOpen_step publicSettings) hwhole x hx).mpr
  rintro m ⟨⟩
  exact ⟨by decide, by decide⟩

/-- Of settings with eight bytes of the driver's the server gets the public part. -/
theorem private_settings_do_not_survive_an_open :
    ¬ ∀ (d : Deployment) (W W' : World d) (pPrinterName : Option Bytes) (phPrinter : Bool)
      (pDefault : Option PRINTER_DEFAULTS) (tr : Trace d)
      (r : Except Abnormal (OpenRet (HANDLE d.client))),
      HostStep detour W ⟨.OpenPrinterW pPrinterName phPrinter pDefault, tr, r⟩ W' →
      (∀ m ∈ pDefault.bind PRINTER_DEFAULTS.pDevMode, HoldsDevMode 68 m) →
      ∀ x ∈ serverCalls tr,
        Survives 68 (pDefault.bind PRINTER_DEFAULTS.pDevMode) x.op.pDevMode := by
  intro law
  obtain ⟨x, hx, hsent⟩ := mem_settingsOpen privateSettings.bytes
  have hwhole : ∀ m ∈ some privateSettings.bytes, HoldsDevMode 68 m := by
    rintro m ⟨⟩
    exact Nat.le_of_eq privateSettings.size
  have hsurvives := law _ _ _ _ _ _ _ _ (settingsOpen_step privateSettings.bytes) hwhole x hx
  rw [hsent] at hsurvives
  obtain ⟨-, hprefix⟩ := (survives_sent hwhole).mp hsurvives _ rfl
  revert hprefix
  decide

end RemotePrinter
