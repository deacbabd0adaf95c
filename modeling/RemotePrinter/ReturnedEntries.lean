-- What the caller of `EnumPrintersW` finds in its buffer: the entries of the server,
-- and which of their pointers are relocated.
import RemotePrinter.Relocation

open Interactive ByteMemory

namespace RemotePrinter

/-! ## The entries -/

/-- The fields of a structure that are pointers. -/
def pointerFields (info : List (InfoField × FieldType)) : List InfoField :=
  (info.filter fun f => f.2 = .LPVOID).map Prod.fst

/-- Where a field of an entry lies. -/
def entryOffset (w : PtrWidth) (info : List (InfoField × FieldType)) (k : Nat) (f : InfoField) :
    Nat :=
  k * sizeOf w info + offsetOf w info f

/-- An answer of `EnumPrintersW` that obeys the buffer: the entries are at its start, and what they
point to lies in it. -/
structure EntriesPlaced {w : PtrWidth} (info : List (InfoField × FieldType)) (address : HANDLE w)
    (cbBuf : Nat) (q : QueryRet) : Prop where
  room : q.returned.toNat * sizeOf w info ≤ cbBuf
  placed : ∀ k < q.returned.toNat, ∀ f ∈ pointerFields info,
    pointerAt w q.memory (entryOffset w info k f) ≠ 0 →
      (pointerAt w q.memory (entryOffset w info k f) - address).toNat < cbBuf

/-- A pointer `p'` of the client stands for the pointer `p` of the server. -/
def StandsFor {w : PtrWidth} (address : HANDLE w) (b : Buffer w) (cbBuf : Nat) (p p' : HANDLE w) :
    Prop :=
  (p' = 0 ↔ p = 0) ∧ (p ≠ 0 → p' - b.address = p - address ∧ (p' - b.address).toNat < cbBuf)

/-- What a caller of `DetourEnumPrintersW` relies on: after a TRUE every pointer of every entry
stands for that of the server. -/
def EntriesComeBack {w : PtrWidth} (srv : Server w) (Flags : DWORD) (Name : Option Bytes)
    (Level : DWORD) (info : List (InfoField × FieldType)) (cbBuf : DWORD) (b : Buffer w)
    (S : QueryState w) (p : QueryClient w QueryResult) : Prop :=
  let q := srv.spool (srv.printersCall (QueryDetour.printersArg Flags Name Level cbBuf))
  ∀ tr v S', p.RunsIn (QueryState.env srv False) S tr (.ok v) S' → v.ret ≠ 0 →
    ∀ n, v.returned = some n → 1 ≤ n.toNat → ∀ k < n.toNat, ∀ f ∈ pointerFields info,
      StandsFor (srv.infoAddress cbBuf) b cbBuf.toNat
        (pointerAt w q.memory (entryOffset w info k f))
        (pointerAt w S'.memory (entryOffset w info k f))

/-- A pointer that no side relocates: of an entry after the first, or of a field that is not sent
as an offset. -/
def Unrelocated (Level : DWORD) (k : Nat) (f : InfoField) : Prop :=
  0 < k ∨ f ∉ enumPrintersFields Level

instance (Level : DWORD) (k : Nat) (f : InfoField) : Decidable (Unrelocated Level k f) :=
  inferInstanceAs (Decidable (0 < k ∨ f ∉ enumPrintersFields Level))

theorem mem_pointerFields {info : List (InfoField × FieldType)} {f : InfoField} :
    f ∈ pointerFields info ↔ (f, .LPVOID) ∈ info := by
  simp [pointerFields]

/-- The fields that are sent as offsets are pointers, each sent once. -/
theorem enumPrintersFields_pointers {Level : DWORD} {info : List (InfoField × FieldType)}
    (h : printerInfo Level = some info) :
    (enumPrintersFields Level).Nodup ∧ ∀ f ∈ enumPrintersFields Level, (f, .LPVOID) ∈ info := by
  obtain ⟨rfl, rfl⟩ | ⟨rfl, rfl⟩ | ⟨rfl, rfl⟩ | ⟨rfl, rfl⟩ := printerInfo_cases h
  · decide
  · decide
  · decide
  · decide

theorem sizeOf_pos {w : PtrWidth} {Level : DWORD} {info : List (InfoField × FieldType)}
    (h : printerInfo Level = some info) : 0 < sizeOf w info := by
  obtain ⟨-, rfl⟩ | ⟨-, rfl⟩ | ⟨-, rfl⟩ | ⟨-, rfl⟩ := printerInfo_cases h
  · cases w <;> decide
  · cases w <;> decide
  · cases w <;> decide
  · cases w <;> decide

section
variable {w : PtrWidth} {info : List (InfoField × FieldType)} {Level : DWORD} {k cb : Nat}
  {f : InfoField} {address : HANDLE w} {b : Buffer w} {q : QueryRet} {m : Mem}

/-- The buffer of the client after some printers. -/
def filledEntries (info : List (InfoField × FieldType)) (Level : DWORD) (address : HANDLE w)
    (cbBuf : Nat) (q : QueryRet) (b : Buffer w) (m : Mem) : Mem :=
  (m.write 0 (q.memory.read 0 cbBuf)).writeAll
    (fieldStores info (enumPrintersFields Level) fun f =>
      relocate address b.address (pointerAt w q.memory (offsetOf w info f)))

theorem entryOffset_zero : entryOffset w info 0 f = offsetOf w info f := by
  unfold entryOffset
  rw [Nat.zero_mul, Nat.zero_add]

/-- A pointer of the first entry that is sent as an offset is relocated. -/
theorem filledEntries_relocated (hinfo : printerInfo Level = some info)
    (hf : f ∈ enumPrintersFields Level) :
    pointerAt w (filledEntries info Level address cb q b m) (entryOffset w info 0 f) =
      relocate address b.address (pointerAt w q.memory (entryOffset w info 0 f)) := by
  obtain ⟨hnodup, hpointers⟩ := enumPrintersFields_pointers hinfo
  unfold filledEntries
  rw [entryOffset_zero, pointerAt_fieldStores (printerInfo_nodup hinfo) hnodup hpointers hf]

/-- Every other pointer is the one of the server. -/
theorem filledEntries_unrelocated (hinfo : printerInfo Level = some info)
    (hroom : q.returned.toNat * sizeOf w info ≤ cb) (hk : k < q.returned.toNat)
    (hf : f ∈ pointerFields info) (hun : Unrelocated Level k f) :
    pointerAt w (filledEntries info Level address cb q b m) (entryOffset w info k f) =
      pointerAt w q.memory (entryOffset w info k f) := by
  obtain ⟨-, hpointers⟩ := enumPrintersFields_pointers hinfo
  have hnodup := printerInfo_nodup hinfo
  have hmem := mem_pointerFields.mp hf
  have hend : offsetOf w info f + w.bytes ≤ sizeOf w info := field_end_le hnodup hmem
  have hentry : k * sizeOf w info + sizeOf w info ≤ q.returned.toNat * sizeOf w info := by
    rw [← Nat.succ_mul]
    exact Nat.mul_le_mul_right _ hk
  apply pointerAt_congr
  unfold filledEntries
  rw [fieldStores_outside, Mem.read_write_read]
  · intro i hlo hhi hi
    unfold entryOffset at hhi
    omega
  · intro g hg
    have hgend : offsetOf w info g + w.bytes ≤ sizeOf w info := field_end_le hnodup (hpointers g hg)
    rcases hun with hpos | hsent
    · have hone : sizeOf w info ≤ k * sizeOf w info := Nat.le_mul_of_pos_left _ hpos
      unfold entryOffset
      omega
    · by_cases h0 : k = 0
      · subst h0
        have hapart := fields_apart (w := w) hnodup hmem (hpointers g hg) fun h => hsent (h ▸ hg)
        simpa [entryOffset, FieldType.size] using hapart
      · have hone : sizeOf w info ≤ k * sizeOf w info :=
          Nat.le_mul_of_pos_left _ (Nat.pos_of_ne_zero h0)
        unfold entryOffset
        omega

/-- A pointer of the server stands for itself just if it is NULL or the buffers have one
address. -/
theorem standsFor_self {p : HANDLE w} (hp : p ≠ 0 → (p - address).toNat < cb) :
    StandsFor address b cb p p ↔ p = 0 ∨ b.address = address := by
  unfold StandsFor
  constructor
  · rintro ⟨-, h⟩
    by_cases h0 : p = 0
    · exact Or.inl h0
    · exact Or.inr (sub_right_inj.mp (h h0).1)
  · rintro (h0 | haddr)
    · exact ⟨Iff.rfl, fun h => absurd h0 h⟩
    · exact ⟨Iff.rfl, fun h => by rw [haddr]; exact ⟨rfl, hp h⟩⟩

/-- A relocated pointer stands for that of the server. -/
theorem standsFor_relocate {p : HANDLE w} (hcb : b.lent = cb)
    (hp : p ≠ 0 → (p - address).toNat < cb) :
    StandsFor address b cb p (relocate address b.address p) := by
  refine ⟨relocate_eq_zero fun h => hcb ▸ hp h, fun h => ?_⟩
  rw [relocate_sub h]
  exact ⟨rfl, hp h⟩

/-- The entries stand for those of the server just if their other pointers are NULL, or the
buffers have one address. -/
theorem filledEntries_iff (hinfo : printerInfo Level = some info)
    (hplaced : EntriesPlaced info address cb q) (hlent : b.lent = cb) :
    (∀ k < q.returned.toNat, ∀ f ∈ pointerFields info,
      StandsFor address b cb (pointerAt w q.memory (entryOffset w info k f))
        (pointerAt w (filledEntries info Level address cb q b m) (entryOffset w info k f))) ↔
      b.address = address ∨
      ∀ k < q.returned.toNat, ∀ f ∈ pointerFields info, Unrelocated Level k f →
        pointerAt w q.memory (entryOffset w info k f) = 0 := by
  constructor
  · intro h
    by_cases haddr : b.address = address
    · exact Or.inl haddr
    · refine Or.inr fun k hk f hf hun => ?_
      have hstands := h k hk f hf
      rw [filledEntries_unrelocated hinfo hplaced.room hk hf hun,
        standsFor_self (hplaced.placed k hk f hf)] at hstands
      exact hstands.resolve_right haddr
  · intro h k hk f hf
    have hinside := hplaced.placed k hk f hf
    by_cases hun : Unrelocated Level k f
    · rw [filledEntries_unrelocated hinfo hplaced.room hk hf hun, standsFor_self hinside]
      rcases h with haddr | hnull
      · exact Or.inr haddr
      · exact Or.inl (hnull k hk f hf hun)
    · obtain ⟨hk0, hsent⟩ := not_or.mp hun
      obtain rfl : k = 0 := by omega
      rw [filledEntries_relocated hinfo (not_not.mp hsent)]
      exact standsFor_relocate hlent hinside

end

section
variable {w : PtrWidth} {srv : Server w} {fp : Proc → Bool} {Flags Level cbBuf : DWORD}
  {Name : Option Bytes} {info : List (InfoField × FieldType)} {b : Buffer w} {pcbNeeded : Bool}
  {S S' : QueryState w} {tr : List (Obs (QueryClientOp w) QueryClientOp.Answer Unit)}
  {v : QueryResult} {q : QueryRet}

open QueryDetour

/-- What the server answers after a success of its spooler with printers. -/
theorem answers_of_printers (hsrv : srv.fp .EnumPrintersW = true) (hsize : cbBuf.toNat < 2 ^ 31)
    (hinfo : printerInfo Level = some info)
    (hq : q = srv.spool (srv.printersCall (printersArg Flags Name Level cbBuf)))
    (hret : q.ret ≠ 0) (hsome : 1 ≤ q.returned.toNat) (t : ServerThread w) :
    ∃ a : ArgEnumPrintersW,
      srv.answers (.EnumPrintersW (printersArg Flags Name Level cbBuf)) t =
        (some (.ok a), srv.after t (srv.printersCall (printersArg Flags Name Level cbBuf))) ∧
      a.ret = true ∧ a.pPrinterEnum = q.memory.read 0 cbBuf.toNat ∧ a.pcReturned = q.returned ∧
      a.int32PrinterEnum =
        offsetMap info (enumPrintersFields Level) (srv.infoAddress cbBuf) q.memory := by
  have hans := answers_EnumPrintersW hsrv (printersArg Flags Name Level cbBuf) t
  have hcb : (printersArg Flags Name Level cbBuf).cbBuf = cbBuf := rfl
  have hlevel : (printersArg Flags Name Level cbBuf).Level = Level := rfl
  have hbool : BOOL.toBool q.ret = true := (BOOL.toBool_eq_true _).mpr hret
  rw [← hq, hcb, if_pos hsize] at hans
  refine ⟨_, hans, ?_, rfl, rfl, ?_⟩
  · exact Server.printersReply_ret.mpr ⟨hret, Or.inr (by rw [hlevel, hinfo]; rfl)⟩
  · unfold Server.printersReply
    rw [hlevel, hinfo, hbool]
    exact if_pos ⟨rfl, hsome⟩

/-- The memory that `DetourEnumPrintersW` leaves. -/
theorem entries_memory {a : ArgEnumPrintersW} {address : HANDLE w} {m : Mem}
    (hsize : cbBuf.toNat < 2 ^ 31) (haddress : address ≠ 0) (hinfo : printerInfo Level = some info)
    (hsome : 1 ≤ q.returned.toNat) (hplaced : EntriesPlaced info address cbBuf.toNat q)
    (hbytes : a.pPrinterEnum = q.memory.read 0 cbBuf.toNat)
    (hmap : a.int32PrinterEnum = offsetMap info (enumPrintersFields Level) address q.memory) :
    (m.write 0 (a.pPrinterEnum.take cbBuf.toNat)).writeAll
        (storeBytes (relocations b.address info (enumPrintersFields Level) a.int32PrinterEnum)) =
      filledEntries info Level address cbBuf.toNat q b m := by
  have hstores : storeBytes
      (relocations b.address info (enumPrintersFields Level) a.int32PrinterEnum) =
        fieldStores info (enumPrintersFields Level) fun f =>
          relocate address b.address (pointerAt w q.memory (offsetOf w info f)) := by
    apply fieldStores_congr
    intro f hf
    rw [hmap, lookup_offsetMap (enumPrintersFields_keys Level) hf, Option.getD_some]
    apply RP_SET_OFFSET_RP_GET_OFFSET haddress
    intro hp
    have hmem := mem_pointerFields.mpr ((enumPrintersFields_pointers hinfo).2 f hf)
    have hinside := hplaced.placed 0 hsome f hmem (by rw [entryOffset_zero]; exact hp)
    rw [entryOffset_zero] at hinside
    omega
  unfold filledEntries
  rw [hstores, hbytes, Mem.take_read (Nat.le_refl _)]

/-- With printers of the server, their pointers decide. -/
theorem entries_of_success (hfp : fp .EnumPrintersW = true) (hsrv : srv.fp .EnumPrintersW = true)
    (hsize : cbBuf.toNat < 2 ^ 31) (hinfo : printerInfo Level = some info)
    (hlent : b.lent = cbBuf.toNat)
    (hq : q = srv.spool (srv.printersCall (printersArg Flags Name Level cbBuf)))
    (hret : q.ret ≠ 0) (hsome : 1 ≤ q.returned.toNat)
    (hplaced : EntriesPlaced info (srv.infoAddress cbBuf) cbBuf.toNat q) :
    EntriesComeBack srv Flags Name Level info cbBuf b S
        (DetourEnumPrintersW fp Flags Name Level (some b) cbBuf pcbNeeded true) ↔
      b.address = srv.infoAddress cbBuf ∨
      ∀ k < q.returned.toNat, ∀ f ∈ pointerFields info, Unrelocated Level k f →
        pointerAt w q.memory (entryOffset w info k f) = 0 := by
  have hpos : 0 < q.returned.toNat * sizeOf w info := Nat.mul_pos hsome (sizeOf_pos hinfo)
  have haddress := srv.infoAddress_ne_zero (Nat.lt_of_lt_of_le hpos hplaced.room)
  obtain ⟨a, hans, htrue, hbytes, hreturned, hmap⟩ :=
    answers_of_printers hsrv hsize hinfo hq hret hsome S.server
  have hlen : cbBuf.toNat ≤ a.pPrinterEnum.length := by rw [hbytes, Mem.length_read]
  have hmemory :=
    entries_memory (b := b) (m := S.memory) hsize haddress hinfo hsome hplaced hbytes hmap
  have hruns := fun tr r S' => (DetourEnumPrintersW_filled hfp hans htrue hinfo hlen :
    (DetourEnumPrintersW fp Flags Name Level (some b) cbBuf pcbNeeded true).RunsIn
      (QueryState.env srv False) S tr r S' ∧ Forwarded tr ↔ _)
  simp only [false_and, false_or, hmemory] at hruns
  rw [← filledEntries_iff (m := S.memory) hinfo hplaced hlent]
  constructor
  · intro h
    have hrun := ((hruns _ _ _).mpr ⟨rfl, rfl, rfl⟩).1
    have hnumber : (printersResult a pcbNeeded true 1).returned = some q.returned := by
      simp [printersResult, hreturned]
    have hall := h _ _ _ hrun (by simp [printersResult]) q.returned hnumber hsome
    rw [← hq] at hall
    exact hall
  · intro hall tr v S' hrun _ n hn _
    obtain ⟨hv, rfl, -⟩ := (hruns tr _ S').mp ⟨hrun, forwarded_of_lossless hrun⟩
    cases hv
    obtain rfl : q.returned = n := by simpa [printersResult, hreturned] using hn
    rw [← hq]
    exact hall

/-- A refusal is no TRUE. -/
theorem entries_of_refusal {a : ArgEnumPrintersW} {t : ServerThread w}
    (hfp : fp .EnumPrintersW = true)
    (hans : srv.answers (.EnumPrintersW (printersArg Flags Name Level cbBuf)) S.server =
      (some (.ok a), t)) (hret : a.ret = false) :
    EntriesComeBack srv Flags Name Level info cbBuf b S
      (DetourEnumPrintersW fp Flags Name Level (some b) cbBuf pcbNeeded true) := by
  intro tr v S' hrun hv
  rcases (DetourEnumPrintersW_refused hfp hans (by simp [hret])).mp
      ⟨hrun, forwarded_of_lossless hrun⟩ with ⟨hlossy, -⟩ | ⟨hok, -, -⟩
  · exact hlossy.elim
  · cases hok
    simp [printersResult, BOOL.ofBool, hret] at hv

/-- A size that the server cannot reserve ends the call with an exception. -/
theorem entries_of_abort {x : HandlerAbort} {t : ServerThread w} (hfp : fp .EnumPrintersW = true)
    (hans : srv.answers (.EnumPrintersW (printersArg Flags Name Level cbBuf)) S.server =
      (some (.error x), t)) :
    EntriesComeBack srv Flags Name Level info cbBuf b S
      (DetourEnumPrintersW fp Flags Name Level (some b) cbBuf pcbNeeded true) := by
  intro tr v S' hrun
  have hfwd : (DetourEnumPrintersW fp Flags Name Level (some b) cbBuf pcbNeeded true).RunsIn
      (QueryState.env srv False) S tr (.ok v) S' ∧ Forwarded tr :=
    ⟨hrun, forwarded_of_lossless hrun⟩
  unfold DetourEnumPrintersW forwardEnumPrintersW at hfwd
  rw [if_neg (by simp [hfp]), forwarded_of_abort hans] at hfwd
  obtain ⟨y, -, hy, -⟩ := hfwd
  cases hy

/-- A TRUE with zero printers has no entries. -/
theorem entries_of_none (hfp : fp .EnumPrintersW = true) (hsrv : srv.fp .EnumPrintersW = true)
    (hsize : cbBuf.toNat < 2 ^ 31) (hinfo : printerInfo Level = some info)
    (hq : q = srv.spool (srv.printersCall (printersArg Flags Name Level cbBuf)))
    (hret : q.ret ≠ 0) (hnone : q.returned.toNat = 0) :
    EntriesComeBack srv Flags Name Level info cbBuf b S
      (DetourEnumPrintersW fp Flags Name Level (some b) cbBuf pcbNeeded true) := by
  have hans := answers_EnumPrintersW hsrv (printersArg Flags Name Level cbBuf) S.server
  have hcb : (printersArg Flags Name Level cbBuf).cbBuf = cbBuf := rfl
  rw [← hq, hcb, if_pos hsize] at hans
  have htrue : (srv.printersReply (printersArg Flags Name Level cbBuf) q).ret = true :=
    Server.printersReply_ret.mpr ⟨hret, Or.inl (BitVec.eq_of_toNat_eq hnone)⟩
  have hlen : cbBuf.toNat ≤
      (srv.printersReply (printersArg Flags Name Level cbBuf) q).pPrinterEnum.length :=
    Nat.le_of_eq (Mem.length_read _ _ _).symm
  intro tr v S' hrun _ n hn hpos
  rcases (DetourEnumPrintersW_filled hfp hans htrue hinfo hlen).mp
      ⟨hrun, forwarded_of_lossless hrun⟩ with ⟨hlossy, -⟩ | ⟨hok, -, -⟩
  · exact hlossy.elim
  · cases hok
    obtain rfl : q.returned = n := by simpa [printersResult, Server.printersReply] using hn
    omega

end

/-- The entries come back with pointers into the caller's buffer just if they are all NULL but
the relocated ones of the first entry, or the buffers of the two programs have one address. -/
theorem entries_come_back_just_if_the_others_are_null {w : PtrWidth} (srv : Server w)
    (fp : Proc → Bool) (Flags : DWORD) (Name : Option Bytes) (Level : DWORD)
    (info : List (InfoField × FieldType)) (cbBuf : DWORD) (b : Buffer w) (pcbNeeded : Bool)
    (S : QueryState w) (q : QueryRet) (hinfo : printerInfo Level = some info)
    (hq : q = srv.spool (srv.printersCall (QueryDetour.printersArg Flags Name Level cbBuf)))
    (hcaller : CallerBuffer (some b) cbBuf.toNat S)
    (hplaced : q.ret ≠ 0 → 1 ≤ q.returned.toNat →
      EntriesPlaced info (srv.infoAddress cbBuf) cbBuf.toNat q) :
    EntriesComeBack srv Flags Name Level info cbBuf b S
        (QueryDetour.DetourEnumPrintersW fp Flags Name Level (some b) cbBuf pcbNeeded true) ↔
      (fp .EnumPrintersW = true → srv.fp .EnumPrintersW = true → cbBuf.toNat < 2 ^ 31 →
        q.ret ≠ 0 → 1 ≤ q.returned.toNat →
        b.address = srv.infoAddress cbBuf ∨
        ∀ k < q.returned.toNat, ∀ f ∈ pointerFields info, Unrelocated Level k f →
          pointerAt w q.memory (entryOffset w info k f) = 0) := by
  cases hfp : fp .EnumPrintersW with
  | false =>
    refine iff_of_true (fun tr v S' hrun hv => ?_) (by simp)
    obtain ⟨hok, -, -⟩ :=
      (DetourEnumPrintersW_unhooked hfp).mp ⟨hrun, QueryDetour.forwarded_of_lossless hrun⟩
    cases hok
    simp at hv
  | true =>
  cases hsrv : srv.fp .EnumPrintersW with
  | false =>
    have hans := answers_of_missing
      (q := .EnumPrintersW (QueryDetour.printersArg Flags Name Level cbBuf)) hsrv S.server
    exact iff_of_true (entries_of_refusal hfp hans rfl) (by simp)
  | true =>
  have hans := answers_EnumPrintersW hsrv (QueryDetour.printersArg Flags Name Level cbBuf) S.server
  have hcb : (QueryDetour.printersArg Flags Name Level cbBuf).cbBuf = cbBuf := rfl
  rw [← hq, hcb] at hans
  by_cases hsize : cbBuf.toNat < 2 ^ 31
  · rw [if_pos hsize] at hans
    by_cases hret : q.ret ≠ 0
    · by_cases hsome : 1 ≤ q.returned.toNat
      · rw [entries_of_success hfp hsrv hsize hinfo hcaller.1 hq hret hsome (hplaced hret hsome)]
        exact ⟨fun h _ _ _ _ _ => h, fun h => h rfl rfl hsize hret hsome⟩
      · exact iff_of_true (entries_of_none hfp hsrv hsize hinfo hq hret (by omega))
          fun _ _ _ _ h => absurd h hsome
    · refine iff_of_true (entries_of_refusal hfp hans ?_) fun _ _ _ h => absurd h hret
      exact Bool.eq_false_iff.mpr fun htrue => hret (Server.printersReply_ret.mp htrue).1
  · rw [if_neg hsize] at hans
    exact iff_of_true (entries_of_abort hfp hans) fun _ _ h => absurd h hsize

/-! ## One printer and two -/

/-- A server with printers of level 5, whose structures are these bytes. -/
def entriesServer (returned : DWORD) (bytes : Bytes) : Server .x86 :=
  .plain .x86 fun _ => { ret := 1, returned, memory := Mem.ofBytes bytes }

/-- One `PRINTER_INFO_5` at 4096, and its name behind it. -/
def onePrinter : Bytes := [0x14, 16, 0, 0] ++ List.replicate 16 0 ++ [65, 0, 0, 0]

/-- Two of them, the first without a name. -/
def twoPrinters : Bytes :=
  List.replicate 20 0 ++ [0x28, 16, 0, 0] ++ List.replicate 16 0 ++ [65, 0, 0, 0]

/-- The entry of one printer comes back. -/
theorem one_printer_comes_back :
    EntriesComeBack (entriesServer 1 onePrinter) 0 none 5 PRINTER_INFO_5 24
      (zeroBuffer 24 (by decide)) ⟨Mem.ofBytes [], 0, ⟨0, []⟩⟩
      (QueryDetour.DetourEnumPrintersW (fun _ => true) 0 none 5 (some (zeroBuffer 24 (by decide)))
        24 true true) :=
  (entries_come_back_just_if_the_others_are_null (entriesServer 1 onePrinter) (fun _ => true) 0
    none 5 PRINTER_INFO_5 24 (zeroBuffer 24 (by decide)) true ⟨Mem.ofBytes [], 0, ⟨0, []⟩⟩ _ rfl
    rfl ⟨rfl, rfl⟩ fun _ _ => ⟨by decide, by decide⟩).mpr fun _ _ _ _ _ => Or.inr (by decide)

/-- The second entry of two keeps the pointer of the server. -/
theorem second_printer_is_not_relocated :
    EntriesPlaced PRINTER_INFO_5 ((entriesServer 2 twoPrinters).infoAddress 44) 44
        ((entriesServer 2 twoPrinters).spool ((entriesServer 2 twoPrinters).printersCall
          (QueryDetour.printersArg 0 none 5 44))) ∧
      ¬ EntriesComeBack (entriesServer 2 twoPrinters) 0 none 5 PRINTER_INFO_5 44
        (zeroBuffer 44 (by decide)) ⟨Mem.ofBytes [], 0, ⟨0, []⟩⟩
        (QueryDetour.DetourEnumPrintersW (fun _ => true) 0 none 5
          (some (zeroBuffer 44 (by decide))) 44 true true) := by
  have hplaced : EntriesPlaced PRINTER_INFO_5 ((entriesServer 2 twoPrinters).infoAddress 44) 44
      ((entriesServer 2 twoPrinters).spool ((entriesServer 2 twoPrinters).printersCall
        (QueryDetour.printersArg 0 none 5 44))) :=
    ⟨by decide, by decide⟩
  refine ⟨hplaced, ?_⟩
  rw [entries_of_success rfl rfl (by decide) rfl rfl rfl (by decide) (by decide) hplaced]
  decide

end RemotePrinter
