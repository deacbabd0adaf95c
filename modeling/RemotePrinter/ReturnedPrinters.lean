-- What the caller of `GetPrinterW` finds in its buffer, beside what the spooler of
-- the server wrote into the buffer of the server.
import RemotePrinter.CallerBuffers
import RemotePrinter.Relocation

open Interactive ByteMemory

namespace RemotePrinter

/-! ## What a structure points to -/

/-- `n` is the length of what a pointer of a structure points to: the bytes of a wide string with
its terminator, or of a `DEVMODE`. -/
def Extent (f : InfoField) (m : Mem) (offset n : Nat) : Prop :=
  if f = .pDevMode then
    72 ≤ n ∧ n = leNat (m.read (offset + 68) 2) + leNat (m.read (offset + 70) 2)
  else
    ∃ k, n = 2 * k + 2 ∧ leNat (m.read (offset + 2 * k) 2) = 0 ∧
      ∀ j < k, leNat (m.read (offset + 2 * j) 2) ≠ 0

/-- Where a field of the structure at `address` points to, from there on. -/
def targetOf {w : PtrWidth} (address : HANDLE w) (m : Mem) (f : InfoField) : Nat :=
  (pointerAt w m (offsetOf w PRINTER_INFO_2 f) - address).toNat

/-- The bytes of a range hold no pointer of the structure at the start of a buffer. -/
def OffPointers (w : PtrWidth) (offset n : Nat) : Prop :=
  ∀ f ∈ getPrinterFields ++ [.pSecurityDescriptor],
    offset + n ≤ offsetOf w PRINTER_INFO_2 f ∨ offsetOf w PRINTER_INFO_2 f + w.bytes ≤ offset

/-- An answer of `GetPrinterW` that obeys the buffer: the structure is at its start, and what it
points to lies anywhere in the buffer but on the pointers themselves. -/
structure PrinterPlaced {w : PtrWidth} (address : HANDLE w) (cbBuf : Nat) (q : QueryRet) :
    Prop where
  needed : q.count.toNat ≤ cbBuf
  room : sizeOf w PRINTER_INFO_2 ≤ cbBuf
  placed : ∀ f ∈ getPrinterFields, pointerAt w q.memory (offsetOf w PRINTER_INFO_2 f) ≠ 0 →
    ∃ n, 0 < n ∧ Extent f q.memory (targetOf address q.memory f) n ∧
      OffPointers w (targetOf address q.memory f) n ∧ targetOf address q.memory f + n ≤ cbBuf

/-- The call of the spooler that stands for a call of the client. -/
def Server.remoteCall {w : PtrWidth} (srv : Server w) (hPrinter : HANDLE w) (cbBuf : DWORD) :
    QueryCall w :=
  .GetPrinterW hPrinter 2 (srv.data cbBuf.toNat) cbBuf true

/-- The buffer `b` of the client shows the printer that the server has at `address`. -/
structure SamePrinter {w : PtrWidth} (address : HANDLE w) (m : Mem) (b : Buffer w) (cbBuf : Nat)
    (m' : Mem) : Prop where
  null : ∀ f ∈ getPrinterFields, pointerAt w m' (offsetOf w PRINTER_INFO_2 f) = 0 ↔
    pointerAt w m (offsetOf w PRINTER_INFO_2 f) = 0
  target : ∀ f ∈ getPrinterFields, pointerAt w m (offsetOf w PRINTER_INFO_2 f) ≠ 0 →
    targetOf b.address m' f = targetOf address m f ∧ targetOf b.address m' f < cbBuf
  data : ∀ f ∈ getPrinterFields, pointerAt w m (offsetOf w PRINTER_INFO_2 f) ≠ 0 →
    ∀ n, Extent f m (targetOf address m f) n →
      m'.read (targetOf address m f) n = m.read (targetOf address m f) n
  security : pointerAt w m' (offsetOf w PRINTER_INFO_2 .pSecurityDescriptor) = 0
  scalars : ∀ f, (f, .DWORD) ∈ PRINTER_INFO_2 →
    m'.read (offsetOf w PRINTER_INFO_2 f) 4 = m.read (offsetOf w PRINTER_INFO_2 f) 4

/-- What a caller of `DetourGetPrinterW` at level 2 relies on. -/
def PrinterComesBack {w : PtrWidth} (srv : Server w) (hPrinter : HANDLE w) (cbBuf : DWORD)
    (pPrinter : Option (Buffer w)) (pcbNeeded : Bool) (S : QueryState w)
    (p : QueryClient w QueryResult) : Prop :=
  let c := srv.remoteCall hPrinter cbBuf
  let q := srv.spool c
  ∀ tr r S', p.RunsIn (QueryState.env srv False) S tr r S' →
    ∃ v, r = .ok v ∧ (v.ret ≠ 0 ↔ q.ret ≠ 0) ∧
      v.count = (if pcbNeeded then some q.count else none) ∧
      S'.lastError = srv.lastError c ∧ S'.server.calls = S.server.calls ++ [c] ∧
      (∀ o ∈ tr, o.op.Inside cbBuf.toNat) ∧
      (q.ret ≠ 0 → ∃ b ∈ pPrinter,
        SamePrinter (srv.infoAddress cbBuf) q.memory b cbBuf.toNat S'.memory)

/-- A byte of the server's buffer that a caller reads through the structure: of a scalar field, or
of what a pointer points to. -/
def Significant {w : PtrWidth} (address : HANDLE w) (m : Mem) (i : Nat) : Prop :=
  (∃ f, (f, .DWORD) ∈ PRINTER_INFO_2 ∧ offsetOf w PRINTER_INFO_2 f ≤ i ∧
    i < offsetOf w PRINTER_INFO_2 f + 4) ∨
  ∃ f ∈ getPrinterFields, pointerAt w m (offsetOf w PRINTER_INFO_2 f) ≠ 0 ∧
    ∃ n, Extent f m (targetOf address m f) n ∧ targetOf address m f ≤ i ∧
      i < targetOf address m f + n

section
variable {w : PtrWidth} {srv : Server w} {fp : Proc → Bool} {hPrinter : HANDLE w}
  {cbBuf : DWORD} {S : QueryState w} {b : Buffer w} {q : QueryRet} {a : ArgGetPrinterW}
  {address : HANDLE w} {m m' : Mem}

open QueryDetour

/-- The pointers of a `PRINTER_INFO_2`: those that go over the wire, and the security
descriptor. -/
theorem getPrinterFields_pointers :
    ∀ f ∈ getPrinterFields ++ [.pSecurityDescriptor], (f, .LPVOID) ∈ PRINTER_INFO_2 := by
  decide

theorem PRINTER_INFO_2_nodup : (PRINTER_INFO_2.map Prod.fst).Nodup := by decide

/-- The stores put a relocated pointer into each field but one. -/
theorem printerStores_eq (a : ArgGetPrinterW) (address : HANDLE w) :
    storeBytes (printerStores a address) =
      fieldStores PRINTER_INFO_2 (getPrinterFields ++ [.pSecurityDescriptor]) fun f =>
        if f = .pSecurityDescriptor then 0
        else RP_SET_OFFSET address ((a.int32Args.lookup f.key).getD 0) := by
  simp [printerStores, relocations, fieldStores, getPrinterFields]

/-- The call of the server is made on the printer of the client. -/
theorem printerCall_printerArg :
    srv.printerCall (printerArg hPrinter 2 cbBuf) = srv.remoteCall hPrinter cbBuf := by
  have hhandle : handleOfInt64 w (SAFE_HANDLE hPrinter) = hPrinter := by
    unfold handleOfInt64
    rw [setWidth_SAFE_HANDLE _ (Nat.le_refl _), BitVec.setWidth_eq]
  unfold Server.printerCall Server.remoteCall printerArg
  dsimp only
  rw [hhandle]

/-- The buffer of the client after a printer: the first bytes of the server's, with the pointers
relocated. -/
def filledMemory (address : HANDLE w) (q : QueryRet) (b : Buffer w) (m : Mem) : Mem :=
  (m.write 0 (q.memory.read 0 q.count.toNat)).writeAll
    (fieldStores PRINTER_INFO_2 (getPrinterFields ++ [.pSecurityDescriptor]) fun f =>
      if f = .pSecurityDescriptor then 0
      else relocate address b.address (pointerAt w q.memory (offsetOf w PRINTER_INFO_2 f)))

theorem filledMemory_pointer {f : InfoField} (hf : f ∈ getPrinterFields) :
    pointerAt w (filledMemory address q b m) (offsetOf w PRINTER_INFO_2 f) =
      relocate address b.address (pointerAt w q.memory (offsetOf w PRINTER_INFO_2 f)) := by
  have hne : f ≠ .pSecurityDescriptor := by
    rintro rfl
    exact absurd hf (by decide)
  unfold filledMemory
  rw [pointerAt_fieldStores PRINTER_INFO_2_nodup (by decide) getPrinterFields_pointers
    (List.mem_append_left _ hf), if_neg hne]

theorem filledMemory_security :
    pointerAt w (filledMemory address q b m) (offsetOf w PRINTER_INFO_2 .pSecurityDescriptor) =
      0 := by
  unfold filledMemory
  rw [pointerAt_fieldStores PRINTER_INFO_2_nodup (by decide) getPrinterFields_pointers
    (by decide), if_pos rfl]

/-- Away from the pointers the buffer shows what the server has just if it did so before, behind
the bytes that came over. -/
theorem filledMemory_read {offset n : Nat} (h : OffPointers w offset n) :
    (filledMemory address q b m).read offset n = q.memory.read offset n ↔
      ∀ i, offset ≤ i → i < offset + n → q.count.toNat ≤ i → m i = q.memory i := by
  unfold filledMemory
  rw [fieldStores_outside h]
  exact Mem.read_write_read

/-- A scalar field is away from the pointers. -/
theorem scalar_apart {f : InfoField} (hf : (f, .DWORD) ∈ PRINTER_INFO_2) :
    OffPointers w (offsetOf w PRINTER_INFO_2 f) 4 := by
  have hnone : ∀ g ∈ getPrinterFields ++ [.pSecurityDescriptor],
      (g, FieldType.DWORD) ∉ PRINTER_INFO_2 := by decide
  intro g hg
  have hne : f ≠ g := by
    rintro rfl
    exact hnone f hg hf
  exact fields_apart PRINTER_INFO_2_nodup hf (getPrinterFields_pointers g hg) hne

/-- So is what lies behind the structure. -/
theorem behind_apart {offset n : Nat} (h : sizeOf w PRINTER_INFO_2 ≤ offset) :
    OffPointers w offset n := by
  intro g hg
  have hend := field_end_le (w := w) PRINTER_INFO_2_nodup (getPrinterFields_pointers g hg)
  exact Or.inr (Nat.le_trans hend h)

/-- What a pointer points to has one length. -/
theorem Extent.unique {f : InfoField} {offset n n' : Nat} (h : Extent f m offset n)
    (h' : Extent f m offset n') : n = n' := by
  unfold Extent at h h'
  by_cases hf : f = .pDevMode
  · rw [if_pos hf] at h h'
    exact h.2.trans h'.2.symm
  · rw [if_neg hf] at h h'
    obtain ⟨k, rfl, hk, hbefore⟩ := h
    obtain ⟨k', rfl, hk', hbefore'⟩ := h'
    rcases Nat.lt_trichotomy k k' with hlt | rfl | hlt
    · exact absurd hk (hbefore' k hlt)
    · rfl
    · exact absurd hk' (hbefore k' hlt)

/-- The client shows the printer of the server just if its buffer had the significant bytes that
did not come over. -/
theorem samePrinter_iff (hplaced : PrinterPlaced address cbBuf.toNat q)
    (hlent : b.lent = cbBuf.toNat) :
    SamePrinter address q.memory b cbBuf.toNat (filledMemory address q b m) ↔
      ∀ i, q.count.toNat ≤ i → Significant address q.memory i → m i = q.memory i := by
  constructor
  · rintro h i hi (⟨f, hf, hlo, hhi⟩ | ⟨f, hf, hp, n, hn, hlo, hhi⟩)
    · exact (filledMemory_read (scalar_apart hf)).mp (h.scalars f hf) i hlo hhi hi
    · obtain ⟨n', -, hn', hoff, -⟩ := hplaced.placed f hf hp
      rw [hn'.unique hn] at hoff
      exact (filledMemory_read hoff).mp (h.data f hf hp n hn) i hlo hhi hi
  · intro h
    have hinside : ∀ f ∈ getPrinterFields,
        pointerAt w q.memory (offsetOf w PRINTER_INFO_2 f) ≠ 0 →
          targetOf address q.memory f < b.lent := by
      intro f hf hp
      obtain ⟨n, hpos, -, -, hend⟩ := hplaced.placed f hf hp
      omega
    refine ⟨?_, ?_, ?_, filledMemory_security, ?_⟩
    · intro f hf
      rw [filledMemory_pointer hf]
      exact relocate_eq_zero (hinside f hf)
    · intro f hf hp
      have htarget : targetOf b.address (filledMemory address q b m) f =
          targetOf address q.memory f := by
        unfold targetOf
        rw [filledMemory_pointer hf, relocate_sub hp]
      rw [htarget]
      exact ⟨rfl, hlent ▸ hinside f hf hp⟩
    · intro f hf hp n hn
      obtain ⟨n', -, hn', hoff, -⟩ := hplaced.placed f hf hp
      rw [hn'.unique hn] at hoff
      exact (filledMemory_read hoff).mpr fun i hlo hhi hi =>
        h i hi (Or.inr ⟨f, hf, hp, n, hn, hlo, hhi⟩)
    · intro f hf
      exact (filledMemory_read (scalar_apart hf)).mpr fun i hlo hhi hi =>
        h i hi (Or.inl ⟨f, hf, hlo, hhi⟩)

/-- The memory that `DetourGetPrinterW` leaves. -/
theorem printer_memory (hsize : cbBuf.toNat < 2 ^ 31) (haddress : address ≠ 0)
    (hplaced : PrinterPlaced address cbBuf.toNat q) (hneeded : a.pcbNeeded = q.count)
    (hbytes : a.pPrinter = q.memory.read 0 cbBuf.toNat)
    (hmap : a.int32Args = offsetMap PRINTER_INFO_2 getPrinterFields address q.memory) :
    (m.write 0 (a.pPrinter.take (ApiForwardHandler.sizeOfInt w a.pcbNeeded))).writeAll
        (storeBytes (printerStores a b.address)) = filledMemory address q b m := by
  have hcount := hplaced.needed
  have hstores : storeBytes (printerStores a b.address) =
      fieldStores PRINTER_INFO_2 (getPrinterFields ++ [.pSecurityDescriptor]) fun f =>
        if f = .pSecurityDescriptor then 0
        else relocate address b.address (pointerAt w q.memory (offsetOf w PRINTER_INFO_2 f)) := by
    rw [printerStores_eq]
    apply fieldStores_congr
    intro f hf
    by_cases hs : f = .pSecurityDescriptor
    · rw [if_pos hs, if_pos hs]
    · have hmem : f ∈ getPrinterFields := by
        rcases List.mem_append.mp hf with h | h
        · exact h
        · exact absurd (List.mem_singleton.mp h) hs
      rw [if_neg hs, if_neg hs, hmap, lookup_offsetMap getPrinterFields_keys hmem,
        Option.getD_some]
      apply RP_SET_OFFSET_RP_GET_OFFSET haddress
      intro hp
      obtain ⟨n, -, -, -, hend⟩ := hplaced.placed f hmem hp
      change targetOf address q.memory f < 2 ^ 31
      omega
  unfold filledMemory
  rw [hstores, hneeded, hbytes, sizeOfInt_of_lt (by omega), Mem.take_read hcount]

/-- What the server answers after a success of its spooler. -/
theorem answers_of_success (hsrv : srv.fp .GetPrinterW = true) (hsize : cbBuf.toNat < 2 ^ 31)
    (hq : q = srv.spool (srv.remoteCall hPrinter cbBuf)) (hret : q.ret ≠ 0) (t : ServerThread w) :
    ∃ a : ArgGetPrinterW,
      srv.answers (.GetPrinterW (printerArg hPrinter 2 cbBuf)) t =
        (some (.ok a), srv.after t (srv.remoteCall hPrinter cbBuf)) ∧
      a.ret = true ∧ a.pcbNeeded = q.count ∧ a.pPrinter = q.memory.read 0 cbBuf.toNat ∧
      a.int32Args = offsetMap PRINTER_INFO_2 getPrinterFields (srv.infoAddress cbBuf) q.memory ∧
      a.lasterror = srv.lastError (srv.remoteCall hPrinter cbBuf) := by
  have hans := answers_GetPrinterW hsrv (printerArg hPrinter 2 cbBuf) t
  have hcb : (printerArg hPrinter 2 cbBuf).cbBuf = cbBuf := rfl
  rw [printerCall_printerArg, ← hq, hcb, if_pos hsize] at hans
  refine ⟨_, hans, ?_⟩
  unfold Server.printerReply
  rw [if_pos ((BOOL.toBool_eq_true _).mpr hret)]
  exact ⟨rfl, rfl, rfl, rfl, rfl⟩

/-- With a printer of the server, the significant bytes decide. -/
theorem printer_of_success (hfp : fp .GetPrinterW = true) (hsrv : srv.fp .GetPrinterW = true)
    (hsize : cbBuf.toNat < 2 ^ 31) (hlent : b.lent = cbBuf.toNat)
    (hq : q = srv.spool (srv.remoteCall hPrinter cbBuf)) (hret : q.ret ≠ 0)
    (hplaced : PrinterPlaced (srv.infoAddress cbBuf) cbBuf.toNat q) {pcbNeeded : Bool} :
    PrinterComesBack srv hPrinter cbBuf (some b) pcbNeeded S
        (DetourGetPrinterW fp hPrinter 2 (some b) cbBuf pcbNeeded) ↔
      ∀ i, q.count.toNat ≤ i → Significant (srv.infoAddress cbBuf) q.memory i →
        S.memory i = q.memory i := by
  have hneeded := hplaced.needed
  have hpos : 0 < sizeOf w PRINTER_INFO_2 := by cases w <;> decide
  have haddress := srv.infoAddress_ne_zero (Nat.lt_of_lt_of_le hpos hplaced.room)
  obtain ⟨a, hans, htrue, hcount, hbytes, hmap, herror⟩ :=
    answers_of_success hsrv hsize hq hret S.server
  have hlen : ApiForwardHandler.sizeOfInt w a.pcbNeeded ≤ a.pPrinter.length := by
    rw [hcount, hbytes, sizeOfInt_of_lt (by omega), Mem.length_read]
    exact hneeded
  have hruns := fun tr r S' => (DetourGetPrinterW_filled hfp hans htrue hlen :
    (DetourGetPrinterW fp hPrinter 2 (some b) cbBuf pcbNeeded).RunsIn
      (QueryState.env srv False) S tr r S' ∧ Forwarded tr ↔ _)
  have hmemory := printer_memory (b := b) (m := S.memory) hsize haddress hplaced hcount hbytes hmap
  simp only [false_and, false_or, hmemory] at hruns
  have hstored : storedEnd w PRINTER_INFO_2 (getPrinterFields ++ [.pSecurityDescriptor]) ≤
      cbBuf.toNat :=
    storedEnd_le.mpr fun f hf => Nat.le_trans
      (field_end_le PRINTER_INFO_2_nodup (getPrinterFields_pointers f hf)) hplaced.room
  have hstays : StaysInside srv False cbBuf.toNat S
      (DetourGetPrinterW fp hPrinter 2 (some b) cbBuf pcbNeeded) ↔ _ :=
    printer_filled_inside hfp hans htrue hlen (by rw [hbytes, Mem.length_read])
  rw [← samePrinter_iff (b := b) hplaced hlent]
  constructor
  · intro h
    obtain ⟨v, -, -, -, -, -, -, hshown⟩ := h _ _ _ ((hruns _ _ _).mpr ⟨rfl, rfl, rfl⟩).1
    obtain ⟨b', hb', hsame⟩ := hshown (hq ▸ hret)
    cases hb'
    rw [← hq] at hsame
    exact hsame
  · intro hsame tr r S' hrun
    have hinside := (hstays.mpr hstored tr r S' hrun).inside
    obtain ⟨rfl, rfl, rfl⟩ := (hruns tr r S').mp ⟨hrun, forwarded_of_lossless hrun⟩
    refine ⟨_, rfl, iff_of_true (by simp) (hq ▸ hret), by rw [hcount, hq], herror, rfl, hinside,
      fun _ => ⟨b, rfl, hq ▸ hsame⟩⟩

/-- After a refusal of the server there is nothing to show. -/
theorem printer_of_refusal {pPrinter : Option (Buffer w)} {pcbNeeded : Bool}
    (hfp : fp .GetPrinterW = true) (hsrv : srv.fp .GetPrinterW = true)
    (hsize : cbBuf.toNat < 2 ^ 31) (hq : q = srv.spool (srv.remoteCall hPrinter cbBuf))
    (hret : q.ret = 0) :
    PrinterComesBack srv hPrinter cbBuf pPrinter pcbNeeded S
      (DetourGetPrinterW fp hPrinter 2 pPrinter cbBuf pcbNeeded) := by
  have hans := answers_GetPrinterW hsrv (printerArg hPrinter 2 cbBuf) S.server
  have hcb : (printerArg hPrinter 2 cbBuf).cbBuf = cbBuf := rfl
  rw [printerCall_printerArg, ← hq, hcb, if_pos hsize] at hans
  unfold Server.printerReply at hans
  rw [if_neg ((BOOL.toBool_eq_true _).not.mpr (not_not.mpr hret))] at hans
  intro tr r S' hrun
  have hrefused := (DetourGetPrinterW_refused hfp hans rfl).mp ⟨hrun, forwarded_of_lossless hrun⟩
  rcases hrefused with ⟨hlossy, -⟩ | ⟨rfl, rfl, rfl⟩
  · exact hlossy.elim
  · rw [hq] at hret
    refine ⟨_, rfl, iff_of_false (by simp) (not_not.mpr hret), by rw [hq], rfl, rfl, ?_,
      fun h => absurd hret h⟩
    simp [QueryClientOp.Inside]

/-- The significant bytes lie in the buffer. -/
theorem Significant.lt {i cb : Nat} (hplaced : PrinterPlaced address cb q)
    (h : Significant address q.memory i) : i < cb := by
  rcases h with ⟨f, hf, -, hhi⟩ | ⟨f, hf, hp, n, hn, -, hhi⟩
  · have hend : offsetOf w PRINTER_INFO_2 f + 4 ≤ sizeOf w PRINTER_INFO_2 :=
      field_end_le PRINTER_INFO_2_nodup hf
    have hroom := hplaced.room
    omega
  · obtain ⟨n', -, hn', -, hend⟩ := hplaced.placed f hf hp
    rw [hn.unique hn'] at hhi
    omega

end

/-- The printer of the server comes back just if the server refuses, or the caller's buffer had
the significant bytes from `pcbNeeded` on before: only so many bytes are copied, and the spooler
may use the whole buffer. -/
theorem printers_come_back_just_if_the_rest_was_there {w : PtrWidth} (srv : Server w)
    (fp : Proc → Bool) (hPrinter : HANDLE w) (cbBuf : DWORD) (pPrinter : Option (Buffer w))
    (pcbNeeded : Bool) (S : QueryState w) (q : QueryRet)
    (hq : q = srv.spool (srv.remoteCall hPrinter cbBuf)) (hfp : fp .GetPrinterW = true)
    (hsrv : srv.fp .GetPrinterW = true) (hsize : cbBuf.toNat < 2 ^ 31)
    (hcaller : CallerBuffer pPrinter cbBuf.toNat S)
    (hplaced : q.ret ≠ 0 → PrinterPlaced (srv.infoAddress cbBuf) cbBuf.toNat q) :
    PrinterComesBack srv hPrinter cbBuf pPrinter pcbNeeded S
        (QueryDetour.DetourGetPrinterW fp hPrinter 2 pPrinter cbBuf pcbNeeded) ↔
      q.ret = 0 ∨
      ∀ i, q.count.toNat ≤ i → Significant (srv.infoAddress cbBuf) q.memory i →
        S.memory i = q.memory i := by
  by_cases hret : q.ret = 0
  · exact iff_of_true (printer_of_refusal hfp hsrv hsize hq hret) (Or.inl hret)
  · have hroom := (hplaced hret).room
    cases pPrinter with
    | none =>
      have h0 : cbBuf.toNat = 0 := hcaller
      have hpos : 0 < sizeOf w PRINTER_INFO_2 := by cases w <;> decide
      omega
    | some b =>
      rw [printer_of_success hfp hsrv hsize hcaller.1 hq hret (hplaced hret)]
      exact (or_iff_right hret).symm

/-! ### A printer whose name is `A` -/

/-- A `PRINTER_INFO_2` at 4096 with the name at an offset, and zeros between. -/
def printerBytes (nameAt : UInt8) (gap : Nat) : Bytes :=
  List.replicate 4 0 ++ [nameAt, 16, 0, 0] ++ List.replicate (76 + gap) 0 ++ [65, 0, 0, 0]

/-- A server whose printer needs 88 bytes, with the name of the printer at an offset. -/
def printerServer (nameAt : UInt8) (gap : Nat) : Server .x86 :=
  .plain .x86 fun _ =>
    { ret := 1, count := 88, memory := Mem.ofBytes (printerBytes nameAt gap) }

/-- A structure of 88 bytes whose only pointer is the name. -/
theorem placed_of_name {cb : Nat} {address : HANDLE .x86} {q : QueryRet} (hcount : q.count = 88)
    (hcb : 88 ≤ cb)
    (honly : ∀ f ∈ getPrinterFields,
      pointerAt .x86 q.memory (offsetOf .x86 PRINTER_INFO_2 f) ≠ 0 → f = .pPrinterName)
    (hname : Extent .pPrinterName q.memory (targetOf address q.memory .pPrinterName) 4)
    (hbehind : 84 ≤ targetOf address q.memory .pPrinterName)
    (hend : targetOf address q.memory .pPrinterName + 4 ≤ cb) : PrinterPlaced address cb q where
  needed := by rw [hcount]; exact hcb
  room := Nat.le_trans (by decide) hcb
  placed := by
    intro f hf hp
    obtain rfl := honly f hf hp
    exact ⟨4, by decide, hname, behind_apart hbehind, hend⟩

/-- The name right behind the structure. -/
theorem packed_placed : PrinterPlaced (w := .x86) 4096 88
    { ret := 1, count := 88, memory := Mem.ofBytes (printerBytes 0x54 0) } :=
  placed_of_name rfl (by decide) (by decide) ⟨1, by decide, by decide, by decide⟩ (by decide)
    (by decide)

/-- The name at the end of a buffer of 200 bytes. -/
theorem spread_placed : PrinterPlaced (w := .x86) 4096 200
    { ret := 1, count := 88, memory := Mem.ofBytes (printerBytes 0xC4 112) } :=
  placed_of_name rfl (by decide) (by decide) ⟨1, by decide, by decide, by decide⟩ (by decide)
    (by decide)

/-- A caller that offers as many bytes as the printer needs gets it. -/
theorem packed_printer_comes_back :
    PrinterComesBack (printerServer 0x54 0) 1 88 (some (zeroBuffer 88 (by decide))) true
      ⟨Mem.ofBytes [], 0, ⟨0, []⟩⟩
      (QueryDetour.DetourGetPrinterW (fun _ => true) 1 2 (some (zeroBuffer 88 (by decide))) 88
        true) :=
  (printers_come_back_just_if_the_rest_was_there (printerServer 0x54 0) (fun _ => true) 1 88
    (some (zeroBuffer 88 (by decide))) true ⟨Mem.ofBytes [], 0, ⟨0, []⟩⟩ _ rfl rfl rfl (by decide)
    ⟨rfl, rfl⟩ fun _ => packed_placed).mpr
      (Or.inr fun _ hi hsig => absurd (Significant.lt packed_placed hsig) (Nat.not_lt.mpr hi))

/-- A caller that offers more does not, if the spooler puts the name at the end. -/
theorem spread_printer_is_cut :
    PrinterPlaced ((printerServer 0xC4 112).infoAddress 200) 200
        ((printerServer 0xC4 112).spool ((printerServer 0xC4 112).remoteCall 1 200)) ∧
      ¬ PrinterComesBack (printerServer 0xC4 112) 1 200 (some (zeroBuffer 200 (by decide))) true
        ⟨Mem.ofBytes [], 0, ⟨0, []⟩⟩
        (QueryDetour.DetourGetPrinterW (fun _ => true) 1 2 (some (zeroBuffer 200 (by decide))) 200
          true) := by
  refine ⟨spread_placed, fun h => ?_⟩
  have hplaced : PrinterPlaced ((printerServer 0xC4 112).infoAddress 200) (200 : DWORD).toNat
      ((printerServer 0xC4 112).spool ((printerServer 0xC4 112).remoteCall 1 200)) := spread_placed
  have hrest := (printer_of_success rfl rfl (by decide) rfl rfl (by decide) hplaced).mp h
  have hsig : Significant (w := .x86) 4096 (Mem.ofBytes (printerBytes 0xC4 112)) 196 :=
    Or.inr ⟨.pPrinterName, by decide, by decide, 4, ⟨1, by decide, by decide, by decide⟩,
      by decide, by decide⟩
  exact absurd (hrest 196 (by decide) hsig) (by decide)

end RemotePrinter
