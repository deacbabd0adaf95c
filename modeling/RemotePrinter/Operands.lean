-- How an instruction is put together: the head, the displacement and the
-- immediate values behind it. One of x64 with an operand relative to the
-- instruction pointer is the same instruction with another displacement, but
-- for the operand, wherever it stands.
import RemotePrinter.TrampolineChains

open Interactive

namespace RemotePrinter

open HDE

/-! ## What the head of an instruction shows -/

theorem or_and_eq_zero {n : Nat} {f g mask : BitVec n} (hf : f &&& mask = 0) (hg : g &&& mask = 0) :
    (f ||| g) &&& mask = 0 := by
  rw [BitVec.and_or_distrib_right, hf, hg]
  exact BitVec.or_self

theorem byte_or_and_eq_zero {c d mask : UInt8} (hc : c &&& mask = 0) (hd : d &&& mask = 0) :
    (c ||| d) &&& mask = 0 := by
  apply UInt8.toBitVec_inj.mp
  rw [UInt8.toBitVec_and, UInt8.toBitVec_or]
  apply or_and_eq_zero
  · rw [← UInt8.toBitVec_and, hc]
    rfl
  · rw [← UInt8.toBitVec_and, hd]
    rfl

theorem byte_or_and_ne_zero {c mask : UInt8} (hc : c &&& mask ≠ 0) (d : UInt8) :
    (c ||| d) &&& mask ≠ 0 := by
  intro h
  apply hc
  have hbits := congrArg UInt8.toBitVec h
  rw [UInt8.toBitVec_and, UInt8.toBitVec_or, BitVec.and_or_distrib_right] at hbits
  apply UInt8.toBitVec_inj.mp
  rw [UInt8.toBitVec_and]
  exact (BitVec.or_eq_zero_iff.mp hbits).1

/-- The flags of the operands: those of the immediate values and of the displacement, and that of
a relative operand. -/
def F_OPERANDS : Flags := 0x3FC

def C_RELATIVE : UInt8 := C_REL8 ||| C_REL32

/-- An instruction with a ModR/M byte has no relative operand. -/
def NotRelative (cflags : UInt8) : Prop := cflags &&& C_MODRM ≠ 0 → cflags &&& C_RELATIVE = 0

/-- What holds before the displacement is read. -/
structure Headed (v : Vars) : Prop where
  flags : v.hs.flags &&& F_OPERANDS = 0
  two : v.hs.opcode2 ≠ 0 → v.hs.opcode = 0x0F
  modrm : v.cflags &&& C_MODRM = 0 → v.hs.modrm = 0
  apart : NotRelative v.cflags

/-- What holds before the ModR/M byte is read: the table has been looked up, or there is an
error. -/
structure Looked (w : PtrWidth) (v : Vars) : Prop where
  flags : v.hs.flags &&& F_OPERANDS = 0
  two : v.hs.opcode2 ≠ 0 → v.hs.opcode = 0x0F
  modrm : v.hs.modrm = 0
  entry : NotRelative (group w v).1

theorem table_separate (w : PtrWidth) (opcode : Fin 256) :
    (lookup w 0 (UInt8.ofNat opcode.val) = C_ERROR ∨
      NotRelative
        (group w { hs := {}, pref := 0, cflags := lookup w 0 (UInt8.ofNat opcode.val) }).1) ∧
    (lookup w DELTA_OPCODES (UInt8.ofNat opcode.val) = C_ERROR ∨
      NotRelative (group w
        { hs := {}, pref := 0, ht := DELTA_OPCODES
          cflags := lookup w DELTA_OPCODES (UInt8.ofNat opcode.val) }).1) := by
  unfold NotRelative
  revert opcode
  cases w <;> decide +kernel

theorem group_plain (w : PtrWidth) {v : Vars} (h : v.cflags &&& C_GROUP = 0) :
    (group w v).1 = v.cflags := by
  unfold group
  rw [if_neg (not_not_intro h)]

theorem lookup_separate {w : PtrWidth} {v : Vars} (hht : v.ht = 0 ∨ v.ht = DELTA_OPCODES)
    {opcode : UInt8} (hcflags : v.cflags = lookup w v.ht opcode) (herror : v.cflags ≠ C_ERROR) :
    NotRelative (group w v).1 := by
  have hgroup (v' : Vars) (hc : v'.cflags = v.cflags) (h : v'.ht = v.ht) :
      (group w v).1 = (group w v').1 := by
    unfold group
    rw [hc, h]
  have hopcode : UInt8.ofNat opcode.toNat = opcode := UInt8.ofNat_toNat
  obtain ⟨hone, htwo⟩ := table_separate w ⟨opcode.toNat, opcode.toNat_lt⟩
  rw [hopcode] at hone htwo
  rcases hht with hht | hht
  · rw [hht] at hcflags
    rw [hgroup { hs := {}, pref := 0, cflags := _ } hcflags.symm hht.symm]
    exact hone.resolve_left (hcflags ▸ herror)
  · rw [hht] at hcflags
    rw [hgroup { hs := {}, pref := 0, ht := _, cflags := _ } hcflags.symm hht.symm]
    exact htwo.resolve_left (hcflags ▸ herror)

/-- Before the opcode. -/
structure Blank (v : Vars) : Prop where
  flags : v.hs.flags &&& F_OPERANDS = 0
  two : v.hs.opcode2 = 0
  modrm : v.hs.modrm = 0
  ht : v.ht = 0

theorem looked_error {w : PtrWidth} {v : Vars} (hflags : v.hs.flags &&& F_OPERANDS = 0)
    (htwo : v.hs.opcode2 ≠ 0 → v.hs.opcode = 0x0F) (hmodrm : v.hs.modrm = 0) :
    Looked w v.error_opcode := by
  refine ⟨?_, htwo, hmodrm, ?_⟩
  · exact or_and_eq_zero (or_and_eq_zero hflags (by decide)) (by decide)
  · have hgroup : v.error_opcode.cflags &&& C_GROUP = 0 := by
      unfold Vars.error_opcode
      simp only
      split <;> decide
    rw [group_plain w hgroup]
    unfold NotRelative Vars.error_opcode
    simp only
    split <;> decide

theorem yields_prefixes (k : Nat) (c : UInt8) {hs : HDE} (pref : UInt8)
    (h : hs.flags = 0 ∧ hs.opcode2 = 0 ∧ hs.modrm = 0) :
    (prefixes k c hs pref).Yields fun r =>
      r.2.1.flags = 0 ∧ r.2.1.opcode2 = 0 ∧ r.2.1.modrm = 0 := by
  induction k generalizing c hs pref with
  | zero => exact h
  | succ k ih =>
    unfold prefixes
    refine (Prog.yields_any next).bind fun c _ => ?_
    split_ifs
    · exact ih _ _ h
    · exact ih _ _ h
    · exact ih _ _ h
    · exact ih _ _ h
    · exact ih _ _ h
    · exact ih _ _ h
    · exact h

theorem yields_opcodes (w : PtrWidth) (c : UInt8) {v : Vars} (h : Blank v) :
    (opcodes w c v).Yields (Looked w) := by
  have hbytes : (opcode_bytes w c v).Yields fun v' => v'.hs.flags = v.hs.flags ∧
      (v'.hs.opcode2 ≠ 0 → v'.hs.opcode = 0x0F) ∧ v'.hs.modrm = 0 ∧
      (v'.ht = 0 ∨ v'.ht = DELTA_OPCODES) := by
    unfold opcode_bytes
    simp only
    split_ifs with hc
    · exact (Prog.yields_any next).bind fun c' _ => ⟨rfl, fun _ => hc, h.modrm, .inr rfl⟩
    · exact ⟨rfl, fun h2 => absurd h.two h2, h.modrm, .inl h.ht⟩
    · exact ⟨rfl, fun h2 => absurd h.two h2, h.modrm, .inl h.ht⟩
    · exact ⟨rfl, fun h2 => absurd h.two h2, h.modrm, .inl h.ht⟩
  unfold opcodes
  refine hbytes.bind fun v' hv => ?_
  obtain ⟨hflags, htwo, hmodrm, hht⟩ := hv
  have hmask : v'.hs.flags &&& F_OPERANDS = 0 := by
    rw [hflags]
    exact h.flags
  simp only
  split_ifs with herror
  · exact looked_error hmask htwo hmodrm
  · exact ⟨hmask, htwo, hmodrm, lookup_separate hht rfl herror⟩

theorem yields_rex (c : UInt8) {v : Vars} (h : Blank v) : (rex c v).Yields (Looked .x64) := by
  have hflags : (v.hs.flags ||| F_PREFIX_REX) &&& F_OPERANDS = 0 :=
    or_and_eq_zero h.flags (by decide)
  unfold rex
  refine (Prog.yields_any next).bind fun c' _ => ?_
  simp only
  split_ifs
  · exact looked_error hflags (fun h2 => absurd h.two h2) h.modrm
  · exact yields_opcodes .x64 c' ⟨hflags, h.two, h.modrm, h.ht⟩

/-- An error changes the flags only, and none of an operand. -/
structure SameButErrors (v v' : Vars) : Prop where
  flags : v.hs.flags &&& F_OPERANDS = 0 → v'.hs.flags &&& F_OPERANDS = 0
  rest : v' = { v with hs := { v.hs with flags := v'.hs.flags } }

theorem SameButErrors.refl (v : Vars) : SameButErrors v v := ⟨id, rfl⟩

theorem SameButErrors.trans {v v' v'' : Vars} (h : SameButErrors v v') (h' : SameButErrors v' v'') :
    SameButErrors v v'' := by
  refine ⟨fun hv => h'.flags (h.flags hv), ?_⟩
  rw [h'.rest, h.rest]

theorem SameButErrors.ite {v v' : Vars} {p : Prop} [Decidable p] {e : Flags}
    (h : SameButErrors v v') (he : e &&& F_OPERANDS = 0) :
    SameButErrors v (if p then v'.error e else v') := by
  split_ifs
  · exact h.trans ⟨fun hv => or_and_eq_zero (or_and_eq_zero hv (by decide)) he, rfl⟩
  · exact h

theorem same_modrm_errors (w : PtrWidth) (x : UInt8) (v : Vars) :
    SameButErrors v (modrm_errors w x v) := by
  unfold modrm_errors
  simp only
  apply SameButErrors.ite _ (by decide)
  apply SameButErrors.ite _ (by decide)
  apply SameButErrors.ite _ (by decide)
  apply SameButErrors.ite _ (by decide)
  exact .refl v

theorem modrm_cflags_separate {c : UInt8} (hc : c &&& C_RELATIVE = 0) (opcode m_reg : UInt8) :
    modrm_cflags c opcode m_reg &&& C_RELATIVE = 0 := by
  unfold modrm_cflags
  split_ifs
  · exact byte_or_and_eq_zero hc (by decide)
  · exact byte_or_and_eq_zero hc (by decide)
  · exact hc
  · exact hc

theorem modrm_cflags_modrm {c : UInt8} (hc : c &&& C_MODRM ≠ 0) (opcode m_reg : UInt8) :
    modrm_cflags c opcode m_reg &&& C_MODRM ≠ 0 := by
  unfold modrm_cflags
  split_ifs
  · exact byte_or_and_ne_zero hc _
  · exact byte_or_and_ne_zero hc _
  · exact hc
  · exact hc

theorem yields_mod_rm (w : PtrWidth) (x : UInt8) {v : Vars} (hflags : v.hs.flags &&& F_OPERANDS = 0)
    (htwo : v.hs.opcode2 ≠ 0 → v.hs.opcode = 0x0F) (hc : v.cflags &&& C_MODRM ≠ 0)
    (hrel : v.cflags &&& C_RELATIVE = 0) : (mod_rm w x v).Yields Headed := by
  unfold mod_rm
  refine (Prog.yields_any next).bind fun c _ => ?_
  have hsame := same_modrm_errors w x { v with hs := with_modrm v.hs c }
  generalize modrm_errors w x { v with hs := with_modrm v.hs c } = v' at hsame
  have hmask : v'.hs.flags &&& F_OPERANDS = 0 := hsame.flags (or_and_eq_zero hflags (by decide))
  have hrest := hsame.rest
  have hopcodes : v'.hs.opcode2 = v.hs.opcode2 ∧ v'.hs.opcode = v.hs.opcode ∧
      v'.cflags = v.cflags := by
    rw [hrest]
    exact ⟨rfl, rfl, rfl⟩
  obtain ⟨h2, h1, hcf⟩ := hopcodes
  have htwo' : v'.hs.opcode2 ≠ 0 → v'.hs.opcode = 0x0F := by
    rw [h2, h1]
    exact htwo
  have hmodrm := modrm_cflags_modrm (hcf ▸ hc) v'.opcode v'.hs.modrm_reg
  have happart := modrm_cflags_separate (hcf ▸ hrel) v'.opcode v'.hs.modrm_reg
  simp only
  generalize (if is_mov_cr v'.hs v'.opcode = true then 3 else v'.hs.modrm_mod) = m_mod
  split_ifs
  · refine (Prog.yields_any next).bind fun c' _ => ?_
    exact ⟨or_and_eq_zero hmask (by decide), htwo', fun h0 => absurd h0 hmodrm, fun _ => happart⟩
  · exact ⟨hmask, htwo', fun h0 => absurd h0 hmodrm, fun _ => happart⟩

theorem yields_operands {w : PtrWidth} {v : Vars} (h : Looked w v) :
    (operands w v).Yields Headed := by
  unfold operands
  have hsame : SameButErrors { v with cflags := (group w v).1 }
      (if v.hs.opcode2 ≠ 0 ∧ lookup w (DELTA_PREFIXES w) v.opcode &&& v.pref ≠ 0 then
        Vars.error { v with cflags := (group w v).1 } F_ERROR_OPCODE
      else { v with cflags := (group w v).1 }) :=
    (SameButErrors.refl _).ite (by decide)
  simp only
  generalize (if v.hs.opcode2 ≠ 0 ∧ lookup w (DELTA_PREFIXES w) v.opcode &&& v.pref ≠ 0 then
      Vars.error { v with cflags := (group w v).1 } F_ERROR_OPCODE
    else { v with cflags := (group w v).1 }) = v' at hsame
  have hmask := hsame.flags h.flags
  have hrest : v'.hs.opcode2 = v.hs.opcode2 ∧ v'.hs.opcode = v.hs.opcode ∧
      v'.hs.modrm = v.hs.modrm ∧ v'.cflags = (group w v).1 := by
    rw [hsame.rest]
    exact ⟨rfl, rfl, rfl, rfl⟩
  obtain ⟨h2, h1, hm, hc⟩ := hrest
  have htwo : v'.hs.opcode2 ≠ 0 → v'.hs.opcode = 0x0F := by
    rw [h2, h1]
    exact h.two
  have happart : NotRelative v'.cflags := hc ▸ h.entry
  split_ifs with hmodrm
  · exact yields_mod_rm w _ hmask htwo hmodrm (happart hmodrm)
  · exact ⟨or_and_eq_zero (or_and_eq_zero hmask (by decide)) (by decide), htwo,
      fun _ => hm.trans h.modrm, happart⟩
  · exact ⟨hmask, htwo, fun _ => hm.trans h.modrm, happart⟩

theorem yields_head (w : PtrWidth) : (head w).Yields Headed := by
  unfold head
  refine (yields_prefixes 16 0 0 ⟨rfl, rfl, rfl⟩).bind fun r hr => ?_
  obtain ⟨c, hs, pref⟩ := r
  obtain ⟨-, htwo, hmodrm⟩ := hr
  have hpref : (pref.toBitVec.setWidth 32 <<< 23) &&& F_OPERANDS = 0 := by
    -- The flags of the operands are below bit 23.
    apply BitVec.eq_of_getLsbD_eq
    intro i hi
    by_cases hlow : i < 23
    · simp [hlow]
    · have hmask : F_OPERANDS.getLsbD i = false := by
        have hlt : F_OPERANDS.toNat < 2 ^ i :=
          Nat.lt_of_lt_of_le (by decide)
            (Nat.pow_le_pow_right (n := 2) (by decide) (Nat.le_of_not_lt hlow))
        exact Nat.testBit_lt_two_pow hlt
      simp [hmask]
  have hblank : Blank { hs := { hs with flags := pref.toBitVec.setWidth 32 <<< 23 }
                        pref := if pref = 0 then PRE_NONE else pref } :=
    ⟨hpref, htwo, hmodrm, rfl⟩
  simp only
  by_cases hw : w = .x64 ∧ c &&& 0xf0 = 0x40
  · rw [if_pos hw]
    obtain ⟨rfl, -⟩ := hw
    exact (yields_rex c hblank).bind fun v hv => yields_operands hv
  · rw [if_neg hw]
    exact (yields_opcodes w c hblank).bind fun v hv => yields_operands hv

/-- The opcode is not changed behind the head. -/
def KeepsOpcode (hs : HDE) (p : Scanner HDE) : Prop :=
  p.Yields fun hs' => hs'.opcode = hs.opcode ∧ hs'.opcode2 = hs.opcode2

theorem keeps_immediate (k : Nat) (g : Flags) (hs : HDE) : KeepsOpcode hs (immediate k g hs) :=
  (Prog.yields_any (number k)).bind fun _ _ => ⟨rfl, rfl⟩

theorem keeps_displacement (w : PtrWidth) (v : Vars) : KeepsOpcode v.hs (displacement w v) :=
  (Prog.yields_any (number v.disp_size)).bind fun _ _ => ⟨rfl, rfl⟩

theorem KeepsOpcode.bind {hs : HDE} {p : Scanner HDE} {q : HDE → Scanner HDE}
    (hp : KeepsOpcode hs p) (hq : ∀ hs', KeepsOpcode hs' (q hs')) : KeepsOpcode hs (p >>= q) := by
  refine Prog.Yields.bind hp fun hs' h => ?_
  have hrest := hq hs'
  unfold KeepsOpcode at hrest
  rw [h.1, h.2] at hrest
  exact hrest

theorem keeps_immediates8 (w : PtrWidth) (c : UInt8) (hs : HDE) :
    KeepsOpcode hs (immediates8 w c hs) := by
  have hrel (hs : HDE) : KeepsOpcode hs
      (if c &&& C_REL32 ≠ 0 then immediate 4 (F_IMM32 ||| F_RELATIVE w) hs
      else if c &&& C_REL8 ≠ 0 then immediate 1 (F_IMM8 ||| F_RELATIVE w) hs
      else pure hs) := by
    split_ifs
    · exact keeps_immediate _ _ hs
    · exact keeps_immediate _ _ hs
    · exact ⟨rfl, rfl⟩
  unfold immediates8
  by_cases h : c &&& C_IMM8 ≠ 0
  · rw [if_pos h]
    exact (keeps_immediate _ _ hs).bind hrel
  · rw [if_neg h]
    exact hrel hs

theorem keeps_immediates16 (w : PtrWidth) (c : UInt8) (hs : HDE) :
    KeepsOpcode hs (immediates16 w c hs) := by
  have himm (hs : HDE) : KeepsOpcode hs (immediate16 w hs) := by
    unfold immediate16
    by_cases h : w = .x86 ∧ hs.flags &&& (F_IMM32 ||| F_IMM16) ≠ 0
    · rw [if_pos h]
      exact (Prog.yields_any (number 2)).bind fun _ _ => ⟨rfl, rfl⟩
    · rw [if_neg h]
      exact keeps_immediate _ _ hs
  unfold immediates16
  by_cases h : c &&& C_IMM16 ≠ 0
  · rw [if_pos h]
    exact (himm hs).bind (keeps_immediates8 w c)
  · rw [if_neg h]
    exact keeps_immediates8 w c hs

theorem keeps_immediates (w : PtrWidth) (c pref : UInt8) (op64 : Bool) (hs : HDE) :
    KeepsOpcode hs (immediates w c pref op64 hs) := by
  unfold immediates
  split_ifs
  · exact keeps_immediate _ _ hs
  · exact keeps_immediate _ _ hs
  · exact (keeps_immediate _ _ hs).bind (keeps_immediates16 w c)
  · exact (keeps_immediate _ _ hs).bind (keeps_immediates16 w c)
  · exact (keeps_immediate _ _ hs).bind (keeps_immediates8 w c)
  · exact (keeps_immediate _ _ hs).bind (keeps_immediates16 w c)
  · exact keeps_immediates16 w c hs

/-- An opcode of two bytes begins with `0F`. -/
theorem two_bytes {w : PtrWidth} {m : Space w.bits} {a : HANDLE w}
    (h : (HDE_DISASM m a).opcode2 ≠ 0) : (HDE_DISASM m a).opcode = 0x0F := by
  have hscan : (scan w).Yields fun hs => hs.opcode2 ≠ 0 → hs.opcode = 0x0F := by
    unfold scan
    refine (yields_head w).bind fun v hv => ?_
    have hkeeps : KeepsOpcode v.hs (do
        let hs ← if v.cflags &&& C_MODRM ≠ 0 then displacement w v else pure v.hs
        immediates w v.cflags v.pref v.op64 hs) := by
      by_cases h : v.cflags &&& C_MODRM ≠ 0
      · rw [if_pos h]
        exact (keeps_displacement w v).bind (keeps_immediates w _ _ _)
      · rw [if_neg h]
        exact keeps_immediates w _ _ _ _
    refine hkeeps.mono fun hs hsame => ?_
    rw [hsame.1, hsame.2]
    exact hv.two
  have hfetch := hscan.fetch m a
  unfold HDE_DISASM at h ⊢
  simp only at h ⊢
  split at h
  · rename_i hlen
    rw [if_pos hlen]
    exact hfetch h
  · rename_i hlen
    rw [if_neg hlen]
    exact hfetch h

/-! ## The immediate values -/

/-- It takes `k` bytes and sets the flags `g`, whatever the displacement is. -/
def Appends (p : HDE → Scanner HDE) (k : Nat) (g : Flags) : Prop :=
  ∀ (m : Space PtrWidth.x64.bits) (a : HANDLE .x64), ∃ imm : Nat → Nat, ∀ hs,
    (p hs).fetch m a = ({ hs with flags := hs.flags ||| g, imm := imm hs.imm }, k)

theorem appends_none : Appends (fun hs => pure hs) 0 0 := by
  intro m a
  refine ⟨id, fun hs => ?_⟩
  have hflags : hs.flags ||| 0 = hs.flags := BitVec.or_zero
  rw [hflags]
  rfl

theorem appends_immediate (k : Nat) (g : Flags) : Appends (immediate k g) k g := by
  intro m a
  exact ⟨fun imm => stored k imm (ByteMemory.leNat (m.read a k)), fun hs => rfl⟩

theorem Appends.bind {p q : HDE → Scanner HDE} {k l : Nat} {g g' : Flags} (hp : Appends p k g)
    (hq : Appends q l g') : Appends (fun hs => p hs >>= q) (k + l) (g ||| g') := by
  intro m a
  obtain ⟨imm, hfirst⟩ := hp m a
  obtain ⟨imm', hsecond⟩ := hq m (a + BitVec.ofNat _ k)
  refine ⟨imm' ∘ imm, fun hs => ?_⟩
  rw [Prog.fetch_bind, hfirst, hsecond, BitVec.or_assoc]
  rfl

/-- An immediate value that is there under a condition. -/
theorem Appends.optional {p q : HDE → Scanner HDE} {k l : Nat} {g g' : Flags} (c : Prop)
    [Decidable c] (hp : Appends p k g) (hq : Appends q l g') :
    Appends (fun hs => if c then p hs >>= q else q hs) ((if c then k else 0) + l)
      ((if c then g else 0) ||| g') := by
  split_ifs
  · exact hp.bind hq
  · exact appends_none.bind hq

theorem and_relative {c : UInt8} (h : c &&& C_RELATIVE = 0) :
    c &&& C_REL8 = 0 ∧ c &&& C_REL32 = 0 := by
  have hbits := congrArg UInt8.toBitVec h
  unfold C_RELATIVE at hbits
  rw [UInt8.toBitVec_and, UInt8.toBitVec_or, BitVec.and_or_distrib_left] at hbits
  obtain ⟨h8, h32⟩ := BitVec.or_eq_zero_iff.mp hbits
  constructor
  · apply UInt8.toBitVec_inj.mp
    rw [UInt8.toBitVec_and]
    exact h8
  · apply UInt8.toBitVec_inj.mp
    rw [UInt8.toBitVec_and]
    exact h32

/-- The number of bytes of an immediate value can be told from its flags. -/
def Sized (k : Nat) (g : Flags) : Prop :=
  g &&& F_OPERANDS = g &&& 0x3C ∧ ((g &&& 0x3C) >>> 2).toNat = k

instance (k : Nat) (g : Flags) : Decidable (Sized k g) := inferInstanceAs (Decidable (_ ∧ _))

/-- A relative operand, and an immediate value of eight bits before it. -/
theorem appends_immediates8 (c : UInt8) : ∃ k g,
    Appends (immediates8 .x64 c) ((if c &&& C_IMM8 ≠ 0 then 1 else 0) + k)
      ((if c &&& C_IMM8 ≠ 0 then F_IMM8 else 0) ||| g) ∧
    (c &&& C_RELATIVE = 0 → k = 0 ∧ g = 0) := by
  have hrel : ∃ k g, Appends (fun hs =>
      if c &&& C_REL32 ≠ 0 then immediate 4 (F_IMM32 ||| F_RELATIVE .x64) hs
      else if c &&& C_REL8 ≠ 0 then immediate 1 (F_IMM8 ||| F_RELATIVE .x64) hs
      else pure hs) k g ∧ (c &&& C_RELATIVE = 0 → k = 0 ∧ g = 0) := by
    by_cases h32 : c &&& C_REL32 = 0
    · by_cases h8 : c &&& C_REL8 = 0
      · refine ⟨0, 0, ?_, fun _ => ⟨rfl, rfl⟩⟩
        simp only [h32, h8, ne_eq, not_true_eq_false, if_false]
        exact appends_none
      · refine ⟨1, F_IMM8 ||| F_RELATIVE .x64, ?_, fun h => absurd (and_relative h).1 h8⟩
        simp only [h32, h8, ne_eq, not_true_eq_false, if_false, not_false_eq_true, if_true]
        exact appends_immediate 1 _
    · refine ⟨4, F_IMM32 ||| F_RELATIVE .x64, ?_, fun h => absurd (and_relative h).2 h32⟩
      simp only [h32, ne_eq, not_false_eq_true, if_true]
      exact appends_immediate 4 _
  obtain ⟨k, g, happ, hnone⟩ := hrel
  exact ⟨k, g, (appends_immediate 1 F_IMM8).optional (c &&& C_IMM8 ≠ 0) happ, hnone⟩

theorem appends_immediates (c pref : UInt8) (op64 : Bool) :
    ∃ k g, Appends (immediates .x64 c pref op64) k g ∧ (c &&& C_RELATIVE = 0 → Sized k g) := by
  obtain ⟨k, g, happ8, hnone⟩ := appends_immediates8 c
  have happ16 := (appends_immediate 2 F_IMM16).optional (c &&& C_IMM16 ≠ 0) happ8
  have himm16 : (fun hs => if c &&& C_IMM16 ≠ 0 then immediate 2 F_IMM16 hs >>= immediates8 .x64 c
      else immediates8 .x64 c hs) = immediates16 .x64 c := by
    funext hs
    unfold immediates16 immediate16
    simp only [reduceCtorEq, false_and, if_false]
    rfl
  rw [himm16] at happ16
  unfold immediates
  by_cases h66 : c &&& C_IMM_P66 = 0
  · simp only [h66, ne_eq, not_true_eq_false, if_false]
    refine ⟨_, _, happ16, fun h => ?_⟩
    obtain ⟨rfl, rfl⟩ := hnone h
    split_ifs <;> decide
  · by_cases h32 : c &&& C_REL32 = 0
    · simp only [h66, h32, ne_eq, not_false_eq_true, not_true_eq_false, if_true, if_false]
      cases op64 with
      | true =>
        refine ⟨_, _, (appends_immediate 8 F_IMM64).bind happ16, fun h => ?_⟩
        obtain ⟨rfl, rfl⟩ := hnone h
        split_ifs <;> decide
      | false =>
        by_cases hpref : pref &&& PRE_66 = 0
        · simp only [hpref, Bool.false_eq_true, if_false, if_true]
          refine ⟨_, _, (appends_immediate 4 F_IMM32).bind happ16, fun h => ?_⟩
          obtain ⟨rfl, rfl⟩ := hnone h
          split_ifs <;> decide
        · simp only [hpref, Bool.false_eq_true, if_false]
          refine ⟨_, _, (appends_immediate 2 F_IMM16).bind happ8, fun h => ?_⟩
          obtain ⟨rfl, rfl⟩ := hnone h
          split_ifs <;> decide
    · simp only [h66, h32, ne_eq, not_false_eq_true, if_true]
      by_cases hpref : pref &&& PRE_66 = 0
      · simp only [hpref, not_true_eq_false, if_false]
        exact ⟨_, _, appends_immediate 4 _, fun h => absurd (and_relative h).2 h32⟩
      · simp only [hpref, not_false_eq_true, if_true]
        exact ⟨_, _, appends_immediate 2 _, fun h => absurd (and_relative h).2 h32⟩

/-! ## Another displacement -/

/-- The parts of an instruction with an operand relative to the instruction pointer: `k` bytes of a
head, the displacement, and `l` bytes of immediate values. -/
structure RipParts (m : Space PtrWidth.x64.bits) (a : HANDLE .x64) (v : Vars) (k l : Nat)
    (g : Flags) : Prop where
  headed : (head .x64).fetch m a = (v, k)
  modrm : v.cflags &&& C_MODRM ≠ 0
  disp : v.disp_size = 4
  appends : Appends (immediates .x64 v.cflags v.pref v.op64) l g
  len : (HDE_DISASM m a).len = k + 4 + l
  immSize : (HDE_DISASM m a).immSize = l

theorem disp_flags_disp32 {k : Nat} (h : disp_flags .x64 k &&& F_DISP32 .x64 ≠ 0) : k = 4 := by
  unfold disp_flags at h
  split_ifs at h with h1 h2 h4
  · exact absurd (by decide) h
  · exact absurd (by decide) h
  · exact h4
  · exact absurd (by decide) h

theorem and_part {n : Nat} {f mask part : BitVec n} (hf : f &&& mask = 0)
    (hpart : mask &&& part = part) : f &&& part = 0 := by
  rw [← hpart, ← BitVec.and_assoc, hf]
  exact BitVec.zero_and

theorem and_eq_of_or {n : Nat} {f g mask : BitVec n} (hf : f &&& mask = 0) :
    (f ||| g) &&& mask = g &&& mask := by
  rw [BitVec.and_or_distrib_right, hf]
  exact BitVec.zero_or

theorem ripParts {m : Space PtrWidth.x64.bits} {a : HANDLE .x64}
    (hvalid : (HDE_DISASM m a).flags &&& F_ERROR = 0)
    (hrip : (HDE_DISASM m a).modrm &&& 0xC7 = 0x05)
    (hdisp : (HDE_DISASM m a).flags &&& F_DISP32 .x64 ≠ 0) :
    ∃ v k l g, RipParts m a v k l g := by
  have hheaded := (yields_head .x64).fetch m a
  cases hhead : (head .x64).fetch m a with
  | mk v k =>
    rw [hhead] at hheaded
    obtain ⟨l, g, happ, hsized⟩ := appends_immediates v.cflags v.pref v.op64
    obtain ⟨hdisasm, -⟩ := disasm_valid hvalid
    unfold scan at hdisasm
    rw [Prog.fetch_bind, hhead] at hdisasm
    by_cases hmodrm : v.cflags &&& C_MODRM = 0
    · -- There is no ModR/M byte.
      obtain ⟨imm, hfetch⟩ := happ m (a + BitVec.ofNat _ k)
      simp only [hmodrm, ne_eq, not_true_eq_false, if_false, Prog.pure_eq, Prog.done_bind,
        hfetch] at hdisasm
      rw [hdisasm] at hrip
      have hzero : v.hs.modrm = 0 := hheaded.modrm hmodrm
      simp only [hzero] at hrip
      exact absurd hrip (by decide)
    · obtain ⟨imm, hfetch⟩ :=
        happ m (a + BitVec.ofNat _ k + BitVec.ofNat _ v.disp_size)
      have hsecond : (displacement .x64 v).fetch m (a + BitVec.ofNat _ k) =
          ({ v.hs with
              flags := v.hs.flags ||| disp_flags .x64 v.disp_size
              disp := ByteMemory.leNat (m.read (a + BitVec.ofNat _ k) v.disp_size) },
            v.disp_size) :=
        rfl
      simp only [hmodrm, ne_eq, not_false_eq_true, if_true, Prog.fetch_bind, hsecond,
        hfetch] at hdisasm
      have hsize := hsized (hheaded.apart hmodrm)
      have hg : g &&& F_DISP32 .x64 = 0 := by
        have hmask : F_OPERANDS &&& F_DISP32 .x64 = F_DISP32 .x64 := by decide
        rw [← hmask, ← BitVec.and_assoc, hsize.1, BitVec.and_assoc]
        exact BitVec.and_zero
      have hflags := congrArg HDE.flags hdisasm
      simp only at hflags
      have hfour : v.disp_size = 4 := by
        apply disp_flags_disp32
        intro hno
        apply hdisp
        rw [hflags]
        exact or_and_eq_zero (or_and_eq_zero (and_part hheaded.flags (by decide)) hno) hg
      refine ⟨v, k, l, g, hhead, hmodrm, hfour, happ, ?_, ?_⟩
      · rw [hdisasm, hfour, Nat.add_assoc]
      · unfold HDE.immSize
        have hbefore : (v.hs.flags ||| disp_flags .x64 v.disp_size) &&& 0x3C = 0 := by
          rw [hfour]
          exact or_and_eq_zero (and_part hheaded.flags (by decide)) (by decide)
        rw [hflags, and_eq_of_or hbefore]
        exact hsize.2

/-- What the disassembler makes of the parts. -/
theorem RipParts.fetch {m : Space PtrWidth.x64.bits} {a : HANDLE .x64} {v : Vars} {k l : Nat}
    {g : Flags} (h : RipParts m a v k l g) {M : Space PtrWidth.x64.bits} {b : HANDLE .x64}
    (hhead : M.read b k = m.read a k)
    (himm : M.read (b + BitVec.ofNat _ k + BitVec.ofNat _ 4) l =
      m.read (a + BitVec.ofNat _ k + BitVec.ofNat _ 4) l) :
    ∃ imm : Nat, (scan .x64).fetch M b =
        ({ v.hs with
            flags := v.hs.flags ||| disp_flags .x64 4 ||| g
            disp := ByteMemory.leNat (M.read (b + BitVec.ofNat _ k) 4)
            imm := imm }, k + (4 + l)) ∧
      (scan .x64).fetch m a =
        ({ v.hs with
            flags := v.hs.flags ||| disp_flags .x64 4 ||| g
            disp := ByteMemory.leNat (m.read (a + BitVec.ofNat _ k) 4)
            imm := imm }, k + (4 + l)) := by
  obtain ⟨imm, hfetch⟩ := h.appends m (a + BitVec.ofNat _ k + BitVec.ofNat _ 4)
  have hmoved (hs : HDE) : (immediates .x64 v.cflags v.pref v.op64 hs).fetch M
      (b + BitVec.ofNat _ k + BitVec.ofNat _ 4) =
        ({ hs with flags := hs.flags ||| g, imm := imm hs.imm }, l) := by
    rw [← hfetch hs]
    apply Prog.fetch_congr
    rw [hfetch hs]
    exact himm
  have hhead' : (head .x64).fetch M b = (v, k) := by
    rw [← h.headed]
    apply Prog.fetch_congr
    rw [h.headed]
    exact hhead
  have hdisp (m : Space PtrWidth.x64.bits) (a : HANDLE .x64) :
      (displacement .x64 v).fetch m a =
        ({ v.hs with
            flags := v.hs.flags ||| disp_flags .x64 4
            disp := ByteMemory.leNat (m.read a 4) }, 4) := by
    unfold displacement
    rw [h.disp]
    rfl
  refine ⟨imm v.hs.imm, ?_, ?_⟩
  · unfold scan
    rw [Prog.fetch_bind, hhead']
    simp only [h.modrm, ne_eq, not_false_eq_true, if_true, Prog.fetch_bind, hdisp, hmoved]
  · unfold scan
    rw [Prog.fetch_bind, h.headed]
    simp only [h.modrm, ne_eq, not_false_eq_true, if_true, Prog.fetch_bind, hdisp, hfetch]

theorem length_withDisp {hs : HDE} {inst disp : List UInt8} {k : Nat} (hinst : inst.length = hs.len)
    (hdisp : disp.length = 4) (hlen : hs.len = k + 4 + hs.immSize) :
    (hs.withDisp inst disp).length = hs.len := by
  unfold HDE.withDisp
  rw [List.length_append, List.length_append, List.length_take, List.length_drop]
  omega

/-- The instruction with another displacement, where `b` is its place. -/
theorem disasm_displaced {m M : Space PtrWidth.x64.bits} {a b : HANDLE .x64} {disp : List UInt8}
    (hvalid : (HDE_DISASM m a).flags &&& F_ERROR = 0)
    (hrip : (HDE_DISASM m a).modrm &&& 0xC7 = 0x05)
    (hflag : (HDE_DISASM m a).flags &&& F_DISP32 .x64 ≠ 0) (hdisp : disp.length = 4)
    (h : M.read b (HDE_DISASM m a).len =
      (HDE_DISASM m a).withDisp (m.read a (HDE_DISASM m a).len) disp) :
    HDE_DISASM M b = { HDE_DISASM m a with disp := ByteMemory.leNat disp } := by
  obtain ⟨v, k, l, g, hparts⟩ := ripParts hvalid hrip hflag
  have hlen := hparts.len
  have himm := hparts.immSize
  have hbytes : M.read b (k + (4 + l)) =
      m.read a k ++ (disp ++ m.read (a + BitVec.ofNat _ k + BitVec.ofNat _ 4) l) := by
    unfold HDE.withDisp at h
    rw [himm, hlen] at h
    have hk : k + 4 + l - l - 4 = k := by omega
    have hk4 : k + 4 + l - l = k + 4 := by omega
    have hl : k + 4 + l - (k + 4) = l := by omega
    rw [hk, hk4, Space.take_read m a (by omega), Space.drop_read m a (by omega), hl,
      BitVec.ofNat_add, ← BitVec.add_assoc, Nat.add_assoc, List.append_assoc] at h
    exact h
  rw [Space.read_add, Space.read_add] at hbytes
  obtain ⟨hhead, hrest⟩ := List.append_inj hbytes (by rw [Space.length_read, Space.length_read])
  obtain ⟨hd, hi⟩ := List.append_inj hrest (by rw [Space.length_read, hdisp])
  obtain ⟨imm, hfetchM, hfetchm⟩ := hparts.fetch hhead hi
  obtain ⟨hdisasm, hshort⟩ := disasm_valid hvalid
  rw [hfetchm] at hdisasm hshort
  rw [hdisasm]
  unfold HDE_DISASM
  rw [hfetchM, hd]
  exact if_neg (by omega)

end RemotePrinter
