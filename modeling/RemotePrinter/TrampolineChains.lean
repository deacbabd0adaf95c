-- What a trampoline that was created is made of: one piece behind the other,
-- each for the instruction that stands behind the one before in the function.
-- As long as a jump inside the bytes that are overwritten is open, the pieces
-- have the lengths of their instructions.
import RemotePrinter.ControlFlow

open Interactive

namespace RemotePrinter

open HDE

/-! ## The length of an instruction -/

section
variable {w : PtrWidth}

theorem len_le (m : Space w.bits) (a : HANDLE w) : (HDE_DISASM m a).len ≤ 15 := by
  unfold HDE_DISASM
  simp only
  split
  · exact Nat.le_refl 15
  · rename_i h
    exact Nat.le_of_not_lt h

theorem fetch_next (m : Space w.bits) (a : HANDLE w) :
    next.fetch m a = ((m.read a 1).headD 0, 1) := rfl

theorem len_pos (m : Space w.bits) (a : HANDLE w) : 0 < (HDE_DISASM m a).len := by
  have hprefixes : 0 < ((prefixes 16 0 {} 0).fetch m a).2 := by
    unfold prefixes
    rw [Prog.fetch_bind, fetch_next]
    omega
  have hscan : 0 < ((scan w).fetch m a).2 := by
    unfold scan head
    rw [Prog.fetch_bind, Prog.fetch_bind]
    omega
  unfold HDE_DISASM
  simp only
  split
  · exact Nat.zero_lt_succ 14
  · exact hscan

/-- What is too long has an error. -/
theorem disasm_valid {m : Space w.bits} {a : HANDLE w}
    (hvalid : (HDE_DISASM m a).flags &&& F_ERROR = 0) :
    HDE_DISASM m a = { ((scan w).fetch m a).1 with len := ((scan w).fetch m a).2 } ∧
      ((scan w).fetch m a).2 ≤ 15 := by
  by_cases hlen : ((scan w).fetch m a).2 > 15
  · have herror : (HDE_DISASM m a).flags =
        ((scan w).fetch m a).1.flags ||| F_ERROR ||| F_ERROR_LENGTH := by
      unfold HDE_DISASM
      simp only [hlen, if_true]
    rw [herror] at hvalid
    have hbit := congrArg (fun d => d.getLsbD 12) hvalid
    simp [F_ERROR, F_ERROR_LENGTH] at hbit
  · refine ⟨?_, Nat.le_of_not_lt hlen⟩
    unfold HDE_DISASM
    simp only [hlen, if_false]

/-- An instruction without an error is the same wherever its bytes stand. -/
theorem HDE_DISASM_congr {m m' : Space w.bits} {a a' : HANDLE w}
    (hvalid : (HDE_DISASM m a).flags &&& F_ERROR = 0)
    (h : m'.read a' (HDE_DISASM m a).len = m.read a (HDE_DISASM m a).len) :
    HDE_DISASM m' a' = HDE_DISASM m a := by
  have hsize := congrArg HDE.len (disasm_valid hvalid).1
  rw [hsize] at h
  unfold HDE_DISASM
  rw [Prog.fetch_congr h]

end

/-! ## A turn of the loop -/

section
variable {w : PtrWidth}

def TRAMPOLINE.pOldInst (ct : TRAMPOLINE w) (oldPos : Nat) : HANDLE w :=
  ct.pTarget + BitVec.ofNat w.bits oldPos

def TRAMPOLINE.pNewInst (ct : TRAMPOLINE w) (newPos : Nat) : HANDLE w :=
  ct.pTrampoline + BitVec.ofNat w.bits newPos

/-- The instruction at `oldPos`, as the memory `m` has it, is at `newPos` in the memory `m'` as the
piece `p`. `jmpDest` is where the jumps before it lead. -/
structure Placed (ct : TRAMPOLINE w) (m m' : Space w.bits) (jmpDest : HANDLE w)
    (oldPos newPos : Nat) (p : CopySrc w) : Prop where
  valid : (HDE_DISASM m (ct.pOldInst oldPos)).flags &&& F_ERROR = 0
  made : piece ct.pTarget m oldPos (ct.pNewInst newPos) jmpDest
    (HDE_DISASM m (ct.pOldInst oldPos)) = some p
  kept : ct.pOldInst oldPos < p.jmpDest →
    p.bytes.length = (HDE_DISASM m (ct.pOldInst oldPos)).len
  room : newPos + p.bytes.length ≤ TRAMPOLINE_MAX_SIZE w
  written : m'.read (ct.pNewInst newPos) p.bytes.length = p.bytes

theorem piece_congr {pTarget : HANDLE w} {m m' : Space w.bits} {oldPos : Nat}
    {pNewInst jmpDest : HANDLE w} {hs : HDE}
    (h : m'.read (pTarget + BitVec.ofNat w.bits oldPos) hs.len =
      m.read (pTarget + BitVec.ofNat w.bits oldPos) hs.len) :
    piece pTarget m' oldPos pNewInst jmpDest hs = piece pTarget m oldPos pNewInst jmpDest hs := by
  unfold piece
  simp only [h]

/-- Behind the bytes that are overwritten there is a jump to the rest of the function. -/
theorem piece_last {pTarget : HANDLE w} {m : Space w.bits} {oldPos : Nat}
    {pNewInst jmpDest : HANDLE w} {hs : HDE} (h : sizeof_JMP_REL ≤ oldPos) :
    piece pTarget m oldPos pNewInst jmpDest hs =
      some ⟨jmp w pNewInst (pTarget + BitVec.ofNat w.bits oldPos), true, jmpDest⟩ := by
  unfold piece
  exact if_pos h

theorem slot_lt_memory (w : PtrWidth) : TRAMPOLINE_MAX_SIZE w < 2 ^ w.bits := by
  cases w <;> decide

theorem max_le_slot (w : PtrWidth) : TRAMPOLINE_MAX_SIZE w ≤ MEMORY_SLOT_SIZE w := by
  cases w <;> decide

/-- All that a turn does. -/
theorem turn_cases {ct : TRAMPOLINE w} {s s' : Turning w} {finished : Bool}
    (h : turn ct s = some (s', finished)) :
    ∃ p, Placed ct s.mem s'.mem s.jmpDest s.oldPos s.newPos p ∧ finished = p.finished ∧
      s' = { mem := s.mem.write (ct.pNewInst s.newPos) p.bytes
             oldPos := s.oldPos + (HDE_DISASM s.mem (ct.pOldInst s.oldPos)).len
             newPos := s.newPos + p.bytes.length
             jmpDest := p.jmpDest
             ips := s.ips ++ [(s.oldPos, s.newPos)] } := by
  unfold turn at h
  simp only at h
  split at h
  · cases h
  · rename_i hvalid
    cases hp : piece ct.pTarget s.mem s.oldPos (ct.pNewInst s.newPos) s.jmpDest
        (HDE_DISASM s.mem (ct.pOldInst s.oldPos)) with
    | none =>
      rw [TRAMPOLINE.pNewInst, TRAMPOLINE.pOldInst] at hp
      rw [hp] at h
      cases h
    | some p =>
      have hp' := hp
      rw [TRAMPOLINE.pNewInst, TRAMPOLINE.pOldInst] at hp'
      rw [hp'] at h
      simp only [Option.bind_eq_bind, Option.bind_some] at h
      split at h
      · cases h
      · rename_i hkept
        split at h
        · cases h
        · rename_i hroom
          split at h
          · cases h
          · rw [Option.some.injEq, Prod.mk.injEq] at h
            obtain ⟨rfl, rfl⟩ := h
            have hsize := slot_lt_memory w
            refine ⟨p, ⟨?_, hp, ?_, Nat.le_of_not_lt hroom, ?_⟩, rfl, rfl⟩
            · exact Classical.not_not.mp hvalid
            · intro hlt
              exact Classical.not_not.mp fun hne => hkept ⟨hlt, hne⟩
            · exact Space.read_write_same (by omega)

/-- A turn writes its piece, and nothing else. -/
theorem turn_outside {ct : TRAMPOLINE w} {s s' : Turning w} {finished : Bool}
    (h : turn ct s = some (s', finished)) :
    Space.SameOutside ct.pTrampoline s.newPos s'.newPos s.mem s'.mem ∧ s.newPos ≤ s'.newPos ∧
      s'.newPos ≤ TRAMPOLINE_MAX_SIZE w := by
  obtain ⟨p, hplaced, -, rfl⟩ := turn_cases h
  have hroom := hplaced.room
  have hsize := slot_lt_memory w
  exact ⟨Space.sameOutside_write s.mem (by omega), Nat.le_add_right _ _, hroom⟩

/-- However the loop ends, it has written to the slot only, behind what was there. -/
theorem turns_outside (ct : TRAMPOLINE w) (n : Nat) (s : Turning w)
    (hs : s.newPos ≤ TRAMPOLINE_MAX_SIZE w) :
    Space.SameOutside ct.pTrampoline s.newPos (copyTurns ct n s).2.newPos s.mem
        (copyTurns ct n s).2.mem ∧
      s.newPos ≤ (copyTurns ct n s).2.newPos ∧
      (copyTurns ct n s).2.newPos ≤ TRAMPOLINE_MAX_SIZE w := by
  induction n generalizing s with
  | zero => exact ⟨.refl _ _ _ _, Nat.le_refl _, hs⟩
  | succ n ih =>
    unfold copyTurns
    cases hturn : turn ct s with
    | none => exact ⟨.refl _ _ _ _, Nat.le_refl _, hs⟩
    | some r =>
      obtain ⟨s', finished⟩ := r
      obtain ⟨hsame, hle, hmax⟩ := turn_outside hturn
      cases finished with
      | true => exact ⟨hsame, hle, hmax⟩
      | false =>
        obtain ⟨hsame', hle', hmax'⟩ := ih s' hmax
        exact ⟨hsame.trans hsame' hle hle', Nat.le_trans hle hle', hmax'⟩

/-! ## The turns -/

/-- The pieces from `oldPos` on: the pairs that are recorded, and where the last piece ends. -/
inductive Chain (ct : TRAMPOLINE w) (m m' : Space w.bits) :
    (jmpDest : HANDLE w) → (oldPos newPos : Nat) → List (Nat × Nat) → (oldEnd newEnd : Nat) → Prop
  | last {jmpDest : HANDLE w} {oldPos newPos : Nat} {p : CopySrc w}
      (h : Placed ct m m' jmpDest oldPos newPos p) (hp : p.finished = true) :
      Chain ct m m' jmpDest oldPos newPos [(oldPos, newPos)]
        (oldPos + (HDE_DISASM m (ct.pOldInst oldPos)).len) (newPos + p.bytes.length)
  | more {jmpDest : HANDLE w} {oldPos newPos oldEnd newEnd : Nat} {p : CopySrc w}
      {ips : List (Nat × Nat)} (h : Placed ct m m' jmpDest oldPos newPos p)
      (hp : p.finished = false)
      (hrest : Chain ct m m' p.jmpDest (oldPos + (HDE_DISASM m (ct.pOldInst oldPos)).len)
        (newPos + p.bytes.length) ips oldEnd newEnd) :
      Chain ct m m' jmpDest oldPos newPos ((oldPos, newPos) :: ips) oldEnd newEnd

theorem Placed.before {ct : TRAMPOLINE w} {m m' : Space w.bits} {jmpDest : HANDLE w}
    {oldPos newPos : Nat} {p : CopySrc w} (h : Placed ct m m' jmpDest oldPos newPos p)
    (hp : p.finished = false) : oldPos < sizeof_JMP_REL := by
  by_contra hlast
  have hmade := h.made
  rw [piece_last (Nat.le_of_not_lt hlast), Option.some.injEq] at hmade
  rw [← hmade] at hp
  cases hp

/-- The function is read where the slot is not. -/
theorem Placed.of_same {ct : TRAMPOLINE w} {m s m' : Space w.bits} {jmpDest : HANDLE w}
    {oldPos newPos : Nat} {p : CopySrc w} (h : Placed ct s m' jmpDest oldPos newPos p)
    (hsame : ∀ k ≤ 15, m.read (ct.pOldInst oldPos) k = s.read (ct.pOldInst oldPos) k) :
    HDE_DISASM m (ct.pOldInst oldPos) = HDE_DISASM s (ct.pOldInst oldPos) ∧
      Placed ct m m' jmpDest oldPos newPos p := by
  have hread := hsame _ (len_le s (ct.pOldInst oldPos))
  have hdisasm := HDE_DISASM_congr h.valid hread
  refine ⟨hdisasm, ?_, ?_, ?_, h.room, h.written⟩
  · rw [hdisasm]
    exact h.valid
  · rw [hdisasm, piece_congr hread]
    exact h.made
  · rw [hdisasm]
    exact h.kept

theorem Placed.mono {ct : TRAMPOLINE w} {m m₁ m₂ : Space w.bits} {jmpDest : HANDLE w}
    {oldPos newPos : Nat} {p : CopySrc w} (h : Placed ct m m₁ jmpDest oldPos newPos p)
    (hsame : m₂.read (ct.pNewInst newPos) p.bytes.length =
      m₁.read (ct.pNewInst newPos) p.bytes.length) : Placed ct m m₂ jmpDest oldPos newPos p :=
  ⟨h.valid, h.made, h.kept, h.room, hsame.trans h.written⟩

theorem Chain.start_le {ct : TRAMPOLINE w} {m m' : Space w.bits} {jmpDest : HANDLE w}
    {oldPos newPos oldEnd newEnd : Nat} {ips : List (Nat × Nat)}
    (h : Chain ct m m' jmpDest oldPos newPos ips oldEnd newEnd) :
    oldPos < oldEnd ∧ newPos ≤ newEnd ∧ newEnd ≤ TRAMPOLINE_MAX_SIZE w := by
  induction h with
  | @last _ oldPos _ _ h hp =>
    have hpos := len_pos m (ct.pOldInst oldPos)
    exact ⟨by omega, Nat.le_add_right _ _, h.room⟩
  | @more _ oldPos _ _ _ _ _ h hp _ ih =>
    have hpos := len_pos m (ct.pOldInst oldPos)
    omega

/-- The chain stands wherever the same bytes stand. -/
theorem Chain.mono {ct : TRAMPOLINE w} {m m₁ m₂ : Space w.bits} {jmpDest : HANDLE w}
    {oldPos newPos oldEnd newEnd : Nat} {ips : List (Nat × Nat)}
    (h : Chain ct m m₁ jmpDest oldPos newPos ips oldEnd newEnd)
    (hsame : ∀ i k, i + k ≤ newEnd → m₂.read (ct.pNewInst i) k = m₁.read (ct.pNewInst i) k) :
    Chain ct m m₂ jmpDest oldPos newPos ips oldEnd newEnd := by
  induction h with
  | last h hp => exact .last (h.mono (hsame _ _ (Nat.le_refl _))) hp
  | more h hp hrest ih =>
    have hle := hrest.start_le
    exact .more (h.mono (hsame _ _ (by omega))) hp (ih hsame)

/-- The loop makes a chain, where the function does not stand in the slot. -/
theorem turns_chain {ct : TRAMPOLINE w} {m : Space w.bits}
    (hap : Space.Apart ct.pTarget 34 ct.pTrampoline (MEMORY_SLOT_SIZE w)) {n : Nat}
    {s s' : Turning w} (h : copyTurns ct n s = (true, s')) (hold : s.oldPos ≤ 19)
    (hnew : s.newPos ≤ TRAMPOLINE_MAX_SIZE w)
    (hmem : Space.SameOutside ct.pTrampoline 0 s.newPos m s.mem) :
    ∃ ips, s'.ips = s.ips ++ ips ∧
      Chain ct m s'.mem s.jmpDest s.oldPos s.newPos ips s'.oldPos s'.newPos := by
  induction n generalizing s with
  | zero => cases h
  | succ n ih =>
    have hsame (k : Nat) (hk : k ≤ 15) :
        m.read (ct.pOldInst s.oldPos) k = s.mem.read (ct.pOldInst s.oldPos) k := by
      have hshift : Space.Apart (ct.pOldInst s.oldPos) k ct.pTrampoline (MEMORY_SLOT_SIZE w) :=
        hap.shift (by omega)
      exact (hmem.read_apart hshift (Nat.le_trans hnew (max_le_slot w))).symm
    have houtside := turns_outside ct n
    unfold copyTurns at h
    cases hturn : turn ct s with
    | none =>
      rw [hturn] at h
      cases h
    | some r =>
      obtain ⟨s₁, finished⟩ := r
      rw [hturn] at h
      obtain ⟨hout, hle, hmax⟩ := turn_outside hturn
      obtain ⟨p, hplaced, rfl, rfl⟩ := turn_cases hturn
      obtain ⟨hdisasm, hplaced⟩ := hplaced.of_same hsame
      cases hp : p.finished with
      | true =>
        simp only [hp, if_true, Prod.mk.injEq, true_and] at h
        subst h
        refine ⟨[(s.oldPos, s.newPos)], rfl, ?_⟩
        have hchain := Chain.last hplaced hp
        rw [hdisasm] at hchain
        exact hchain
      | false =>
        have hbefore := hplaced.before hp
        have hlen := len_le s.mem (ct.pOldInst s.oldPos)
        simp only [hp, Bool.false_eq_true, if_false] at h
        obtain ⟨ips, hips, hchain⟩ := ih h
          (by simp only [sizeof_JMP_REL] at hbefore; simp only; omega) hmax (hmem.trans hout (Nat.zero_le _) hle)
        have hrest := houtside _ hmax
        rw [h] at hrest
        have hsize := slot_lt_memory w
        have hroom : s.newPos + p.bytes.length ≤ 2 ^ w.bits := by
          have hmade := hplaced.room
          omega
        refine ⟨(s.oldPos, s.newPos) :: ips, by rw [hips]; simp, ?_⟩
        rw [← hdisasm] at hchain
        exact .more (hplaced.mono (hrest.1.read_before (Nat.le_refl _) hroom)) hp hchain

/-! ## What is recorded -/

theorem piece_jmpDest {pTarget : HANDLE w} {m : Space w.bits} {oldPos : Nat}
    {pNewInst jmpDest : HANDLE w} {hs : HDE} {p : CopySrc w}
    (h : piece pTarget m oldPos pNewInst jmpDest hs = some p) : jmpDest ≤ p.jmpDest := by
  have hinside (bytes : List UInt8) (dest : HANDLE w) :
      jmpDest ≤ (CopySrc.inside bytes jmpDest dest).jmpDest := by
    unfold CopySrc.inside
    split
    · rename_i hlt
      exact BitVec.le_of_lt hlt
    · exact BitVec.le_refl _
  unfold piece at h
  simp only at h
  split_ifs at h <;> cases h
  all_goals first | exact BitVec.le_refl _ | exact hinside _ _

/-- The function does not reach over the end of the memory. -/
def TRAMPOLINE.NoWrap (ct : TRAMPOLINE w) : Prop := ct.pTarget.toNat + 20 ≤ 2 ^ w.bits

theorem toNat_pOldInst {ct : TRAMPOLINE w} (hwrap : ct.NoWrap) {oldPos : Nat} (h : oldPos ≤ 19) :
    (ct.pOldInst oldPos).toNat = ct.pTarget.toNat + oldPos := by
  unfold TRAMPOLINE.NoWrap at hwrap
  unfold TRAMPOLINE.pOldInst
  rw [BitVec.toNat_add, BitVec.toNat_ofNat, Nat.add_mod_mod, Nat.mod_eq_of_lt (by omega)]

section
variable {ct : TRAMPOLINE w} {m m' : Space w.bits} {jmpDest : HANDLE w}
  {oldPos newPos oldEnd newEnd : Nat} {ips : List (Nat × Nat)}

theorem Chain.start_mem (h : Chain ct m m' jmpDest oldPos newPos ips oldEnd newEnd) :
    (oldPos, newPos) ∈ ips := by
  cases h with
  | last h hp => exact List.mem_singleton_self _
  | more h hp hrest => exact List.mem_cons_self

theorem Chain.bounds (h : Chain ct m m' jmpDest oldPos newPos ips oldEnd newEnd)
    (hold : oldPos ≤ 19) {ip : Nat × Nat} (hip : ip ∈ ips) : oldPos ≤ ip.1 ∧ ip.1 ≤ 19 ∧ newPos ≤ ip.2 := by
  induction h with
  | last h hp =>
    cases List.mem_singleton.mp hip
    exact ⟨Nat.le_refl _, hold, Nat.le_refl _⟩
  | @more _ oldPos newPos _ _ p ips h hp _ ih =>
    rcases List.mem_cons.mp hip with rfl | hip
    · exact ⟨Nat.le_refl _, hold, Nat.le_refl _⟩
    · have hbefore := h.before hp
      have hlen := len_le m (ct.pOldInst oldPos)
      simp only [sizeof_JMP_REL] at hbefore
      have hrest := ih (by omega) hip
      omega

/-- Up to the destination of an open jump the distances are those of the function. -/
theorem Chain.kept (h : Chain ct m m' jmpDest oldPos newPos ips oldEnd newEnd) (hwrap : ct.NoWrap)
    (hold : oldPos ≤ 19) {ip : Nat × Nat} (hip : ip ∈ ips) (hopen : ct.pOldInst ip.1 ≤ jmpDest) :
    ip.2 + oldPos = newPos + ip.1 := by
  induction h with
  | last h hp =>
    cases List.mem_singleton.mp hip
    rfl
  | @more jmpDest oldPos newPos _ _ p ips h hp hrest ih =>
    rcases List.mem_cons.mp hip with rfl | hip
    · rfl
    · have hbefore := h.before hp
      have hlen := len_le m (ct.pOldInst oldPos)
      have hpos := len_pos m (ct.pOldInst oldPos)
      simp only [sizeof_JMP_REL] at hbefore
      have hopen' := BitVec.le_trans hopen (piece_jmpDest h.made)
      have hip' := hrest.bounds (by omega) hip
      have hlt : ct.pOldInst oldPos < ct.pOldInst ip.1 := by
        rw [BitVec.lt_def, toNat_pOldInst hwrap hold, toNat_pOldInst hwrap hip'.2.1]
        omega
      have hsize := h.kept (Nat.lt_of_lt_of_le hlt hopen')
      have hdist := ih (by omega) hip hopen'
      omega

/-- All that is known of a recorded pair: its piece stands there, the next pair is recorded too if
the piece is not the last one, and a jump forward from it keeps its distance. -/
theorem Chain.placed (h : Chain ct m m' jmpDest oldPos newPos ips oldEnd newEnd) (hwrap : ct.NoWrap)
    (hold : oldPos ≤ 19) {ip : Nat × Nat} (hip : ip ∈ ips) :
    ∃ jmpDest' p, Placed ct m m' jmpDest' ip.1 ip.2 p ∧
      (p.finished = false →
        (ip.1 + (HDE_DISASM m (ct.pOldInst ip.1)).len, ip.2 + p.bytes.length) ∈ ips) ∧
      ∀ ip' ∈ ips, ip.1 < ip'.1 → ct.pOldInst ip'.1 ≤ p.jmpDest →
        ip'.2 + ip.1 = ip.2 + ip'.1 := by
  induction h with
  | @last jmpDest oldPos newPos p h hp =>
    cases List.mem_singleton.mp hip
    refine ⟨jmpDest, p, h, fun hmore => absurd (hmore.symm.trans hp) Bool.false_ne_true, ?_⟩
    intro ip' hip' hlt
    cases List.mem_singleton.mp hip'
    exact absurd hlt (Nat.lt_irrefl _)
  | @more jmpDest oldPos newPos _ _ p ips h hp hrest ih =>
    have hbefore := h.before hp
    have hlen := len_le m (ct.pOldInst oldPos)
    have hpos := len_pos m (ct.pOldInst oldPos)
    simp only [sizeof_JMP_REL] at hbefore
    rcases List.mem_cons.mp hip with rfl | hip
    · refine ⟨jmpDest, p, h, fun _ => List.mem_cons_of_mem _ hrest.start_mem, ?_⟩
      intro ip' hip' hlt hopen
      rcases List.mem_cons.mp hip' with rfl | hip'
      · exact absurd hlt (Nat.lt_irrefl _)
      · have hbounds := hrest.bounds (by omega) hip'
        have hlt' : ct.pOldInst oldPos < ct.pOldInst ip'.1 := by
          rw [BitVec.lt_def, toNat_pOldInst hwrap hold, toNat_pOldInst hwrap hbounds.2.1]
          omega
        have hsize := h.kept (Nat.lt_of_lt_of_le hlt' hopen)
        have hdist := hrest.kept hwrap (by omega) hip' hopen
        simp only at hlt ⊢
        omega
    · obtain ⟨jmpDest', p', hplaced, hnext, hforward⟩ := ih (by omega) hip
      refine ⟨jmpDest', p', hplaced, fun hmore => List.mem_cons_of_mem _ (hnext hmore), ?_⟩
      intro ip' hip' hlt hopen
      rcases List.mem_cons.mp hip' with rfl | hip'
      · have hbounds := hrest.bounds (by omega) hip
        simp only at hlt
        omega
      · exact hforward ip' hip' hlt hopen

/-- There are at most six pairs, so the tables of eight are never full. -/
theorem Chain.length_le (h : Chain ct m m' jmpDest oldPos newPos ips oldEnd newEnd) :
    min oldPos sizeof_JMP_REL + ips.length ≤ 6 := by
  induction h with
  | last h hp => simp [sizeof_JMP_REL]
  | @more _ oldPos _ _ _ _ _ h hp hrest ih =>
    have hbefore := h.before hp
    have hpos := len_pos m (ct.pOldInst oldPos)
    simp only [sizeof_JMP_REL] at hbefore ih ⊢
    rw [List.length_cons]
    omega

end

/-! ## The function -/

theorem length_jmp_x64 (a b : HANDLE .x64) : (jmp .x64 a b).length = sizeof_JMP_ABS := by
  simp [jmp, length_bytesOf, sizeof_JMP_ABS]

/-- The relay function is written behind the last piece, inside the slot. -/
theorem relay_outside (ct : TRAMPOLINE w) {s : Turning w} (hs : s.newPos ≤ TRAMPOLINE_MAX_SIZE w) :
    Space.SameOutside ct.pTrampoline s.newPos (MEMORY_SLOT_SIZE w) s.mem (relay ct s).2 := by
  unfold relay
  split_ifs with hw
  · subst hw
    have hlen := length_jmp_x64 (ct.pTrampoline + BitVec.ofNat _ s.newPos) ct.pDetour
    have hslot : TRAMPOLINE_MAX_SIZE .x64 + sizeof_JMP_ABS = MEMORY_SLOT_SIZE .x64 := by decide
    have hmem : MEMORY_SLOT_SIZE .x64 < 2 ^ PtrWidth.x64.bits := by decide
    have hwrite : Space.SameOutside ct.pTrampoline s.newPos
        (s.newPos + (jmp .x64 (ct.pTrampoline + BitVec.ofNat _ s.newPos) ct.pDetour).length) s.mem
        (s.mem.write (ct.pTrampoline + BitVec.ofNat _ s.newPos)
          (jmp .x64 (ct.pTrampoline + BitVec.ofNat _ s.newPos) ct.pDetour)) :=
      Space.sameOutside_write s.mem (by omega)
    intro x hx
    exact hwrite x (by omega)
  · intro x hx
    rfl

/-- Whatever the function is, and also where it cannot be hooked, its trampoline is written to the
slot and nowhere else. -/
theorem create_outside (IsExecutableAddress : HANDLE w → Bool) (m : Space w.bits)
    (ct : TRAMPOLINE w) :
    Space.SameOutside ct.pTrampoline 0 (MEMORY_SLOT_SIZE w) m
      (CreateTrampolineFunction IsExecutableAddress m ct).2.2 := by
  obtain ⟨hsame, hle, hmax⟩ := turns_outside ct 6 { mem := m } (Nat.zero_le _)
  have hslot := max_le_slot w
  have hshort : Space.SameOutside ct.pTrampoline 0 (MEMORY_SLOT_SIZE w) m
      (copyTurns ct 6 { mem := m }).2.mem := by
    intro x hx
    exact hsame x (by simp only; omega)
  unfold CreateTrampolineFunction
  simp only
  split_ifs
  · exact hshort
  · split
    · exact hshort
    · rename_i patchAbove _
      have hrelay := relay_outside
        { ct with ips := (copyTurns ct 6 { mem := m }).2.ips, patchAbove := patchAbove } hmax
      exact hsame.trans hrelay (Nat.zero_le _) (by omega)

theorem create_pTarget (IsExecutableAddress : HANDLE w → Bool) (m : Space w.bits)
    (ct : TRAMPOLINE w) :
    (CreateTrampolineFunction IsExecutableAddress m ct).2.1.pTarget = ct.pTarget := by
  unfold CreateTrampolineFunction
  simp only
  split_ifs
  · rfl
  · split
    · rfl
    · unfold relay
      split_ifs <;> rfl

/-- What is created: a chain that begins with the first instruction, and behind it, on x64, the
relay function. -/
structure Created (m m' : Space w.bits) (ct ct' : TRAMPOLINE w) (oldEnd newEnd : Nat) : Prop where
  chain : Chain ct' m m' 0 0 0 ct'.ips oldEnd newEnd
  pTarget : ct'.pTarget = ct.pTarget
  pDetour : ct'.pDetour = ct.pDetour
  pTrampoline : ct'.pTrampoline = ct.pTrampoline
  pRelay : ct'.pRelay = if w = .x64 then ct.pNewInst newEnd else ct.pRelay
  relay : w = .x64 → m'.read ct'.pRelay (jmp w ct'.pRelay ct.pDetour).length =
    jmp w ct'.pRelay ct.pDetour

/-- A chain says nothing of what else is recorded. -/
theorem Chain.congr {ct ct' : TRAMPOLINE w} {m m' : Space w.bits} {jmpDest : HANDLE w}
    {oldPos newPos oldEnd newEnd : Nat} {ips : List (Nat × Nat)}
    (h : Chain ct m m' jmpDest oldPos newPos ips oldEnd newEnd) (htarget : ct'.pTarget = ct.pTarget)
    (htrampoline : ct'.pTrampoline = ct.pTrampoline) :
    Chain ct' m m' jmpDest oldPos newPos ips oldEnd newEnd := by
  have hold (o : Nat) : ct.pOldInst o = ct'.pOldInst o := by
    unfold TRAMPOLINE.pOldInst
    rw [htarget]
  have hnew (n : Nat) : ct.pNewInst n = ct'.pNewInst n := by
    unfold TRAMPOLINE.pNewInst
    rw [htrampoline]
  have hplaced {jmpDest : HANDLE w} {oldPos newPos : Nat} {p : CopySrc w}
      (h : Placed ct m m' jmpDest oldPos newPos p) : Placed ct' m m' jmpDest oldPos newPos p := by
    obtain ⟨hvalid, hmade, hkept, hroom, hwritten⟩ := h
    rw [hold] at hvalid hmade hkept
    rw [hnew] at hmade hwritten
    rw [← htarget] at hmade
    exact ⟨hvalid, hmade, hkept, hroom, hwritten⟩
  induction h with
  | last h hp =>
    rw [hold]
    exact .last (hplaced h) hp
  | more h hp _ ih =>
    rw [hold] at ih
    exact .more (hplaced h) hp ih

theorem create_chain {IsExecutableAddress : HANDLE w → Bool} {m m' : Space w.bits}
    {ct ct' : TRAMPOLINE w}
    (h : CreateTrampolineFunction IsExecutableAddress m ct = (true, ct', m'))
    (hap : Space.Apart ct.pTarget 34 ct.pTrampoline (MEMORY_SLOT_SIZE w)) :
    ∃ oldEnd newEnd, Created m m' ct ct' oldEnd newEnd := by
  unfold CreateTrampolineFunction at h
  cases hturns : copyTurns ct 6 { mem := m } with
  | mk finished s =>
    rw [hturns] at h
    cases finished with
    | false => cases h
    | true =>
      obtain ⟨ips, hips, hchain⟩ :=
        turns_chain hap hturns (Nat.zero_le _) (Nat.zero_le _) (.refl _ _ _ _)
      obtain ⟨-, -, hmax⟩ := hchain.start_le
      obtain rfl : s.ips = ips := by simpa using hips
      simp only [Bool.not_true, Bool.false_eq_true, if_false] at h
      split at h
      · cases h
      · rename_i patchAbove _
        rw [Prod.mk.injEq] at h
        have hout := relay_outside { ct with ips := s.ips, patchAbove := patchAbove } hmax
        have hsize := slot_lt_memory w
        have hchain' := hchain.mono fun i k hik => hout.read_before hik (by omega)
        unfold relay at h hchain'
        by_cases hw : w = .x64
        · subst hw
          simp only [if_true, Prod.mk.injEq, true_and] at h hchain'
          obtain ⟨rfl, rfl⟩ := h
          refine ⟨s.oldPos, s.newPos, hchain'.congr rfl rfl, rfl, rfl, rfl, rfl, fun _ => ?_⟩
          apply Space.read_write_same
          rw [length_jmp_x64]
          decide
        · simp only [hw, if_false, Prod.mk.injEq, true_and] at h hchain'
          obtain ⟨rfl, rfl⟩ := h
          exact ⟨s.oldPos, s.newPos, hchain'.congr rfl rfl, rfl, rfl, rfl, (if_neg hw).symm,
            fun hx64 => absurd hx64 hw⟩

end

end RemotePrinter
