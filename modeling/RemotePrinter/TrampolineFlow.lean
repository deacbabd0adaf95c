-- A trampoline does what the function did: control goes through it as through
-- the function, with the same to be seen, and comes to the same places of the
-- program. It does so while the function is overwritten, too.
import RemotePrinter.Operands

open Interactive

namespace RemotePrinter

open HDE

section
variable {w : PtrWidth}

/-! ## What belongs together -/

/-- An instruction of the function, and where the trampoline has it. -/
def TRAMPOLINE.Moved (ct : TRAMPOLINE w) (a b : HANDLE w) : Prop :=
  ∃ ip ∈ ct.ips, ip.1 < sizeof_JMP_REL ∧ a = ct.pOldInst ip.1 ∧ b = ct.pNewInst ip.2

/-- A place of the function and one of the trampoline, or one place of the rest of the program. -/
def TRAMPOLINE.Corresponds (ct : TRAMPOLINE w) (rest : HANDLE w → Prop) (a b : HANDLE w) : Prop :=
  ct.Moved a b ∨ a = b ∧ rest a

/-- The address that a displacement relative to the instruction stands for. -/
def HDE.ea (hs : HDE) (ip : HANDLE w) : HANDLE w :=
  ip + BitVec.ofNat w.bits hs.len + int32 w hs.disp

/-- The function, as the memory `m` has it, can be moved so that the trampoline works in the memory
`M`, where the rest of the program is as before. The function does not check this. -/
structure Relocatable (ct : TRAMPOLINE w) (m M : Space w.bits) (rest : HANDLE w → Prop) :
    Prop where
  noWrap : ct.NoWrap
  /-- The rest of the program is the same in both memories, and does not come back to the bytes
  that are overwritten. -/
  same : ∀ a, rest a → flow M a = flow m a
  closed : ∀ a l d, rest a → (l, some d) ∈ flow m a → rest d
  outside : ∀ a, rest a → inside ct.pTarget a = false
  /-- No jump has an operand of 16 bits. -/
  known : ∀ ip ∈ ct.ips, ip.1 < sizeof_JMP_REL →
    (HDE_DISASM m (ct.pOldInst ip.1)).transfer w ≠ .invalid
  /-- Control goes on at an instruction that is moved, or in the rest of the program. Where a jump
  leads back, the pieces between have the lengths of their instructions. -/
  leads : ∀ ip ∈ ct.ips, ip.1 < sizeof_JMP_REL → ∀ l d, (l, some d) ∈ flow m (ct.pOldInst ip.1) →
    rest d ∨ ∃ ip' ∈ ct.ips, ip'.1 < sizeof_JMP_REL ∧ d = ct.pOldInst ip'.1 ∧
      (ip'.1 ≤ ip.1 → ip'.2 + ip.1 = ip.2 + ip'.1)
  /-- What is relative to the instruction pointer has a displacement of 32 bits, and can be reached
  from the trampoline. -/
  disp32 : w = .x64 → ∀ ip ∈ ct.ips, ip.1 < sizeof_JMP_REL →
    (HDE_DISASM m (ct.pOldInst ip.1)).modrm &&& 0xC7 = 0x05 →
    (HDE_DISASM m (ct.pOldInst ip.1)).flags &&& F_DISP32 w ≠ 0
  near : w = .x64 → ∀ ip ∈ ct.ips, ip.1 < sizeof_JMP_REL →
    (HDE_DISASM m (ct.pOldInst ip.1)).modrm &&& 0xC7 = 0x05 →
    let hs := HDE_DISASM m (ct.pOldInst ip.1)
    let d := hs.ea (ct.pOldInst ip.1) - (ct.pNewInst ip.2 + BitVec.ofNat w.bits hs.len)
    (d.setWidth 32).signExtend w.bits = d
  /-- A pointer that is jumped through is the same in both memories. -/
  pointers : ∀ ip ∈ ct.ips, ip.1 < sizeof_JMP_REL →
    let hs := HDE_DISASM m (ct.pOldInst ip.1)
    hs.transfer w = .jumpThrough ∨ hs.transfer w = .callThrough →
    pointer M (hs.ea (ct.pOldInst ip.1)) = pointer m (hs.ea (ct.pOldInst ip.1))
  through : ∀ ip ∈ ct.ips, ip.1 < sizeof_JMP_REL →
    let hs := HDE_DISASM m (ct.pOldInst ip.1)
    hs.transfer w = .jumpThrough → rest (pointer m (hs.ea (ct.pOldInst ip.1)))

variable {ct : TRAMPOLINE w} {m M : Space w.bits} {rest : HANDLE w → Prop}

/-- Control at `b` in the second program goes on as it does at `a` in the first. -/
abbrev TRAMPOLINE.Follows (ct : TRAMPOLINE w) (M : Space w.bits) (rest : HANDLE w → Prop)
    (a b : HANDLE w) : Prop :=
  Flow.Follows (flow M) (ct.Corresponds rest) a b

theorem pOldInst_add (ct : TRAMPOLINE w) (oldPos k : Nat) :
    ct.pOldInst (oldPos + k) = ct.pOldInst oldPos + BitVec.ofNat w.bits k := by
  unfold TRAMPOLINE.pOldInst
  rw [BitVec.ofNat_add, BitVec.add_assoc]

theorem pNewInst_add (ct : TRAMPOLINE w) (newPos k : Nat) :
    ct.pNewInst (newPos + k) = ct.pNewInst newPos + BitVec.ofNat w.bits k := by
  unfold TRAMPOLINE.pNewInst
  rw [BitVec.ofNat_add, BitVec.add_assoc]

/-- The same distance from an instruction and from its piece. -/
theorem pNewInst_of_distance {o n o' n' : Nat} {d : HANDLE w} (hdist : n' + o = n + o')
    (hd : ct.pOldInst o + d = ct.pOldInst o') : ct.pNewInst n + d = ct.pNewInst n' := by
  have hsum := congrArg (BitVec.ofNat w.bits) hdist
  rw [BitVec.ofNat_add, BitVec.ofNat_add] at hsum
  unfold TRAMPOLINE.pOldInst at hd
  unfold TRAMPOLINE.pNewInst
  have hdiff : d = BitVec.ofNat w.bits o' - BitVec.ofNat w.bits o := by
    grind
  grind

theorem inside_pOldInst (hwrap : ct.NoWrap) {o : Nat} (ho : o < sizeof_JMP_REL) :
    inside ct.pTarget (ct.pOldInst o) = true := by
  simp only [sizeof_JMP_REL] at ho
  have hto : (ct.pOldInst o).toNat = ct.pTarget.toNat + o := toNat_pOldInst hwrap (by omega)
  have hfive : (ct.pTarget + 5).toNat = ct.pTarget.toNat + 5 := by
    have h5 : (ct.pOldInst 5).toNat = ct.pTarget.toNat + 5 := toNat_pOldInst hwrap (by omega)
    exact h5
  unfold inside
  rw [Bool.and_eq_true, decide_eq_true_iff, decide_eq_true_iff, BitVec.le_def, BitVec.lt_def, hto,
    hfive]
  omega

theorem pOldInst_inj (hwrap : ct.NoWrap) {o o' : Nat} (ho : o ≤ 19) (ho' : o' ≤ 19)
    (h : ct.pOldInst o = ct.pOldInst o') : o = o' := by
  have hnat := congrArg BitVec.toNat h
  rw [toNat_pOldInst hwrap ho, toNat_pOldInst hwrap ho'] at hnat
  omega

/-! ## Where control comes to -/

section
variable (hrel : Relocatable ct m M rest) {oldEnd newEnd : Nat}
  (hchain : Chain ct m M 0 0 0 ct.ips oldEnd newEnd)
include hrel hchain

/-- To the piece of the next instruction, which is a jump to the rest of the function if the
instruction is not moved. -/
theorem lands_recorded {ip ip' : Nat × Nat} (hip : ip ∈ ct.ips) (ho : ip.1 < sizeof_JMP_REL)
    (hip' : ip' ∈ ct.ips) {l : Option (Label w)}
    (hway : (l, some (ct.pOldInst ip'.1)) ∈ flow m (ct.pOldInst ip.1)) :
    ct.Follows M rest (ct.pOldInst ip'.1) (ct.pNewInst ip'.2) := by
  by_cases hmoved : ip'.1 < sizeof_JMP_REL
  · exact .of (.inl ⟨ip', hip', hmoved, rfl, rfl⟩)
  · obtain ⟨_, p, hplaced, -⟩ := hchain.placed hrel.noWrap (Nat.zero_le _) hip'
    have hmade := hplaced.made
    rw [piece_last (Nat.le_of_not_lt hmoved), Option.some.injEq] at hmade
    have hwritten := hplaced.written
    rw [← hmade] at hwritten
    have hrest : rest (ct.pOldInst ip'.1) := by
      rcases hrel.leads ip hip ho l _ hway with hrest | ⟨ip'', hip'', ho'', heq, -⟩
      · exact hrest
      · have hb := (hchain.bounds (Nat.zero_le _) hip').2.1
        have hb'' := (hchain.bounds (Nat.zero_le _) hip'').2.1
        rw [pOldInst_inj hrel.noWrap hb hb'' heq] at hmoved
        exact absurd ho'' hmoved
    exact .quiet (.single (flow_jmp hwritten)) (.of (.inr ⟨rfl, hrest⟩))

omit hchain in
/-- To a place outside of the bytes that are overwritten. -/
theorem lands_outside {ip : Nat × Nat} (hip : ip ∈ ct.ips) (ho : ip.1 < sizeof_JMP_REL)
    {l : Option (Label w)} {d : HANDLE w} (hway : (l, some d) ∈ flow m (ct.pOldInst ip.1))
    (hout : inside ct.pTarget d = false) : ct.Follows M rest d d := by
  rcases hrel.leads ip hip ho l d hway with hrest | ⟨ip', hip', ho', rfl, -⟩
  · exact .of (.inr ⟨rfl, hrest⟩)
  · rw [inside_pOldInst hrel.noWrap ho'] at hout
    cases hout

omit hchain in
/-- To an instruction that is moved, by a jump that is copied. -/
theorem lands_inside {ip : Nat × Nat} (hip : ip ∈ ct.ips) (ho : ip.1 < sizeof_JMP_REL)
    {l : Option (Label w)} {d : HANDLE w}
    (hway : (l, some (ct.pOldInst ip.1 + d)) ∈ flow m (ct.pOldInst ip.1))
    (hin : inside ct.pTarget (ct.pOldInst ip.1 + d) = true)
    (hforward : ∀ ip' ∈ ct.ips, ip.1 < ip'.1 → ct.pOldInst ip'.1 = ct.pOldInst ip.1 + d →
      ip'.2 + ip.1 = ip.2 + ip'.1) :
    ct.Follows M rest (ct.pOldInst ip.1 + d) (ct.pNewInst ip.2 + d) := by
  rcases hrel.leads ip hip ho l _ hway with hrest | ⟨ip', hip', ho', heq, hback⟩
  · rw [hrel.outside _ hrest] at hin
    cases hin
  · have hdist : ip'.2 + ip.1 = ip.2 + ip'.1 := by
      by_cases hlt : ip.1 < ip'.1
      · exact hforward ip' hip' hlt heq.symm
      · exact hback (Nat.le_of_not_lt hlt)
    rw [pNewInst_of_distance hdist heq, heq]
    exact .of (.inl ⟨ip', hip', ho', rfl, rfl⟩)

end

/-! ## The instructions that are moved -/

/-- All that is known of an instruction that is moved. -/
structure MovedBy (ct : TRAMPOLINE w) (m M : Space w.bits) (ip : Nat × Nat) (jmpDest : HANDLE w)
    (p : CopySrc w) : Prop where
  mem : ip ∈ ct.ips
  before : ip.1 < sizeof_JMP_REL
  placed : Placed ct m M jmpDest ip.1 ip.2 p
  next : p.finished = false →
    (ip.1 + (HDE_DISASM m (ct.pOldInst ip.1)).len, ip.2 + p.bytes.length) ∈ ct.ips
  forward : ∀ ip' ∈ ct.ips, ip.1 < ip'.1 → ct.pOldInst ip'.1 ≤ p.jmpDest →
    ip'.2 + ip.1 = ip.2 + ip'.1

section
variable {ip : Nat × Nat} {jmpDest : HANDLE w} {p : CopySrc w}

/-- A piece that is the instruction itself. -/
theorem MovedBy.copied (h : MovedBy ct m M ip jmpDest p)
    (hcopy : p.bytes = m.read (ct.pOldInst ip.1) (HDE_DISASM m (ct.pOldInst ip.1)).len) :
    HDE_DISASM M (ct.pNewInst ip.2) = HDE_DISASM m (ct.pOldInst ip.1) ∧
      M.read (ct.pNewInst ip.2) (HDE_DISASM m (ct.pOldInst ip.1)).len =
        m.read (ct.pOldInst ip.1) (HDE_DISASM m (ct.pOldInst ip.1)).len := by
  have hwritten := h.placed.written
  rw [hcopy, Space.length_read] at hwritten
  exact ⟨HDE_DISASM_congr h.placed.valid hwritten, hwritten⟩

theorem MovedBy.flow_copied (h : MovedBy ct m M ip jmpDest p)
    (hcopy : p.bytes = m.read (ct.pOldInst ip.1) (HDE_DISASM m (ct.pOldInst ip.1)).len) :
    flow M (ct.pNewInst ip.2) =
      (HDE_DISASM m (ct.pOldInst ip.1)).ways M (ct.pNewInst ip.2) := by
  unfold flow
  rw [(h.copied hcopy).1]

/-- Behind the piece. -/
theorem MovedBy.lands_next (h : MovedBy ct m M ip jmpDest p) (hrel : Relocatable ct m M rest)
    {oldEnd newEnd : Nat} (hchain : Chain ct m M 0 0 0 ct.ips oldEnd newEnd)
    (hfinished : p.finished = false) {l : Option (Label w)}
    (hway : (l, some (ct.pOldInst ip.1 +
      BitVec.ofNat w.bits (HDE_DISASM m (ct.pOldInst ip.1)).len)) ∈ flow m (ct.pOldInst ip.1)) :
    ct.Follows M rest
      (ct.pOldInst ip.1 + BitVec.ofNat w.bits (HDE_DISASM m (ct.pOldInst ip.1)).len)
      (ct.pNewInst ip.2 + BitVec.ofNat w.bits p.bytes.length) := by
  rw [← pOldInst_add] at hway
  have hlands := lands_recorded hrel hchain h.mem h.before (h.next hfinished) hway
  rw [pOldInst_add, pNewInst_add] at hlands
  exact hlands

/-- To the destination of a jump inside the bytes that are overwritten. -/
theorem MovedBy.lands_inside (h : MovedBy ct m M ip jmpDest p) (hrel : Relocatable ct m M rest)
    {d : HANDLE w} {bytes : List UInt8} (hp : p = .inside bytes jmpDest (ct.pOldInst ip.1 + d))
    {l : Option (Label w)} (hway : (l, some (ct.pOldInst ip.1 + d)) ∈ flow m (ct.pOldInst ip.1))
    (hin : inside ct.pTarget (ct.pOldInst ip.1 + d) = true) :
    ct.Follows M rest (ct.pOldInst ip.1 + d) (ct.pNewInst ip.2 + d) := by
  refine RemotePrinter.lands_inside hrel h.mem h.before hway hin fun ip' hip' hlt heq => ?_
  refine h.forward ip' hip' hlt ?_
  rw [heq, hp]
  unfold CopySrc.inside
  simp only
  split_ifs with hjmp
  · exact BitVec.le_refl _
  · exact BitVec.not_lt.mp hjmp

/-! ### Jumps and calls -/

/-- What the loop does with a jump: inside the bytes that are overwritten it is copied, else it is
written anew. -/
def jumpPiece (ct : TRAMPOLINE w) (m : Space w.bits) (ip : Nat × Nat) (jmpDest : HANDLE w)
    (hs : HDE) (d : HANDLE w) (anew : Option (CopySrc w)) : Option (CopySrc w) :=
  if inside ct.pTarget (ct.pOldInst ip.1 + BitVec.ofNat w.bits hs.len + d) then
    some (.inside (m.read (ct.pOldInst ip.1) hs.len) jmpDest
      (ct.pOldInst ip.1 + BitVec.ofNat w.bits hs.len + d))
  else anew

section
variable (h : MovedBy ct m M ip jmpDest p) (hrel : Relocatable ct m M rest) {oldEnd newEnd : Nat}
  (hchain : Chain ct m M 0 0 0 ct.ips oldEnd newEnd) {hs : HDE}
  (hhs : HDE_DISASM m (ct.pOldInst ip.1) = hs)
include h hrel hhs

/-- The destination of a jump is the same place, or it was moved as the jump was. -/
theorem MovedBy.jump_cases {d : HANDLE w} {anew : Option (CopySrc w)}
    (hmade : piece ct.pTarget m ip.1 (ct.pNewInst ip.2) jmpDest hs =
      jumpPiece ct m ip jmpDest hs d anew) {l : Option (Label w)}
    (hway : (l, some (ct.pOldInst ip.1 + BitVec.ofNat w.bits hs.len + d)) ∈
      flow m (ct.pOldInst ip.1)) :
    (p.bytes = m.read (ct.pOldInst ip.1) hs.len ∧ p.finished = false ∧
      ct.Follows M rest (ct.pOldInst ip.1 + BitVec.ofNat w.bits hs.len + d)
        (ct.pNewInst ip.2 + BitVec.ofNat w.bits hs.len + d)) ∨
    (anew = some p ∧
      ct.Follows M rest (ct.pOldInst ip.1 + BitVec.ofNat w.bits hs.len + d)
        (ct.pOldInst ip.1 + BitVec.ofNat w.bits hs.len + d)) := by
  have hp := h.placed.made
  rw [hhs, hmade] at hp
  unfold jumpPiece at hp
  cases hin : inside ct.pTarget (ct.pOldInst ip.1 + BitVec.ofNat w.bits hs.len + d) with
  | true =>
    rw [if_pos hin, Option.some.injEq] at hp
    refine .inl ⟨hp ▸ rfl, hp ▸ rfl, ?_⟩
    rw [BitVec.add_assoc] at hp hway hin
    rw [BitVec.add_assoc, BitVec.add_assoc]
    exact h.lands_inside hrel hp.symm hway hin
  | false =>
    rw [hin, if_neg Bool.false_ne_true] at hp
    exact .inr ⟨hp, lands_outside hrel h.mem h.before hway hin⟩

theorem MovedBy.alike_jump {d : HANDLE w}
    (hways : ∀ (m : Space w.bits) ip, hs.ways m ip =
      [(none, some (ip + BitVec.ofNat w.bits hs.len + d))])
    (hmade : piece ct.pTarget m ip.1 (ct.pNewInst ip.2) jmpDest hs =
      jumpPiece ct m ip jmpDest hs d
        (some ⟨jmp w (ct.pNewInst ip.2) (ct.pOldInst ip.1 + BitVec.ofNat w.bits hs.len + d),
          jmpDest ≤ ct.pOldInst ip.1, jmpDest⟩)) :
    Flow.Alike (ct.Follows M rest) (flow m (ct.pOldInst ip.1)) (flow M (ct.pNewInst ip.2)) := by
  have hflow : flow m (ct.pOldInst ip.1) =
      [(none, some (ct.pOldInst ip.1 + BitVec.ofNat w.bits hs.len + d))] := by
    unfold flow
    rw [hhs, hways]
  have hway : (none, some (ct.pOldInst ip.1 + BitVec.ofNat w.bits hs.len + d)) ∈
      flow m (ct.pOldInst ip.1) := by
    rw [hflow]
    exact List.mem_singleton_self _
  rcases h.jump_cases hrel hhs hmade hway with ⟨hcopy, -, hlands⟩ | ⟨hnew, hlands⟩
  · rw [← hhs] at hcopy
    rw [hflow, h.flow_copied hcopy, hhs, hways]
    exact .single hlands
  · rw [Option.some.injEq] at hnew
    have hwritten := h.placed.written
    rw [← hnew] at hwritten
    rw [hflow, flow_jmp hwritten]
    exact .single hlands

include hchain

theorem MovedBy.alike_jumpIf {d : HANDLE w} {c : UInt8}
    (hways : ∀ (m : Space w.bits) ip, hs.ways m ip =
      jumpIf (c &&& 0x0F) (ip + BitVec.ofNat w.bits hs.len + d) (ip + BitVec.ofNat w.bits hs.len))
    (hmade : piece ct.pTarget m ip.1 (ct.pNewInst ip.2) jmpDest hs =
      jumpPiece ct m ip jmpDest hs d
        (some ⟨jcc w (c &&& 0x0F) (ct.pNewInst ip.2)
          (ct.pOldInst ip.1 + BitVec.ofNat w.bits hs.len + d), false, jmpDest⟩)) :
    Flow.Alike (ct.Follows M rest) (flow m (ct.pOldInst ip.1)) (flow M (ct.pNewInst ip.2)) := by
  have hflow : flow m (ct.pOldInst ip.1) =
      jumpIf (c &&& 0x0F) (ct.pOldInst ip.1 + BitVec.ofNat w.bits hs.len + d)
        (ct.pOldInst ip.1 + BitVec.ofNat w.bits hs.len) := by
    unfold flow
    rw [hhs, hways]
  have hjumps : (some (Label.flag ((c &&& 0x0F) >>> 1) (c &&& 0x0F &&& 1 == 0)),
      some (ct.pOldInst ip.1 + BitVec.ofNat w.bits hs.len + d)) ∈ flow m (ct.pOldInst ip.1) := by
    rw [hflow]
    exact List.mem_cons_self
  have hgoes : (some (Label.flag ((c &&& 0x0F) >>> 1) (c &&& 0x0F &&& 1 != 0)),
      some (ct.pOldInst ip.1 + BitVec.ofNat w.bits hs.len)) ∈ flow m (ct.pOldInst ip.1) := by
    rw [hflow]
    exact List.mem_cons_of_mem _ (List.mem_singleton_self _)
  have hnext (hfinished : p.finished = false) : ct.Follows M rest
      (ct.pOldInst ip.1 + BitVec.ofNat w.bits hs.len)
      (ct.pNewInst ip.2 + BitVec.ofNat w.bits p.bytes.length) := by
    rw [← hhs] at hgoes ⊢
    exact h.lands_next hrel hchain hfinished hgoes
  rcases h.jump_cases hrel hhs hmade hjumps with ⟨hcopy, hfinished, hlands⟩ | ⟨hnew, hlands⟩
  · have hnext := hnext hfinished
    rw [hcopy, Space.length_read] at hnext
    rw [← hhs] at hcopy
    rw [hflow, h.flow_copied hcopy, hhs, hways]
    exact .cons hlands (.single hnext)
  · rw [Option.some.injEq] at hnew
    have hnext := hnext (hnew ▸ rfl)
    have hwritten := h.placed.written
    rw [← hnew] at hwritten hnext
    obtain ⟨b₁, b₂, hjcc, hjump, hskip⟩ := flow_jcc hwritten
    have halike : Flow.Alike (ct.Follows M rest) (flow m (ct.pOldInst ip.1))
        (jumpIf (c &&& 0x0F) b₁ b₂) := by
      rw [hflow]
      exact .cons (.quiet hjump hlands) (.single (.quiet hskip hnext))
    rcases hjcc with hjcc | hjcc
    · rw [hjcc]
      exact halike
    · rw [hjcc]
      exact halike.reverse

theorem MovedBy.alike_call {dest : HANDLE w}
    (hways : hs.ways m (ct.pOldInst ip.1) =
      [(some (.call dest), some (ct.pOldInst ip.1 + BitVec.ofNat w.bits hs.len))])
    (hmade : piece ct.pTarget m ip.1 (ct.pNewInst ip.2) jmpDest hs =
      some ⟨call w (ct.pNewInst ip.2) dest, false, jmpDest⟩) :
    Flow.Alike (ct.Follows M rest) (flow m (ct.pOldInst ip.1)) (flow M (ct.pNewInst ip.2)) := by
  have hp := h.placed.made
  rw [hhs, hmade, Option.some.injEq] at hp
  have hflow : flow m (ct.pOldInst ip.1) =
      [(some (.call dest), some (ct.pOldInst ip.1 + BitVec.ofNat w.bits hs.len))] := by
    unfold flow
    rw [hhs, hways]
  have hnext : ct.Follows M rest (ct.pOldInst ip.1 + BitVec.ofNat w.bits hs.len)
      (ct.pNewInst ip.2 + BitVec.ofNat w.bits p.bytes.length) := by
    have hway : (some (.call dest), some (ct.pOldInst ip.1 + BitVec.ofNat w.bits hs.len)) ∈
        flow m (ct.pOldInst ip.1) := by
      rw [hflow]
      exact List.mem_singleton_self _
    rw [← hhs] at hway ⊢
    exact h.lands_next hrel hchain (hp ▸ rfl) hway
  have hwritten := h.placed.written
  rw [← hp] at hwritten hnext
  obtain ⟨b', hcall, hquiet⟩ := flow_call hwritten
  rw [hflow, hcall]
  exact .single (.quiet hquiet hnext)

theorem MovedBy.alike_loop {d : HANDLE w}
    (hways : ∀ (m : Space w.bits) ip, hs.ways m ip =
      [(some (.count (m.read ip hs.len) true), some (ip + BitVec.ofNat w.bits hs.len + d)),
        (some (.count (m.read ip hs.len) false), some (ip + BitVec.ofNat w.bits hs.len))])
    (hmade : piece ct.pTarget m ip.1 (ct.pNewInst ip.2) jmpDest hs =
      jumpPiece ct m ip jmpDest hs d none) :
    Flow.Alike (ct.Follows M rest) (flow m (ct.pOldInst ip.1)) (flow M (ct.pNewInst ip.2)) := by
  have hflow : flow m (ct.pOldInst ip.1) = hs.ways m (ct.pOldInst ip.1) := by
    unfold flow
    rw [hhs]
  rw [hways] at hflow
  have hjumps : (some (Label.count (m.read (ct.pOldInst ip.1) hs.len) true),
      some (ct.pOldInst ip.1 + BitVec.ofNat w.bits hs.len + d)) ∈ flow m (ct.pOldInst ip.1) := by
    rw [hflow]
    exact List.mem_cons_self
  have hgoes : (some (Label.count (m.read (ct.pOldInst ip.1) hs.len) false),
      some (ct.pOldInst ip.1 + BitVec.ofNat w.bits hs.len)) ∈ flow m (ct.pOldInst ip.1) := by
    rw [hflow]
    exact List.mem_cons_of_mem _ (List.mem_singleton_self _)
  rcases h.jump_cases hrel hhs hmade hjumps with ⟨hcopy, hfinished, hlands⟩ | ⟨hnew, -⟩
  · rw [← hhs] at hcopy hgoes
    have hnext := h.lands_next hrel hchain hfinished hgoes
    have hsame := (h.copied hcopy).2
    rw [h.flow_copied hcopy]
    rw [hcopy, Space.length_read] at hnext
    rw [hhs] at hnext hsame ⊢
    rw [hflow, hways, hsame]
    exact .cons hlands (.single hnext)
  · cases hnew

/-! ### The other instructions -/

/-- Behind an instruction, where control does not leave with it. -/
theorem MovedBy.ends_behind {l : Option (Label w)}
    (hflow : flow m (ct.pOldInst ip.1) = [(l, if leaves hs.opcode hs.modrm_reg then none
      else some (ct.pOldInst ip.1 + BitVec.ofNat w.bits hs.len))])
    (hlen : p.bytes.length = hs.len)
    (hfinished : p.finished = true → leaves hs.opcode hs.modrm_reg = true) :
    Flow.Ends (ct.Follows M rest)
      (if leaves hs.opcode hs.modrm_reg then none
        else some (ct.pOldInst ip.1 + BitVec.ofNat w.bits hs.len))
      (if leaves hs.opcode hs.modrm_reg then none
        else some (ct.pNewInst ip.2 + BitVec.ofNat w.bits hs.len)) := by
  cases hleaves : leaves hs.opcode hs.modrm_reg with
  | true => trivial
  | false =>
    have hmore : p.finished = false := by
      cases hp : p.finished with
      | false => rfl
      | true =>
        rw [hfinished hp] at hleaves
        cases hleaves
    have hway : (l, some (ct.pOldInst ip.1 + BitVec.ofNat w.bits hs.len)) ∈
        flow m (ct.pOldInst ip.1) := by
      rw [hflow, hleaves]
      exact List.mem_singleton_self _
    rw [← hhs] at hway
    have hnext := h.lands_next hrel hchain hmore hway
    rw [hlen, hhs] at hnext
    exact hnext

theorem MovedBy.alike_exec {finished : Bool}
    (hways : ∀ (m : Space w.bits) ip, hs.ways m ip =
      [(some (.exec (m.read ip hs.len) none), if leaves hs.opcode hs.modrm_reg then none
        else some (ip + BitVec.ofNat w.bits hs.len))])
    (hmade : piece ct.pTarget m ip.1 (ct.pNewInst ip.2) jmpDest hs =
      some ⟨m.read (ct.pOldInst ip.1) hs.len, finished, jmpDest⟩)
    (hfinished : finished = true → leaves hs.opcode hs.modrm_reg = true) :
    Flow.Alike (ct.Follows M rest) (flow m (ct.pOldInst ip.1)) (flow M (ct.pNewInst ip.2)) := by
  have hp := h.placed.made
  rw [hhs, hmade, Option.some.injEq] at hp
  have hflow : flow m (ct.pOldInst ip.1) = hs.ways m (ct.pOldInst ip.1) := by
    unfold flow
    rw [hhs]
  rw [hways] at hflow
  have hcopy : p.bytes = m.read (ct.pOldInst ip.1) (HDE_DISASM m (ct.pOldInst ip.1)).len := by
    rw [← hp, hhs]
  have hlen : p.bytes.length = hs.len := by
    rw [← hp]
    exact Space.length_read _ _ _
  have hends := h.ends_behind hrel hchain hhs hflow hlen (by rw [← hp]; exact hfinished)
  have hsame := (h.copied hcopy).2
  rw [h.flow_copied hcopy]
  rw [hhs] at hsame ⊢
  rw [hflow, hways, hsame]
  exact .single hends

end

end

/-! ### Operands relative to the instruction pointer -/

theorem not_invalid {hs : HDE} (h : hs.transfer w ≠ .invalid) :
    ¬ (hs.flags &&& F_ERROR ≠ 0 ∨ hs.flags &&& F_RELATIVE w ≠ 0 ∧ hs.flags &&& F_IMM16 ≠ 0) := by
  intro herror
  apply h
  unfold HDE.transfer RemotePrinter.transfer
  exact if_pos herror

/-- How control goes on from an instruction with such an operand, told by its opcode. -/
theorem transfer_rip {hs : HDE} (hknown : hs.transfer w ≠ .invalid) (hw : w = .x64)
    (hrip : hs.modrm &&& 0xC7 = 0x05) (hdisp : hs.flags &&& F_DISP32 w ≠ 0) :
    hs.transfer w =
      if hs.opcode = 0xFF ∧ hs.modrm_reg = 4 then .jumpThrough
      else if hs.opcode = 0xFF ∧ hs.modrm_reg = 2 then .callThrough
      else .execAt := by
  unfold HDE.transfer RemotePrinter.transfer
  rw [if_neg (not_invalid hknown), if_pos ⟨hw, hrip, hdisp⟩]

/-- The same of the other instructions. -/
theorem transfer_plain {hs : HDE} (hknown : hs.transfer w ≠ .invalid)
    (hplain : ¬ (w = .x64 ∧ hs.modrm &&& 0xC7 = 0x05)) :
    hs.transfer w =
      if hs.opcode = 0xE8 then .call32
      else if hs.opcode = 0xE9 then .jump32
      else if hs.opcode = 0xEB then .jump8
      else if hs.opcode &&& 0xF0 = 0x70 then .jumpIf8 (hs.opcode &&& 0x0F)
      else if hs.opcode = 0x0F ∧ hs.opcode2 &&& 0xF0 = 0x80 then .jumpIf32 (hs.opcode2 &&& 0x0F)
      else if hs.opcode &&& 0xFC = 0xE0 then .loop8
      else .exec := by
  unfold HDE.transfer RemotePrinter.transfer
  rw [if_neg (not_invalid hknown), if_neg fun h => hplain ⟨h.1, h.2.1⟩]

theorem withDisp_withDisp {hs : HDE} {inst d d' : List UInt8} {k : Nat}
    (hinst : inst.length = hs.len) (hd : d.length = 4) (hlen : hs.len = k + 4 + hs.immSize) :
    hs.withDisp (hs.withDisp inst d) d' = hs.withDisp inst d' := by
  have hk : hs.len - hs.immSize - 4 = k := by omega
  have hk4 : hs.len - hs.immSize = k + 4 := by omega
  have htake : (inst.take k).length = k := by
    rw [List.length_take]
    omega
  unfold HDE.withDisp
  rw [hk, hk4, List.drop_left' (by rw [List.length_append, htake, hd]),
    List.append_assoc (inst.take k) d, List.take_left' htake]

section
variable {ct : TRAMPOLINE .x64} {m M : Space PtrWidth.x64.bits} {rest : HANDLE .x64 → Prop}
  {ip : Nat × Nat} {jmpDest : HANDLE .x64} {p : CopySrc .x64} {hs : HDE}
  (h : MovedBy ct m M ip jmpDest p) (hrel : Relocatable ct m M rest) {oldEnd newEnd : Nat}
  (hchain : Chain ct m M 0 0 0 ct.ips oldEnd newEnd) (hhs : HDE_DISASM m (ct.pOldInst ip.1) = hs)
  (hrip : hs.modrm &&& 0xC7 = 0x05)
include h hrel hhs hrip

/-- The piece is the instruction with the displacement that stands for the same address. -/
theorem MovedBy.displaced : ∃ disp, HDE_DISASM M (ct.pNewInst ip.2) = { hs with disp := disp } ∧
    HDE.ea { hs with disp := disp } (ct.pNewInst ip.2) = hs.ea (ct.pOldInst ip.1) ∧
    hs.withDisp (M.read (ct.pNewInst ip.2) hs.len) [0, 0, 0, 0] =
      hs.withDisp (m.read (ct.pOldInst ip.1) hs.len) [0, 0, 0, 0] ∧
    p.bytes.length = hs.len ∧
    p.finished = (hs.opcode == 0xFF && hs.modrm_reg == 4) := by
  have hvalid := h.placed.valid
  have hflag := hrel.disp32 rfl ip h.mem h.before
  have hnear := hrel.near rfl ip h.mem h.before
  rw [hhs] at hvalid hflag
  simp only [hhs] at hnear
  have hlen : ∃ k, hs.len = k + 4 + hs.immSize := by
    rw [← hhs] at hvalid hrip hflag ⊢
    obtain ⟨v, k, l, g, hparts⟩ := ripParts hvalid hrip (hflag hrip)
    exact ⟨k, by rw [hparts.len, hparts.immSize]⟩
  obtain ⟨k, hlen⟩ := hlen
  have hinst := Space.length_read m (ct.pOldInst ip.1) hs.len
  have hmade := h.placed.made
  rw [hhs] at hmade
  have hp : p = ⟨hs.withDisp (m.read (ct.pOldInst ip.1) hs.len)
      (rel32 (hs.ea (ct.pOldInst ip.1)) (ct.pNewInst ip.2 + BitVec.ofNat _ hs.len)),
      hs.opcode == 0xFF && hs.modrm_reg == 4, jmpDest⟩ := by
    unfold piece at hmade
    rw [if_neg (Nat.not_le_of_lt h.before), if_pos ⟨rfl, hrip⟩, Option.some.injEq] at hmade
    exact hmade.symm
  have hsize := length_withDisp hinst (length_rel32 (hs.ea (ct.pOldInst ip.1))
    (ct.pNewInst ip.2 + BitVec.ofNat _ hs.len)) hlen
  have hwritten := h.placed.written
  rw [hp] at hwritten
  simp only at hwritten
  rw [hsize] at hwritten
  refine ⟨ByteMemory.leNat (rel32 (hs.ea (ct.pOldInst ip.1))
    (ct.pNewInst ip.2 + BitVec.ofNat _ hs.len)), ?_, ?_, ?_, ?_, ?_⟩
  · rw [← hhs] at hwritten hvalid hrip hflag ⊢
    exact disasm_displaced hvalid hrip (hflag hrip) (length_rel32 _ _) hwritten
  · exact int32_rel32 (hnear hrip)
  · rw [hwritten]
    exact withDisp_withDisp hinst (length_rel32 _ _) hlen
  · rw [hp]
    exact hsize
  · rw [hp]

include hchain

theorem MovedBy.alike_rip :
    Flow.Alike (ct.Follows M rest) (flow m (ct.pOldInst ip.1)) (flow M (ct.pNewInst ip.2)) := by
  obtain ⟨disp, hdisasm, hea, hzero, hlen, hfinished⟩ := h.displaced hrel hhs hrip
  have hpointers := hrel.pointers ip h.mem h.before
  have hthrough := hrel.through ip h.mem h.before
  have htransfer := transfer_rip (hrel.known ip h.mem h.before) rfl (hhs ▸ hrip)
    (hrel.disp32 rfl ip h.mem h.before (hhs ▸ hrip))
  simp only [hhs] at hpointers hthrough htransfer
  have hflow : flow m (ct.pOldInst ip.1) = hs.ways m (ct.pOldInst ip.1) := by
    unfold flow
    rw [hhs]
  have hflow' : flow M (ct.pNewInst ip.2) =
      HDE.ways M (ct.pNewInst ip.2) { hs with disp := disp } := by
    unfold flow
    rw [hdisasm]
  have hsame : HDE.transfer .x64 { hs with disp := disp } = hs.transfer .x64 := rfl
  unfold HDE.ea at hea hpointers hthrough
  simp only at hea
  by_cases hjump : hs.opcode = 0xFF ∧ hs.modrm_reg = 4
  · rw [if_pos hjump] at htransfer
    simp only [HDE.ways, hsame, htransfer, hea] at hflow hflow'
    rw [hflow, hflow', hpointers (.inl htransfer)]
    exact .single (.of (.inr ⟨rfl, hthrough htransfer⟩))
  rw [if_neg hjump] at htransfer
  have hmore : p.finished = false := by
    rw [hfinished, Bool.eq_false_iff]
    intro hboth
    rw [Bool.and_eq_true, beq_iff_eq, beq_iff_eq] at hboth
    exact hjump hboth
  by_cases hcall : hs.opcode = 0xFF ∧ hs.modrm_reg = 2
  · rw [if_pos hcall] at htransfer
    simp only [HDE.ways, hsame, htransfer, hea] at hflow hflow'
    have hway : (some (Label.call (pointer m (hs.ea (ct.pOldInst ip.1)))),
        some (ct.pOldInst ip.1 + BitVec.ofNat _ hs.len)) ∈ flow m (ct.pOldInst ip.1) := by
      rw [hflow]
      exact List.mem_singleton_self _
    have hnext : ct.Follows M rest (ct.pOldInst ip.1 + BitVec.ofNat _ hs.len)
        (ct.pNewInst ip.2 + BitVec.ofNat _ p.bytes.length) := by
      rw [← hhs] at hway ⊢
      exact h.lands_next hrel hchain hmore hway
    rw [hlen] at hnext
    rw [hflow, hflow', hpointers (.inr htransfer)]
    exact .single hnext
  · rw [if_neg hcall] at htransfer
    simp only [HDE.ways, hsame, htransfer, hea] at hflow hflow'
    have hends := h.ends_behind hrel hchain hhs hflow hlen fun hp => by
      rw [hmore] at hp
      cases hp
    have hinst : HDE.withDisp { hs with disp := disp } (M.read (ct.pNewInst ip.2) hs.len)
        [0, 0, 0, 0] = hs.withDisp (m.read (ct.pOldInst ip.1) hs.len) [0, 0, 0, 0] := hzero
    rw [hflow, hflow', hinst]
    exact .single hends

end

end

/-! ## The whole trampoline -/

theorem all_bytes {P : UInt8 → Prop} (h : ∀ i : Fin 256, P (UInt8.ofNat i.val)) : ∀ c, P c := by
  intro c
  have hc := h ⟨c.toNat, c.toNat_lt⟩
  rw [UInt8.ofNat_toNat] at hc
  exact hc

/-- The two values of the opcode of a jump. -/
theorem jump_opcode : ∀ c : UInt8, c &&& 0xFD = 0xE9 → c = 0xE9 ∨ c = 0xEB := by
  apply all_bytes
  decide +kernel

/-- The conditional jumps are no loops, and have an opcode of one byte. -/
theorem jcc_opcode : ∀ c : UInt8, c &&& 0xF0 = 0x70 → ¬ c &&& 0xFC = 0xE0 ∧ c ≠ 0x0F := by
  apply all_bytes
  decide +kernel

/-- Control does not go on behind the returns that the loop knows. -/
theorem ret_leaves (m_reg c : UInt8) : c &&& 0xFE = 0xC2 → leaves c m_reg = true := by
  have hopcode : ∀ c : UInt8, c &&& 0xFE = 0xC2 → c = 0xC2 ∨ c = 0xC3 := by
    apply all_bytes
    decide +kernel
  intro h
  unfold leaves
  rcases hopcode c h with rfl | rfl
  · rfl
  · rfl

section
variable {w : PtrWidth} {ct : TRAMPOLINE w} {m M : Space w.bits} {rest : HANDLE w → Prop}
  {ip : Nat × Nat} {jmpDest : HANDLE w} {p : CopySrc w}

variable (ct m jmpDest) in
/-- The branches of the loop for an instruction without an operand relative to it. -/
theorem piece_plain {hs : HDE} (ho : ip.1 < sizeof_JMP_REL)
    (hplain : ¬ (w = .x64 ∧ hs.modrm &&& 0xC7 = 0x05)) :
    piece ct.pTarget m ip.1 (ct.pNewInst ip.2) jmpDest hs =
      if hs.opcode = 0xE8 then
        some ⟨call w (ct.pNewInst ip.2)
          (ct.pOldInst ip.1 + BitVec.ofNat w.bits hs.len + int32 w hs.imm), false, jmpDest⟩
      else if hs.opcode &&& 0xFD = 0xE9 then
        jumpPiece ct m ip jmpDest hs (if hs.opcode = 0xEB then int8 w hs.imm else int32 w hs.imm)
          (some ⟨jmp w (ct.pNewInst ip.2) (ct.pOldInst ip.1 + BitVec.ofNat w.bits hs.len +
            if hs.opcode = 0xEB then int8 w hs.imm else int32 w hs.imm),
            jmpDest ≤ ct.pOldInst ip.1, jmpDest⟩)
      else if hs.opcode &&& 0xF0 = 0x70 ∨ hs.opcode &&& 0xFC = 0xE0 ∨
          hs.opcode2 &&& 0xF0 = 0x80 then
        jumpPiece ct m ip jmpDest hs
          (if hs.opcode &&& 0xF0 = 0x70 ∨ hs.opcode &&& 0xFC = 0xE0 then int8 w hs.imm
            else int32 w hs.imm)
          (if hs.opcode &&& 0xFC = 0xE0 then none
          else some ⟨jcc w ((if hs.opcode ≠ 0x0F then hs.opcode else hs.opcode2) &&& 0x0F)
            (ct.pNewInst ip.2) (ct.pOldInst ip.1 + BitVec.ofNat w.bits hs.len +
              if hs.opcode &&& 0xF0 = 0x70 ∨ hs.opcode &&& 0xFC = 0xE0 then int8 w hs.imm
              else int32 w hs.imm), false, jmpDest⟩)
      else if hs.opcode &&& 0xFE = 0xC2 then
        some ⟨m.read (ct.pOldInst ip.1) hs.len, jmpDest ≤ ct.pOldInst ip.1, jmpDest⟩
      else some ⟨m.read (ct.pOldInst ip.1) hs.len, false, jmpDest⟩ := by
  unfold piece jumpPiece
  simp only
  rw [if_neg (Nat.not_le_of_lt ho), if_neg hplain]
  rfl

/-- An instruction that is moved is matched by its piece. -/
theorem MovedBy.alike (h : MovedBy ct m M ip jmpDest p) (hrel : Relocatable ct m M rest)
    {oldEnd newEnd : Nat} (hchain : Chain ct m M 0 0 0 ct.ips oldEnd newEnd) :
    Flow.Alike (ct.Follows M rest) (flow m (ct.pOldInst ip.1)) (flow M (ct.pNewInst ip.2)) := by
  obtain ⟨hs, hhs⟩ : ∃ hs, HDE_DISASM m (ct.pOldInst ip.1) = hs := ⟨_, rfl⟩
  by_cases hrip : w = .x64 ∧ hs.modrm &&& 0xC7 = 0x05
  · obtain ⟨rfl, hrip⟩ := hrip
    exact h.alike_rip hrel hchain hhs hrip
  have hknown := hrel.known ip h.mem h.before
  rw [hhs] at hknown
  have htransfer := transfer_plain hknown hrip
  have hmade := piece_plain ct m jmpDest h.before hrip
  by_cases hE8 : hs.opcode = 0xE8
  · rw [if_pos hE8] at htransfer hmade
    exact h.alike_call hrel hchain hhs (by simp only [HDE.ways, htransfer]) hmade
  rw [if_neg hE8] at htransfer hmade
  by_cases hE9 : hs.opcode = 0xE9
  · have hjmp : hs.opcode &&& 0xFD = 0xE9 := by
      rw [hE9]
      decide
    have hnear : ¬ hs.opcode = 0xEB := by
      rw [hE9]
      decide
    rw [if_pos hE9] at htransfer
    rw [if_pos hjmp, if_neg hnear] at hmade
    exact h.alike_jump hrel hhs (fun m a => by simp only [HDE.ways, htransfer]) hmade
  rw [if_neg hE9] at htransfer
  by_cases hEB : hs.opcode = 0xEB
  · have hjmp : hs.opcode &&& 0xFD = 0xE9 := by
      rw [hEB]
      decide
    rw [if_pos hEB] at htransfer
    rw [if_pos hjmp, if_pos hEB] at hmade
    exact h.alike_jump hrel hhs (fun m a => by simp only [HDE.ways, htransfer]) hmade
  rw [if_neg hEB] at htransfer
  rw [if_neg fun hjmp => (jump_opcode _ hjmp).elim hE9 hEB] at hmade
  by_cases h70 : hs.opcode &&& 0xF0 = 0x70
  · obtain ⟨hloop, hone⟩ := jcc_opcode _ h70
    rw [if_pos h70] at htransfer
    rw [if_pos (.inl h70), if_pos (.inl h70), if_neg hloop, if_pos hone] at hmade
    exact h.alike_jumpIf hrel hchain hhs (fun m a => by simp only [HDE.ways, htransfer]) hmade
  rw [if_neg h70] at htransfer
  by_cases h80 : hs.opcode = 0x0F ∧ hs.opcode2 &&& 0xF0 = 0x80
  · have hloop : ¬ hs.opcode &&& 0xFC = 0xE0 := by
      rw [h80.1]
      decide
    rw [if_pos h80] at htransfer
    rw [if_pos (.inr (.inr h80.2)), if_neg fun hs => hs.elim h70 hloop, if_neg hloop,
      if_neg (not_not_intro h80.1)] at hmade
    exact h.alike_jumpIf hrel hchain hhs (fun m a => by simp only [HDE.ways, htransfer]) hmade
  rw [if_neg h80] at htransfer
  by_cases hE0 : hs.opcode &&& 0xFC = 0xE0
  · rw [if_pos hE0] at htransfer
    rw [if_pos (.inr (.inl hE0)), if_pos (.inr hE0), if_pos hE0] at hmade
    exact h.alike_loop hrel hchain hhs (fun m a => by simp only [HDE.ways, htransfer]) hmade
  rw [if_neg hE0] at htransfer
  have htwo : ¬ hs.opcode2 &&& 0xF0 = 0x80 := by
    intro h2
    have hne : hs.opcode2 ≠ 0 := by
      intro hzero
      rw [hzero] at h2
      exact absurd h2 (by decide)
    rw [← hhs] at hne h2
    exact h80 ⟨hhs ▸ two_bytes hne, hhs ▸ h2⟩
  rw [if_neg fun hs => hs.elim h70 fun hs => hs.elim hE0 htwo] at hmade
  have hways (m : Space w.bits) (a : HANDLE w) : hs.ways m a =
      [(some (.exec (m.read a hs.len) none), if leaves hs.opcode hs.modrm_reg then none
        else some (a + BitVec.ofNat w.bits hs.len))] := by
    simp only [HDE.ways, htransfer]
  by_cases hret : hs.opcode &&& 0xFE = 0xC2
  · rw [if_pos hret] at hmade
    exact h.alike_exec hrel hchain hhs hways hmade fun _ => ret_leaves _ _ hret
  · rw [if_neg hret] at hmade
    exact h.alike_exec hrel hchain hhs hways hmade fun hfalse => absurd hfalse Bool.false_ne_true

/-- The program with the trampoline, from the places of the trampoline, has the flow of control that
the program had. -/
theorem Relocatable.match_flow (hrel : Relocatable ct m M rest) {oldEnd newEnd : Nat}
    (hchain : Chain ct m M 0 0 0 ct.ips oldEnd newEnd) :
    Flow.Match (flow m) (flow M) (ct.Corresponds rest) := by
  intro a b hab
  rcases hab with ⟨ip, hip, ho, rfl, rfl⟩ | ⟨rfl, hrest⟩
  · obtain ⟨jmpDest, p, hplaced, hnext, hforward⟩ :=
      hchain.placed hrel.noWrap (Nat.zero_le _) hip
    exact MovedBy.alike ⟨hip, ho, hplaced, hnext, hforward⟩ hrel hchain
  · rw [hrel.same a hrest]
    exact .refl fun l d hway => .of (.inr ⟨rfl, hrel.closed a l d hrest hway⟩)

section
variable {m' : Space w.bits} {ct₀ : TRAMPOLINE w} {oldEnd newEnd : Nat}

/-- The chain stays where the slot stays as it is. -/
theorem Created.chain_in (h : Created m m' ct₀ ct oldEnd newEnd)
    (hM : M.read ct₀.pTrampoline (MEMORY_SLOT_SIZE w) =
      m'.read ct₀.pTrampoline (MEMORY_SLOT_SIZE w)) :
    Chain ct m M 0 0 0 ct.ips oldEnd newEnd := by
  have hend := h.chain.start_le
  have hslot := max_le_slot w
  refine h.chain.mono fun i k hik => ?_
  unfold TRAMPOLINE.pNewInst
  rw [h.pTrampoline]
  exact Space.read_part hM (by omega)

/-- The trampoline begins with the function's first instruction. -/
theorem Created.start (h : Created m m' ct₀ ct oldEnd newEnd) (M : Space w.bits)
    (rest : HANDLE w → Prop) : ct.Follows M rest ct₀.pTarget ct₀.pTrampoline := by
  refine .of (.inl ⟨(0, 0), h.chain.start_mem, by decide, ?_, ?_⟩)
  · rw [← h.pTarget]
    exact (BitVec.add_zero _).symm
  · rw [← h.pTrampoline]
    exact (BitVec.add_zero _).symm

end

/-- Calling the trampoline is calling the function as it was: the runs from both are the same, in
every memory that has the trampoline as it was created, so also while the function is
overwritten. -/
theorem a_trampoline_does_what_its_function_did {IsExecutableAddress : HANDLE w → Bool}
    {m m' M : Space w.bits} {ct ct' : TRAMPOLINE w} {rest : HANDLE w → Prop}
    (h : CreateTrampolineFunction IsExecutableAddress m ct = (true, ct', m'))
    (hap : Space.Apart ct.pTarget 34 ct.pTrampoline (MEMORY_SLOT_SIZE w))
    (hM : M.read ct.pTrampoline (MEMORY_SLOT_SIZE w) = m'.read ct.pTrampoline (MEMORY_SLOT_SIZE w))
    (hrel : Relocatable ct' m M rest) (ls : List (Label w)) :
    (∀ e, Flow.Runs (flow m) ct.pTarget ls e →
      ∃ e', Flow.Runs (flow M) ct.pTrampoline ls e' ∧ Flow.Ends (ct'.Follows M rest) e e') ∧
    ∀ e', Flow.Runs (flow M) ct.pTrampoline ls e' →
      ∃ e, Flow.Runs (flow m) ct.pTarget ls e ∧ Flow.Ends (ct'.Follows M rest) e e' := by
  obtain ⟨oldEnd, newEnd, hcreated⟩ := create_chain h hap
  have hmatch := hrel.match_flow (hcreated.chain_in hM)
  have hstart := hcreated.start M rest
  exact ⟨fun e hrun => hmatch.runs_forth hstart hrun, fun e hrun => hmatch.runs_back hstart hrun⟩

end

/-- `TEST ECX, ECX`, a `JZ` to the return, `NOP` and `RET`. -/
def returnUnlessZero : Space PtrWidth.x86.bits :=
  fun a => [0x85, 0xC9, 0x74, 0x01, 0x90, 0xC3].getD (a - 0x1000).toNat 0

def returnTrampoline : Bool × TRAMPOLINE .x86 × Space PtrWidth.x86.bits :=
  CreateTrampolineFunction (fun _ => false) returnUnlessZero
    { pTarget := 0x1000, pDetour := 0x3000, pTrampoline := 0x2000 }

/-- The memory with the trampoline, and with the jump to the detour over the function. -/
def returnHooked : Space PtrWidth.x86.bits :=
  returnTrampoline.2.2.write 0x1000 (jmp .x86 0x1000 0x3000)

theorem returnTrampoline_ips :
    returnTrampoline.2.1.ips = [(0, 0), (2, 2), (4, 8), (5, 9)] := by
  decide +kernel

theorem returnTrampoline_pOldInst : returnTrampoline.2.1.pOldInst 0 = 0x1000 ∧
    returnTrampoline.2.1.pOldInst 2 = 0x1002 ∧ returnTrampoline.2.1.pOldInst 4 = 0x1004 := by
  decide +kernel

theorem flow_return : flow returnUnlessZero (0x1000 : HANDLE .x86) =
      [(some (.exec [0x85, 0xC9] none), some 0x1002)] ∧
    flow returnUnlessZero (0x1002 : HANDLE .x86) = jumpIf 4 0x1005 0x1004 ∧
    flow returnUnlessZero (0x1004 : HANDLE .x86) = [(some (.exec [0x90] none), some 0x1005)] ∧
    flow returnUnlessZero (0x1005 : HANDLE .x86) = [(some (.exec [0xC3] none), none)] := by
  decide +kernel

theorem returnRelocatable :
    Relocatable returnTrampoline.2.1 returnUnlessZero returnHooked (· = 0x1005) := by
  obtain ⟨h0, h2, h4, h5⟩ := flow_return
  constructor
  · unfold TRAMPOLINE.NoWrap
    decide +kernel
  · rintro a rfl
    decide +kernel
  · rintro a l d rfl h
    rw [h5] at h
    cases List.mem_singleton.mp h
  · rintro a rfl
    decide +kernel
  · rw [returnTrampoline_ips]
    decide +kernel
  · obtain ⟨hp0, hp2, hp4⟩ := returnTrampoline_pOldInst
    rw [returnTrampoline_ips]
    intro ip hip ho l d hway
    simp only [List.mem_cons, List.not_mem_nil, or_false] at hip
    rcases hip with rfl | rfl | rfl | rfl
    · rw [hp0, h0] at hway
      cases List.mem_singleton.mp hway
      exact .inr ⟨(2, 2), by decide, by decide, hp2.symm, by decide⟩
    · rw [hp2, h2] at hway
      rcases List.mem_cons.mp hway with heq | hway
      · cases heq
        exact .inl rfl
      · cases List.mem_singleton.mp hway
        exact .inr ⟨(4, 8), by decide, by decide, hp4.symm, by decide⟩
    · rw [hp4, h4] at hway
      cases List.mem_singleton.mp hway
      exact .inl rfl
    · exact absurd ho (by decide)
  · intro h
    cases h
  · intro h
    cases h
  · rw [returnTrampoline_ips]
    decide +kernel
  · rw [returnTrampoline_ips]
    decide +kernel

theorem a_return_runs_from_its_trampoline :
    ∃ e', Flow.Runs (flow returnHooked) (0x2000 : HANDLE .x86)
      [.exec [0x85, 0xC9] none, .flag 2 true, .exec [0xC3] none] e' ∧
    Flow.Ends (returnTrampoline.2.1.Follows returnHooked (· = 0x1005)) none e' := by
  obtain ⟨h0, h2, h4, h5⟩ := flow_return
  have hparts : ∀ r : Bool × TRAMPOLINE .x86 × Space PtrWidth.x86.bits, r.1 = true →
      r = (true, r.2.1, r.2.2) := by
    rintro ⟨b, ct, m⟩ rfl
    rfl
  have hcreate := hparts returnTrampoline (by decide +kernel)
  have htest : (some (.exec [0x85, 0xC9] none), some 0x1002) ∈
      flow returnUnlessZero (0x1000 : HANDLE .x86) := by
    rw [h0]
    exact List.mem_cons_self
  have hjump :
      (some (.flag 2 true), some 0x1005) ∈ flow returnUnlessZero (0x1002 : HANDLE .x86) := by
    rw [h2]
    exact List.mem_cons_self
  have hret : (some (.exec [0xC3] none), none) ∈ flow returnUnlessZero (0x1005 : HANDLE .x86) := by
    rw [h5]
    exact List.mem_cons_self
  exact (a_trampoline_does_what_its_function_did hcreate (by decide +kernel) (by decide +kernel)
    returnRelocatable _).1 none (.step htest (.step hjump (.leave hret)))

end RemotePrinter
