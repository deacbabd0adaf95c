-- Memory as bytes: reading and writing a range, words in little-endian order,
-- and the places of the fields of a C structure.
import Mathlib.Algebra.Group.Nat.Defs
import Mathlib.Data.List.Induction
import Mathlib.Data.List.Pairwise

namespace ByteMemory

/-- The memory from some address on. -/
abbrev Mem := Nat → UInt8

namespace Mem

def read (m : Mem) (offset n : Nat) : List UInt8 := (List.range n).map fun i => m (offset + i)

def write (m : Mem) (offset : Nat) (bs : List UInt8) : Mem := fun i =>
  if offset ≤ i ∧ i < offset + bs.length then bs.getD (i - offset) 0 else m i

/-- The bytes, and zeros after them. -/
def ofBytes (bs : List UInt8) : Mem := fun i => bs.getD i 0

@[simp] theorem length_read (m : Mem) (offset n : Nat) : (m.read offset n).length = n := by
  simp [read]

@[simp] theorem read_zero (m : Mem) (offset : Nat) : m.read offset 0 = [] := rfl

theorem getElem_read {m : Mem} {offset n i : Nat} (hi : i < (m.read offset n).length) :
    (m.read offset n)[i] = m (offset + i) := by
  simp [read]

theorem read_ofBytes (bs : List UInt8) : (ofBytes bs).read 0 bs.length = bs := by
  apply List.ext_getElem
  · simp
  · intro i hi hi'
    rw [getElem_read, Nat.zero_add]
    simp [ofBytes, List.getD, hi']

/-- Two memories show the same in a range just if they agree in it. -/
theorem read_congr {m m' : Mem} {offset n : Nat} :
    m.read offset n = m'.read offset n ↔ ∀ i < n, m (offset + i) = m' (offset + i) := by
  simp [read]

theorem write_outside {m : Mem} {offset i : Nat} {bs : List UInt8}
    (h : i < offset ∨ offset + bs.length ≤ i) : m.write offset bs i = m i := by
  unfold write
  rw [if_neg (by omega)]

theorem write_inside {m : Mem} {offset i : Nat} {bs : List UInt8} (hi : i < bs.length) :
    m.write offset bs (offset + i) = bs[i] := by
  unfold write
  rw [if_pos (by omega), Nat.add_sub_cancel_left]
  simp [List.getD, hi]

theorem read_write_same (m : Mem) (offset : Nat) (bs : List UInt8) :
    (m.write offset bs).read offset bs.length = bs := by
  apply List.ext_getElem
  · simp
  · intro i hi hi'
    rw [getElem_read, write_inside hi']

theorem read_write_outside {m : Mem} {offset offset' n : Nat} {bs : List UInt8}
    (h : offset' + n ≤ offset ∨ offset + bs.length ≤ offset') :
    (m.write offset bs).read offset' n = m.read offset' n := by
  apply read_congr.mpr
  intro i hi
  apply write_outside
  omega

/-- The start of what was written at the start of a memory. -/
theorem read_write_take {m : Mem} {bs : List UInt8} {n : Nat} (hn : n ≤ bs.length) :
    (m.write 0 bs).read 0 n = bs.take n := by
  apply List.ext_getElem
  · simp [hn]
  · intro i hi hi'
    have hlen : i < bs.length := by simp at hi; omega
    rw [getElem_read, write_inside hlen, List.getElem_take]

theorem take_read {m : Mem} {offset n k : Nat} (hk : k ≤ n) :
    (m.read offset n).take k = m.read offset k := by
  unfold read
  rw [← List.map_take, List.take_range, Nat.min_eq_left hk]

/-- The start of one memory copied over another. -/
theorem write_read (m m' : Mem) (k i : Nat) :
    m.write 0 (m'.read 0 k) i = if i < k then m' i else m i := by
  by_cases hi : i < k
  · have hlen : i < (m'.read 0 k).length := by simpa using hi
    have hin : m.write 0 (m'.read 0 k) (0 + i) = (m'.read 0 k)[i] := write_inside hlen
    rw [getElem_read, Nat.zero_add] at hin
    rw [if_pos hi, hin]
  · rw [if_neg hi]
    exact write_outside (by simp; omega)

/-- A range of the copy shows what the original has just if the bytes behind the copied ones were
the same. -/
theorem read_write_read {m m' : Mem} {k offset n : Nat} :
    (m.write 0 (m'.read 0 k)).read offset n = m'.read offset n ↔
      ∀ i, offset ≤ i → i < offset + n → k ≤ i → m i = m' i := by
  rw [read_congr]
  constructor
  · intro h i hlo hhi hk
    obtain ⟨j, rfl⟩ := Nat.exists_eq_add_of_le hlo
    have hj := h j (by omega)
    rwa [write_read, if_neg (by omega)] at hj
  · intro h j hj
    rw [write_read]
    split
    · rfl
    · exact h (offset + j) (by omega) (by omega) (by omega)

/-- A write that changes nothing. -/
theorem write_eq_self {m : Mem} {offset : Nat} {bs : List UInt8} :
    m.write offset bs = m ↔ bs = m.read offset bs.length := by
  constructor
  · intro h
    have hread := read_write_same m offset bs
    rw [h] at hread
    exact hread.symm
  · intro h
    funext i
    by_cases hi : offset ≤ i ∧ i < offset + bs.length
    · obtain ⟨k, rfl⟩ := Nat.exists_eq_add_of_le hi.1
      have hk : k < bs.length := by omega
      have hget : bs[k] = m (offset + k) := by
        rw [List.getElem_of_eq h, getElem_read]
      rw [write_inside hk, hget]
    · exact write_outside (by omega)

/-- Of the bytes that a memory is to show, a write of the first ones leaves the rest to what was
there before. -/
theorem read_write_prefix {m : Mem} {bs : List UInt8} {k : Nat} (hk : k ≤ bs.length) :
    (m.write 0 (bs.take k)).read 0 bs.length = bs ↔
      m.read k (bs.length - k) = bs.drop k := by
  have hlen : (bs.take k).length = k := by simp [hk]
  have hsplit : ∀ m' : Mem, m'.read 0 bs.length = m'.read 0 k ++ m'.read k (bs.length - k) := by
    intro m'
    apply List.ext_getElem
    · simp [hk]
    · intro i hi hi'
      rw [getElem_read, List.getElem_append]
      split
      · rw [getElem_read]
      · rename_i hlow
        rw [getElem_read]
        congr 1
        simp only [length_read] at hlow ⊢
        omega
  have hstart : (m.write 0 (bs.take k)).read 0 k = bs.take k := by
    rw [read_write_take (Nat.le_of_eq hlen.symm), List.take_take, Nat.min_self]
  have hrest : (m.write 0 (bs.take k)).read k (bs.length - k) = m.read k (bs.length - k) :=
    read_write_outside (Or.inr (by omega))
  rw [hsplit, hstart, hrest]
  constructor
  · intro h
    have hdrop := congrArg (List.drop k) h
    rwa [List.drop_append_of_le_length (Nat.le_of_eq hlen.symm), List.drop_of_length_le
      (Nat.le_of_eq hlen), List.nil_append] at hdrop
  · intro h
    rw [h, List.take_append_drop]

/-! ### Several writes -/

/-- The writes of a list, in order. -/
def writeAll (m : Mem) (ws : List (Nat × List UInt8)) : Mem :=
  ws.foldl (fun m w => m.write w.1 w.2) m

@[simp] theorem writeAll_nil (m : Mem) : m.writeAll [] = m := rfl

@[simp] theorem writeAll_cons (m : Mem) (w : Nat × List UInt8) (ws : List (Nat × List UInt8)) :
    m.writeAll (w :: ws) = (m.write w.1 w.2).writeAll ws := rfl

theorem writeAll_outside {m : Mem} {ws : List (Nat × List UInt8)} {i : Nat}
    (h : ∀ w ∈ ws, i < w.1 ∨ w.1 + w.2.length ≤ i) : m.writeAll ws i = m i := by
  induction ws generalizing m with
  | nil => rfl
  | cons w ws ih =>
    rw [writeAll_cons, ih fun x hx => h x (List.mem_cons_of_mem _ hx)]
    exact write_outside (h w List.mem_cons_self)

theorem read_writeAll_outside {m : Mem} {ws : List (Nat × List UInt8)} {offset n : Nat}
    (h : ∀ w ∈ ws, offset + n ≤ w.1 ∨ w.1 + w.2.length ≤ offset) :
    (m.writeAll ws).read offset n = m.read offset n := by
  apply read_congr.mpr
  intro i hi
  apply writeAll_outside
  intro w hw
  have := h w hw
  omega

/-- Two writes that touch no common byte. -/
def Apart (w w' : Nat × List UInt8) : Prop :=
  w.1 + w.2.length ≤ w'.1 ∨ w'.1 + w'.2.length ≤ w.1

/-- Writes that are apart do not undo each other. -/
theorem read_writeAll_of_mem {m : Mem} {ws : List (Nat × List UInt8)} (hp : ws.Pairwise Apart)
    {w : Nat × List UInt8} (hw : w ∈ ws) : (m.writeAll ws).read w.1 w.2.length = w.2 := by
  induction hp generalizing m with
  | nil => cases hw
  | cons hhead _ ih =>
    rw [writeAll_cons]
    rcases List.mem_cons.mp hw with rfl | hw
    · rw [read_writeAll_outside hhead, read_write_same]
    · exact ih hw

end Mem

/-! ## Words -/

/-- The `n` bytes of a number, the low one first. -/
def leBytes : Nat → Nat → List UInt8
  | 0, _ => []
  | n + 1, v => UInt8.ofNat v :: leBytes n (v / 256)

/-- The number of some bytes, the low one first. -/
def leNat : List UInt8 → Nat
  | [] => 0
  | b :: bs => b.toNat + 256 * leNat bs

@[simp] theorem length_leBytes (n v : Nat) : (leBytes n v).length = n := by
  induction n generalizing v with
  | zero => rfl
  | succ n ih => rw [leBytes, List.length_cons, ih]

theorem leNat_leBytes (n v : Nat) : leNat (leBytes n v) = v % 256 ^ n := by
  induction n generalizing v with
  | zero => rw [leBytes, leNat, Nat.pow_zero, Nat.mod_one]
  | succ n ih =>
    have hbyte : (UInt8.ofNat v).toNat = v % 256 := UInt8.toNat_ofNat'
    rw [leBytes, leNat, ih, hbyte, Nat.pow_succ, Nat.mul_comm (256 ^ n) 256, Nat.mod_mul]

/-! ## Structures -/

/-- A field of a structure: its name, where it lies, and its size. -/
structure Slot (N : Type) where
  name : N
  offset : Nat
  size : Nat

/-- The next multiple of an alignment. -/
def alignUp (align offset : Nat) : Nat := offset + (align - offset % align) % align

theorem le_alignUp (align offset : Nat) : offset ≤ alignUp align offset := Nat.le_add_right _ _

/-- The fields of a structure in order, each at the next multiple of its size. -/
def layout {N : Type} : List (N × Nat) → Nat → List (Slot N)
  | [], _ => []
  | (x, size) :: fields, offset =>
    ⟨x, alignUp size offset, size⟩ :: layout fields (alignUp size offset + size)

theorem layout_ge {N : Type} {fields : List (N × Nat)} {offset : Nat} :
    ∀ s ∈ layout fields offset, offset ≤ s.offset := by
  induction fields generalizing offset with
  | nil => simp [layout]
  | cons f fields ih =>
    intro s hs
    have hle := le_alignUp f.2 offset
    rcases List.mem_cons.mp hs with rfl | hs
    · exact hle
    · have := ih s hs
      omega

/-- No two fields of a structure have a byte in common. -/
theorem layout_pairwise {N : Type} (fields : List (N × Nat)) (offset : Nat) :
    (layout fields offset).Pairwise fun s s' => s.offset + s.size ≤ s'.offset := by
  induction fields generalizing offset with
  | nil => exact .nil
  | cons f fields ih => exact .cons layout_ge (ih _)

/-- Two fields of a structure are one, or have no byte in common. -/
theorem layout_apart {N : Type} {fields : List (N × Nat)} {offset : Nat} {s s' : Slot N}
    (hs : s ∈ layout fields offset) (hs' : s' ∈ layout fields offset) (hne : s.name ≠ s'.name) :
    s.offset + s.size ≤ s'.offset ∨ s'.offset + s'.size ≤ s.offset := by
  have hsymm : Std.Symm fun s s' : Slot N =>
      s.offset + s.size ≤ s'.offset ∨ s'.offset + s'.size ≤ s.offset := ⟨fun _ _ h => h.symm⟩
  have hpair : (layout fields offset).Pairwise fun s s' : Slot N =>
      s.offset + s.size ≤ s'.offset ∨ s'.offset + s'.size ≤ s.offset :=
    (layout_pairwise fields offset).imp fun h => Or.inl h
  exact hpair.forall hs hs' fun h => hne (congrArg Slot.name h)

/-- Every field ends before the last one does. -/
theorem layout_end {N : Type} {slots : List (Slot N)} {e : Nat}
    (hpair : slots.Pairwise fun s s' => s.offset + s.size ≤ s'.offset) :
    ∀ s ∈ slots, s.offset + s.size ≤ slots.foldl (fun _ s => s.offset + s.size) e := by
  induction slots using List.reverseRecOn with
  | nil => simp
  | append_singleton slots last _ =>
    intro s hs
    rw [List.foldl_append, List.foldl_cons, List.foldl_nil]
    rcases List.mem_append.mp hs with hs | hs
    · have := (List.pairwise_append.mp hpair).2.2 s hs last (List.mem_singleton_self last)
      omega
    · obtain rfl := List.mem_singleton.mp hs
      exact Nat.le_refl _

/-- A field of a structure is found by its name. -/
theorem layout_find {N : Type} [DecidableEq N] {fields : List (N × Nat)} {x : N} {size : Nat}
    (hnodup : (fields.map Prod.fst).Nodup) (h : (x, size) ∈ fields) (offset : Nat) :
    ∃ o, (layout fields offset).find? (fun s => s.name = x) = some ⟨x, o, size⟩ := by
  induction fields generalizing offset with
  | nil => cases h
  | cons f fields ih =>
    obtain ⟨y, ysize⟩ := f
    obtain ⟨hfresh, hrest⟩ := List.nodup_cons.mp hnodup
    rw [layout]
    rcases List.mem_cons.mp h with heq | h
    · cases heq
      exact ⟨alignUp size offset, by simp⟩
    · have hne : y ≠ x := by
        rintro rfl
        exact hfresh (List.mem_map.mpr ⟨_, h, rfl⟩)
      obtain ⟨o, ho⟩ := ih hrest h (alignUp ysize offset + ysize)
      exact ⟨o, by simpa [hne] using ho⟩

end ByteMemory
