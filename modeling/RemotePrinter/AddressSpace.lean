-- Memory as the code of a process sees it: bytes at the addresses of `n` bits,
-- where the first address comes behind the last one. A program that reads from
-- an address on sees the bytes that it takes, and no others.
import Mathlib
import RemotePrinter.Decoding

namespace Interactive

abbrev Space (n : Nat) := BitVec n → UInt8

namespace Space

section
variable {n : Nat}

/-- The `k` bytes from the address on. -/
def read (m : Space n) (a : BitVec n) (k : Nat) : List UInt8 :=
  (List.range k).map fun i => m (a + BitVec.ofNat n i)

def write (m : Space n) (a : BitVec n) (bs : List UInt8) : Space n :=
  fun x => bs.getD (x - a).toNat (m x)

/-- None of the `k` addresses from `a` on is one of the `l` from `b` on. -/
def Apart (a : BitVec n) (k : Nat) (b : BitVec n) (l : Nat) : Prop :=
  ∀ i < k, l ≤ (a + BitVec.ofNat n i - b).toNat

instance (a : BitVec n) (k : Nat) (b : BitVec n) (l : Nat) : Decidable (Apart a k b l) :=
  inferInstanceAs (Decidable (∀ i < k, _))

theorem length_read (m : Space n) (a : BitVec n) (k : Nat) : (m.read a k).length = k := by
  simp [read]

theorem read_add (m : Space n) (a : BitVec n) (k l : Nat) :
    m.read a (k + l) = m.read a k ++ m.read (a + BitVec.ofNat n k) l := by
  unfold read
  rw [List.range_add, List.map_append, List.map_map]
  congr 1
  refine List.map_congr_left fun i _ => ?_
  simp [BitVec.ofNat_add, BitVec.add_assoc]

theorem take_read (m : Space n) (a : BitVec n) {k l : Nat} (h : k ≤ l) :
    (m.read a l).take k = m.read a k := by
  obtain ⟨d, rfl⟩ := Nat.exists_eq_add_of_le h
  rw [read_add, List.take_left' (length_read m a k)]

theorem drop_read (m : Space n) (a : BitVec n) {k l : Nat} (h : k ≤ l) :
    (m.read a l).drop k = m.read (a + BitVec.ofNat n k) (l - k) := by
  obtain ⟨d, rfl⟩ := Nat.exists_eq_add_of_le h
  rw [read_add, List.drop_left' (length_read m a k), Nat.add_sub_cancel_left]

/-- Memories with the same bytes have the same parts of them. -/
theorem read_part {m m' : Space n} {a : BitVec n} {i k l : Nat} (h : m'.read a l = m.read a l)
    (hik : i + k ≤ l) : m'.read (a + BitVec.ofNat n i) k = m.read (a + BitVec.ofNat n i) k := by
  have hpart (m : Space n) : m.read (a + BitVec.ofNat n i) k = ((m.read a l).drop i).take k := by
    rw [drop_read m a (by omega), take_read m _ (by omega)]
  rw [hpart, hpart, h]

theorem read_congr {m m' : Space n} {a a' : BitVec n} {k : Nat}
    (h : ∀ i < k, m (a + BitVec.ofNat n i) = m' (a' + BitVec.ofNat n i)) :
    m.read a k = m'.read a' k :=
  List.map_congr_left fun i hi => h i (List.mem_range.mp hi)

theorem write_outside {m : Space n} {a x : BitVec n} {bs : List UInt8}
    (h : bs.length ≤ (x - a).toNat) : m.write a bs x = m x := by
  unfold write
  rw [List.getD_eq_default _ _ h]

theorem offset_eq {a : BitVec n} {i : Nat} (hi : i < 2 ^ n) :
    (a + BitVec.ofNat n i - a).toNat = i := by
  rw [BitVec.add_comm, BitVec.add_sub_cancel, BitVec.toNat_ofNat, Nat.mod_eq_of_lt hi]

theorem read_write_same {m : Space n} {a : BitVec n} {bs : List UInt8} (h : bs.length ≤ 2 ^ n) :
    (m.write a bs).read a bs.length = bs := by
  refine List.ext_getElem (length_read _ _ _) fun i hi hi' => ?_
  simp only [read, write, List.getElem_map, List.getElem_range]
  rw [offset_eq (Nat.lt_of_lt_of_le hi' h), List.getD_eq_getElem _ _ hi']

theorem read_write_apart {m : Space n} {a b : BitVec n} {k : Nat} {bs : List UInt8}
    (h : Apart b k a bs.length) : (m.write a bs).read b k = m.read b k :=
  read_congr fun i hi => write_outside (h i hi)

theorem write_nil (m : Space n) (a : BitVec n) : m.write a [] = m := rfl

/-- What was there can be put back. -/
theorem write_back (m : Space n) (a : BitVec n) (bs : List UInt8) :
    (m.write a bs).write a (m.read a bs.length) = m := by
  funext x
  by_cases hx : (x - a).toNat < bs.length
  · have hback : a + BitVec.ofNat n (x - a).toNat = x := by
      rw [BitVec.ofNat_toNat, BitVec.setWidth_eq, BitVec.add_comm, BitVec.sub_add_cancel]
    unfold write
    rw [List.getD_eq_getElem _ _ ((length_read m a bs.length).symm ▸ hx)]
    simp only [read, List.getElem_map, List.getElem_range, hback]
  · rw [write_outside (by rw [length_read]; omega), write_outside (by omega)]

/-- What is written in two parts, one behind the other. -/
theorem write_append {m : Space n} {a : BitVec n} {bs cs : List UInt8}
    (h : bs.length + cs.length ≤ 2 ^ n) :
    m.write a (bs ++ cs) = (m.write a bs).write (a + BitVec.ofNat n bs.length) cs := by
  funext x
  unfold write
  have hoff : (x - (a + BitVec.ofNat n bs.length)).toNat =
      (2 ^ n - bs.length + (x - a).toNat) % 2 ^ n := by
    rw [← BitVec.sub_sub, BitVec.toNat_sub, BitVec.toNat_ofNat]
    by_cases hb : bs.length < 2 ^ n
    · rw [Nat.mod_eq_of_lt hb]
    · have hb : bs.length = 2 ^ n := by omega
      rw [hb, Nat.mod_self]
      simp
  by_cases hx : (x - a).toNat < bs.length
  · have hlt := (x - a).isLt
    have hsub : 2 ^ n - bs.length + (x - a).toNat < 2 ^ n := by omega
    rw [hoff, Nat.mod_eq_of_lt hsub, List.getD_append _ _ _ _ hx,
      List.getD_eq_default cs _ (by omega)]
  · have hlt := (x - a).isLt
    have hsub : 2 ^ n - bs.length + (x - a).toNat = ((x - a).toNat - bs.length) + 2 ^ n := by omega
    have hless : (x - a).toNat - bs.length < 2 ^ n := by omega
    rw [hoff, hsub, Nat.add_mod_right, Nat.mod_eq_of_lt hless,
      List.getD_append_right _ _ _ _ (by omega), List.getD_eq_default bs _ (by omega)]

theorem Apart.symm {a b : BitVec n} {k l : Nat} (h : Apart a k b l) : Apart b l a k := by
  intro j hj
  by_cases hlt : (b + BitVec.ofNat n j - a).toNat < k
  · have hback := h _ hlt
    have hsame : a + BitVec.ofNat n (b + BitVec.ofNat n j - a).toNat - b = BitVec.ofNat n j := by
      rw [BitVec.ofNat_toNat, BitVec.setWidth_eq]
      grind
    rw [hsame, BitVec.toNat_ofNat] at hback
    exact absurd (Nat.lt_of_le_of_lt (Nat.mod_le j _) hj) (Nat.not_lt.mpr hback)
  · exact Nat.not_lt.mp hlt

theorem Apart.mono {a b : BitVec n} {k k' l l' : Nat} (h : Apart a k b l) (hk : k' ≤ k)
    (hl : l' ≤ l) : Apart a k' b l' :=
  fun i hi => Nat.le_trans hl (h i (Nat.lt_of_lt_of_le hi hk))

theorem Apart.shift {a b : BitVec n} {k l : Nat} (h : Apart a k b l) {i k' : Nat}
    (hk : i + k' ≤ k) : Apart (a + BitVec.ofNat n i) k' b l := by
  intro j hj
  have hij := h (i + j) (by omega)
  rwa [BitVec.ofNat_add, ← BitVec.add_assoc] at hij

/-- Neither are those of a part of the range. -/
theorem Apart.inside {a b : BitVec n} {k l : Nat} (h : Apart a k b l) {j l' : Nat}
    (hl : j + l' ≤ l) : Apart a k (b + BitVec.ofNat n j) l' := by
  intro i hi
  have hdist := h i hi
  have hlt := (a + BitVec.ofNat n i - b).isLt
  have hj : j < 2 ^ n := by
    by_cases hz : l' = 0
    · omega
    · omega
  rw [← BitVec.sub_sub, BitVec.toNat_sub, BitVec.toNat_ofNat, Nat.mod_eq_of_lt hj]
  have hsplit : 2 ^ n - j + (a + BitVec.ofNat n i - b).toNat =
      ((a + BitVec.ofNat n i - b).toNat - j) + 2 ^ n := by omega
  rw [hsplit, Nat.add_mod_right, Nat.mod_eq_of_lt (by omega)]
  omega

/-- The memories differ only in the bytes from `lo` to `hi` behind the address. -/
def SameOutside (base : BitVec n) (lo hi : Nat) (m m' : Space n) : Prop :=
  ∀ x, ¬ (lo ≤ (x - base).toNat ∧ (x - base).toNat < hi) → m' x = m x

theorem SameOutside.refl (base : BitVec n) (lo hi : Nat) (m : Space n) :
    SameOutside base lo hi m m := fun _ _ => rfl

theorem SameOutside.trans {base : BitVec n} {lo mid hi : Nat} {m m' m'' : Space n}
    (h : SameOutside base lo mid m m') (h' : SameOutside base mid hi m' m'') (hlo : lo ≤ mid)
    (hhi : mid ≤ hi) : SameOutside base lo hi m m'' := by
  intro x hx
  rw [h' x (by omega), h x (by omega)]

theorem sameOutside_write {base : BitVec n} {lo : Nat} {bs : List UInt8} (m : Space n)
    (h : lo + bs.length ≤ 2 ^ n) :
    SameOutside base lo (lo + bs.length) m (m.write (base + BitVec.ofNat n lo) bs) := by
  intro x hx
  by_cases hbs : bs.length = 0
  · rw [List.length_eq_zero_iff.mp hbs, write_nil]
  · apply write_outside
    have hlt := (x - base).isLt
    have hlo : lo < 2 ^ n := by omega
    rw [← BitVec.sub_sub, BitVec.toNat_sub, BitVec.toNat_ofNat, Nat.mod_eq_of_lt hlo]
    by_cases hd : lo ≤ (x - base).toNat
    · have hsplit : 2 ^ n - lo + (x - base).toNat = ((x - base).toNat - lo) + 2 ^ n := by omega
      rw [hsplit, Nat.add_mod_right, Nat.mod_eq_of_lt (by omega)]
      omega
    · rw [Nat.mod_eq_of_lt (by omega)]
      omega

/-- What stands apart from the range is not changed. -/
theorem SameOutside.read_apart {base a : BitVec n} {lo hi k l : Nat} {m m' : Space n}
    (h : SameOutside base lo hi m m') (ha : Apart a k base l) (hl : hi ≤ l) :
    m'.read a k = m.read a k :=
  read_congr fun i hi' => h _ (by have := ha i hi'; omega)

/-- What stands before the changed part is not changed either. -/
theorem SameOutside.read_before {base : BitVec n} {lo hi i k : Nat} {m m' : Space n}
    (h : SameOutside base lo hi m m') (hi' : i + k ≤ lo) (hlo : lo ≤ 2 ^ n) :
    m'.read (base + BitVec.ofNat n i) k = m.read (base + BitVec.ofNat n i) k := by
  refine read_congr fun j hj => h _ ?_
  rw [BitVec.add_assoc, ← BitVec.ofNat_add, offset_eq (by omega)]
  omega

end

end Space

/-! ## Reading from an address on -/

namespace Prog

section
variable {n : Nat} {α β : Type}

/-- What a program reads from the address on, and how many bytes it takes. -/
def fetch (m : Space n) : Reader UInt8 Empty α → BitVec n → α × Nat
  | done a, _ => (a, 0)
  | fail x, _ => x.elim
  | call k f, a =>
    let r := (f (m.read a k)).fetch m (a + BitVec.ofNat n k)
    (r.1, k + r.2)

/-- It takes these bytes wherever they stand. -/
theorem fetch_decodes (m : Space n) (p : Reader UInt8 Empty α) (a : BitVec n) :
    p.Decodes (m.read a (p.fetch m a).2) (p.fetch m a).1 := by
  induction p generalizing a with
  | done v => exact fun rest => rfl
  | fail x => exact x.elim
  | call k f ih =>
    intro rest
    have hrest := ih (m.read a k) (a + BitVec.ofNat n k) rest
    have hlen := Space.length_read m a k
    simp only [fetch]
    rw [Space.read_add, List.append_assoc, reads_call, if_pos (by rw [List.length_append]; omega),
      List.take_left' hlen, List.drop_left' hlen]
    exact hrest

theorem fetch_of_decodes {m : Space n} {p : Reader UInt8 Empty α} {a : BitVec n} {b : List UInt8}
    {v : α} (h : p.Decodes b v) (hb : m.read a b.length = b) : p.fetch m a = (v, b.length) := by
  have hfetch := fetch_decodes m p a
  generalize hr : p.fetch m a = r at hfetch
  have hsum : m.read a (r.2 + b.length) = b ++ m.read (a + BitVec.ofNat n b.length) r.2 := by
    rw [Nat.add_comm, Space.read_add, hb]
  have hread := hfetch (m.read (a + BitVec.ofNat n r.2) b.length)
  rw [← Space.read_add, hsum, h, Reading.done.injEq] at hread
  have hlen := congrArg List.length hread.2
  rw [Space.length_read, Space.length_read] at hlen
  exact Prod.ext hread.1.symm hlen

theorem fetch_bind (m : Space n) (p : Reader UInt8 Empty α) (f : α → Reader UInt8 Empty β)
    (a : BitVec n) :
    (p >>= f).fetch m a =
      (((f (p.fetch m a).1).fetch m (a + BitVec.ofNat n (p.fetch m a).2)).1,
        (p.fetch m a).2 +
          ((f (p.fetch m a).1).fetch m (a + BitVec.ofNat n (p.fetch m a).2)).2) := by
  induction p generalizing a with
  | done v => simp [fetch]
  | fail x => exact x.elim
  | call k g ih =>
    rw [call_bind]
    simp only [fetch]
    rw [ih]
    simp [BitVec.ofNat_add, BitVec.add_assoc, Nat.add_assoc]

/-- The bytes that it takes decide what it reads. -/
theorem fetch_congr {m m' : Space n} {p : Reader UInt8 Empty α} {a a' : BitVec n}
    (h : m'.read a' (p.fetch m a).2 = m.read a (p.fetch m a).2) : p.fetch m' a' = p.fetch m a := by
  have hdec := fetch_decodes m p a
  have hlen := Space.length_read m a (p.fetch m a).2
  rw [fetch_of_decodes hdec (by rw [hlen, h]), hlen]

/-- Every value that a program can come to has `Q`. -/
def Yields (Q : α → Prop) : Reader UInt8 Empty α → Prop
  | done a => Q a
  | fail x => x.elim
  | call _ f => ∀ b, (f b).Yields Q

theorem yields_any (p : Reader UInt8 Empty α) : p.Yields fun _ => True := by
  induction p with
  | done a => trivial
  | fail x => exact x.elim
  | call k f ih => exact ih

theorem Yields.mono {Q R : α → Prop} {p : Reader UInt8 Empty α} (h : p.Yields Q)
    (hR : ∀ a, Q a → R a) : p.Yields R := by
  induction p with
  | done a => exact hR a h
  | fail x => exact x.elim
  | call k f ih => exact fun b => ih b (h b)

theorem Yields.bind {Q : α → Prop} {R : β → Prop} {p : Reader UInt8 Empty α}
    {f : α → Reader UInt8 Empty β} (hp : p.Yields Q) (hf : ∀ a, Q a → (f a).Yields R) :
    (p >>= f).Yields R := by
  induction p with
  | done a => exact hf a hp
  | fail x => exact x.elim
  | call k g ih => exact fun b => ih b (hp b)

theorem Yields.fetch {Q : α → Prop} {p : Reader UInt8 Empty α} (h : p.Yields Q) (m : Space n)
    (a : BitVec n) : Q (p.fetch m a).1 := by
  induction p generalizing a with
  | done v => exact h
  | fail x => exact x.elim
  | call k f ih => exact ih _ (h _) _

end

end Prog

end Interactive
