-- Where the memory for trampolines is: on x64 the nearest free place to the
-- function that the system gives, below it if there is one, and never farther
-- than a jump of 32 bits goes.
import RemotePrinter.SlotBuffers

open Interactive

namespace RemotePrinter

/-! ## The search for a place -/

/-- The answer of a search: the first place in `range` that will do, in the order of `before`, or
none where none will do. -/
def FirstOf {α : Type} (range ok : α → Prop) (before : α → α → Prop) : Option α → Prop
  | some a => range a ∧ ok a ∧ ∀ c, range c → before c a → ¬ ok c
  | none => ∀ c, range c → ¬ ok c

theorem FirstOf.skip {α : Type} {range range' ok : α → Prop} {before : α → α → Prop} {r : Option α}
    (h : FirstOf range' ok before r) (hsub : ∀ c, range' c → range c)
    (hskip : ∀ c, range c → ¬ range' c → ¬ ok c) : FirstOf range ok before r := by
  cases r with
  | none =>
    intro c hc
    by_cases hc' : range' c
    · exact h c hc'
    · exact hskip c hc hc'
  | some a =>
    obtain ⟨ha, hok, hfirst⟩ := h
    refine ⟨hsub a ha, hok, fun c hc hca => ?_⟩
    by_cases hc' : range' c
    · exact hfirst c hc' hca
    · exact hskip c hc hc'

/-- The second of two searches goes on where the first one found nothing. -/
theorem FirstOf.or {α : Type} {range range' ok : α → Prop} {before first second : α → α → Prop}
    {r r' : Option α} (h : FirstOf range ok first r) (h' : FirstOf range' ok second r')
    (hfirst : ∀ c a, range c → range a → before c a → first c a)
    (hlate : ∀ c a, range' c → range a → ¬ before c a)
    (hsecond : ∀ c a, range' c → range' a → before c a → second c a) :
    FirstOf (fun c => range c ∨ range' c) ok before (r.or r') := by
  cases r with
  | some a =>
    obtain ⟨ha, hok, hnone⟩ := h
    refine ⟨.inl ha, hok, fun c hc hca => ?_⟩
    rcases hc with hc | hc
    · exact hnone c hc (hfirst c a hc ha hca)
    · exact absurd hca (hlate c a hc ha)
  | none =>
    cases r' with
    | some a =>
      obtain ⟨ha, hok, hnone⟩ := h'
      refine ⟨.inr ha, hok, fun c hc hca => ?_⟩
      rcases hc with hc | hc
      · exact h c hc
      · exact hnone c hc (hsecond c a hc ha hca)
    | none => exact fun c hc => hc.elim (h c) (h' c)

section
variable {w : PtrWidth} {sys : System w}

/-- A multiple of the allocation granularity. -/
def System.Aligned (sys : System w) (a : HANDLE w) : Prop :=
  a.toNat % sys.dwAllocationGranularity.toNat = 0

def System.FreeAt (sys : System w) (a : HANDLE w) : Prop :=
  ∃ mbi, sys.VirtualQuery a = some mbi ∧ mbi.free = true

/-- A free place that the system gives. -/
def System.Gives (sys : System w) (a : HANDLE w) : Prop :=
  sys.FreeAt a ∧ sys.VirtualAlloc a = some a

/-- The documented behaviour of the system: `VirtualQuery` answers for each address of the
application, and the region that it tells of is one of an allocation that begins at a multiple of
the granularity. `VirtualAlloc` rounds the address down. -/
structure System.Consistent (sys : System w) : Prop where
  granularity : 0 < sys.dwAllocationGranularity.toNat
  pages : sys.dwAllocationGranularity.toNat % MEMORY_BLOCK_SIZE = 0
  minimum : sys.dwAllocationGranularity ≤ sys.lpMinimumApplicationAddress
  maximum : sys.lpMaximumApplicationAddress.toNat + MAX_MEMORY_RANGE +
    sys.dwAllocationGranularity.toNat < 2 ^ w.bits
  answers : ∀ a, sys.lpMinimumApplicationAddress ≤ a → a ≤ sys.lpMaximumApplicationAddress →
    ∃ mbi, sys.VirtualQuery a = some mbi
  allocation : ∀ a mbi, sys.VirtualQuery a = some mbi → mbi.free = false →
    sys.Aligned mbi.AllocationBase ∧ mbi.AllocationBase ≤ a ∧
      ∀ c, mbi.AllocationBase ≤ c → c ≤ a → ¬ sys.FreeAt c
  region : ∀ a mbi, sys.VirtualQuery a = some mbi → mbi.free = false →
    a.toNat < mbi.BaseAddress.toNat + mbi.RegionSize.toNat ∧
      mbi.BaseAddress.toNat + mbi.RegionSize.toNat + sys.dwAllocationGranularity.toNat ≤
        2 ^ w.bits ∧
      ∀ c, a ≤ c → c.toNat < mbi.BaseAddress.toNat + mbi.RegionSize.toNat → ¬ sys.FreeAt c
  place : ∀ a p, sys.VirtualAlloc a = some p → a ≠ 0 → p = roundDown sys a

theorem toNat_roundDown (sys : System w) (a : HANDLE w) :
    (roundDown sys a).toNat = a.toNat - a.toNat % sys.dwAllocationGranularity.toNat := by
  have hle : a % sys.dwAllocationGranularity ≤ a := by
    rw [BitVec.le_def, BitVec.toNat_umod]
    exact Nat.mod_le _ _
  unfold roundDown
  rw [BitVec.toNat_sub_of_le hle, BitVec.toNat_umod]

theorem aligned_roundDown (sys : System w) (a : HANDLE w) : sys.Aligned (roundDown sys a) := by
  unfold System.Aligned
  rw [toNat_roundDown]
  exact Nat.sub_mod_eq_zero_of_mod_eq (Nat.mod_mod _ _).symm

theorem aligned_add {a : HANDLE w} (h : sys.Aligned a) :
    (a.toNat + sys.dwAllocationGranularity.toNat) % sys.dwAllocationGranularity.toNat = 0 :=
  (Nat.add_mod_right _ _).trans h

/-- Between two multiples next to each other there is none. -/
theorem le_of_multiple {b c g : Nat} (hb : b % g = 0) (hc : c % g = 0) (h : b < c + g) : b ≤ c := by
  obtain ⟨k, rfl⟩ := Nat.dvd_of_mod_eq_zero hb
  obtain ⟨l, rfl⟩ := Nat.dvd_of_mod_eq_zero hc
  have hkl : g * k < g * (l + 1) := by
    rw [Nat.mul_add, Nat.mul_one]
    exact h
  exact Nat.mul_le_mul_left g (Nat.lt_succ_iff.mp (Nat.lt_of_mul_lt_mul_left hkl))

theorem roundDown_le (sys : System w) (a : HANDLE w) : (roundDown sys a).toNat ≤ a.toNat := by
  rw [toNat_roundDown]
  exact Nat.sub_le _ _

theorem lt_roundDown_add (hsys : sys.Consistent) (a : HANDLE w) :
    a.toNat < (roundDown sys a).toNat + sys.dwAllocationGranularity.toNat := by
  have hmod := Nat.mod_lt a.toNat hsys.granularity
  have hle := Nat.mod_le a.toNat sys.dwAllocationGranularity.toNat
  rw [toNat_roundDown]
  omega

theorem roundDown_of_aligned {a : HANDLE w} (h : sys.Aligned a) : roundDown sys a = a := by
  refine BitVec.eq_of_toNat_eq ?_
  unfold System.Aligned at h
  rw [toNat_roundDown, h, Nat.sub_zero]

/-- The places from `lo` to `hi`. -/
def System.Places (sys : System w) (lo hi : Nat) (c : HANDLE w) : Prop :=
  sys.Aligned c ∧ lo ≤ c.toNat ∧ c.toNat ≤ hi

theorem FirstOf.skipPlaces {ok : HANDLE w → Prop} {before : HANDLE w → HANDLE w → Prop}
    {lo hi lo' hi' : Nat} {r : Option (HANDLE w)} (h : FirstOf (sys.Places lo' hi') ok before r)
    (hlo : lo ≤ lo') (hhi : hi' ≤ hi)
    (hskip : ∀ c, sys.Aligned c → lo ≤ c.toNat → c.toNat ≤ hi → c.toNat < lo' ∨ hi' < c.toNat →
      ¬ ok c) :
    FirstOf (sys.Places lo hi) ok before r := by
  refine h.skip (fun c ⟨hc, hl, hh⟩ => ⟨hc, hlo.trans hl, hh.trans hhi⟩) ?_
  intro c ⟨hc, hl, hh⟩ hno
  refine hskip c hc hl hh (Classical.byContradiction fun hin => hno ⟨hc, ?_, ?_⟩)
  · exact Nat.not_lt.mp fun h => hin (.inl h)
  · exact Nat.not_lt.mp fun h => hin (.inr h)

theorem firstOf_empty {ok : HANDLE w → Prop} {before : HANDLE w → HANDLE w → Prop} {lo hi : Nat}
    (h : hi < lo) : FirstOf (sys.Places lo hi) ok before none :=
  fun _ ⟨_, hlo, hhi⟩ => absurd (hlo.trans hhi) (Nat.not_le.mpr h)

theorem firstOf_down {ok : HANDLE w → Prop} {a : HANDLE w} {lo : Nat} (ha : sys.Aligned a)
    (hlo : lo ≤ a.toNat) (hok : ok a) :
    FirstOf (sys.Places lo a.toNat) ok (fun c d => d < c) (some a) :=
  ⟨⟨ha, hlo, Nat.le_refl _⟩, hok,
    fun _ ⟨_, _, hca⟩ hac => absurd (BitVec.lt_def.mp hac) (Nat.not_lt.mpr hca)⟩

theorem firstOf_up {ok : HANDLE w → Prop} {a : HANDLE w} {hi : Nat} (ha : sys.Aligned a)
    (hhi : a.toNat ≤ hi) (hok : ok a) :
    FirstOf (sys.Places a.toNat hi) ok (fun c d => c < d) (some a) :=
  ⟨⟨ha, Nat.le_refl _, hhi⟩, hok,
    fun _ ⟨_, hca, _⟩ hac => absurd (BitVec.lt_def.mp hac) (Nat.not_lt.mpr hca)⟩

theorem prevFree_first (hsys : sys.Consistent) {lo : HANDLE w}
    (hlo : sys.lpMinimumApplicationAddress ≤ lo) {n : Nat} {tryAddr : HANDLE w}
    (haligned : sys.Aligned tryAddr) (hmax : tryAddr ≤ sys.lpMaximumApplicationAddress)
    (hn : tryAddr.toNat < n) :
    FirstOf (sys.Places lo.toNat tryAddr.toNat) sys.FreeAt (fun c d => d < c)
      (prevFree sys lo n tryAddr) := by
  induction n generalizing tryAddr with
  | zero => exact absurd hn (Nat.not_lt_zero _)
  | succ n ih =>
    unfold prevFree
    by_cases hlow : tryAddr < lo
    · rw [if_pos hlow]
      exact firstOf_empty (BitVec.lt_def.mp hlow)
    rw [if_neg hlow]
    rw [BitVec.not_lt] at hlow
    obtain ⟨mbi, hquery⟩ := hsys.answers tryAddr (BitVec.le_trans hlo hlow) hmax
    rw [hquery]
    simp only
    cases hfree : mbi.free with
    | true =>
      rw [if_pos rfl]
      exact firstOf_down haligned hlow ⟨mbi, hquery, hfree⟩
    | false =>
      obtain ⟨hbase, hle, hheld⟩ := hsys.allocation tryAddr mbi hquery hfree
      rw [if_neg Bool.false_ne_true]
      unfold System.Aligned at hbase
      rw [BitVec.le_def] at hle hmax hlow
      by_cases hfirst : mbi.AllocationBase < sys.dwAllocationGranularity
      · rw [if_pos hfirst]
        rw [BitVec.lt_def] at hfirst
        rw [Nat.mod_eq_of_lt hfirst] at hbase
        intro c ⟨_, _, hct⟩
        refine hheld c ?_ hct
        rw [BitVec.le_def, hbase]
        exact Nat.zero_le _
      rw [if_neg hfirst]
      have hsub : (mbi.AllocationBase - sys.dwAllocationGranularity).toNat =
          mbi.AllocationBase.toNat - sys.dwAllocationGranularity.toNat :=
        BitVec.toNat_sub_of_le (BitVec.not_lt.mp hfirst)
      have hpos := hsys.granularity
      rw [BitVec.not_lt, BitVec.le_def] at hfirst
      have haligned' : sys.Aligned (mbi.AllocationBase - sys.dwAllocationGranularity) := by
        unfold System.Aligned
        rw [hsub]
        exact Nat.sub_mod_eq_zero_of_mod_eq (by rw [hbase, Nat.mod_self])
      refine (ih haligned' (by rw [BitVec.le_def, hsub]; omega) (by rw [hsub]; omega)).skipPlaces
        (Nat.le_refl _) (by rw [hsub]; omega) fun c hc hl hh hout => hheld c ?_ hh
      -- Below the allocation there is no place that was not tried.
      rw [hsub] at hout
      rw [BitVec.le_def]
      exact le_of_multiple hbase hc (by omega)

theorem nextFree_first (hsys : sys.Consistent) {hi : HANDLE w}
    (hhi : hi ≤ sys.lpMaximumApplicationAddress) {n : Nat} {tryAddr : HANDLE w}
    (haligned : sys.Aligned tryAddr) (hmin : sys.lpMinimumApplicationAddress ≤ tryAddr)
    (hn : hi.toNat < n + tryAddr.toNat) :
    FirstOf (sys.Places tryAddr.toNat hi.toNat) sys.FreeAt (fun c d => c < d)
      (nextFree sys hi n tryAddr) := by
  induction n generalizing tryAddr with
  | zero => exact firstOf_empty (by omega)
  | succ n ih =>
    unfold nextFree
    by_cases hhigh : hi < tryAddr
    · rw [if_pos hhigh]
      exact firstOf_empty (BitVec.lt_def.mp hhigh)
    rw [if_neg hhigh]
    rw [BitVec.not_lt] at hhigh
    obtain ⟨mbi, hquery⟩ := hsys.answers tryAddr hmin (BitVec.le_trans hhigh hhi)
    rw [hquery]
    simp only
    cases hfree : mbi.free with
    | true =>
      rw [if_pos rfl]
      exact firstOf_up haligned hhigh ⟨mbi, hquery, hfree⟩
    | false =>
      obtain ⟨hin, hwrap, hheld⟩ := hsys.region tryAddr mbi hquery hfree
      rw [if_neg Bool.false_ne_true]
      have hpos := hsys.granularity
      have hsum : (mbi.BaseAddress + mbi.RegionSize + (sys.dwAllocationGranularity - 1)).toNat =
          mbi.BaseAddress.toNat + mbi.RegionSize.toNat +
            (sys.dwAllocationGranularity.toNat - 1) := by
        have hone : (1 : HANDLE w).toNat = 1 := by cases w <;> rfl
        have hgran : (sys.dwAllocationGranularity - 1).toNat =
            sys.dwAllocationGranularity.toNat - 1 := by
          rw [BitVec.toNat_sub_of_le (by rw [BitVec.le_def, hone]; omega), hone]
        rw [BitVec.toNat_add, BitVec.toNat_add, hgran, Nat.mod_add_mod, Nat.mod_eq_of_lt (by omega)]
      have hup := lt_roundDown_add hsys
        (mbi.BaseAddress + mbi.RegionSize + (sys.dwAllocationGranularity - 1))
      have hdown := roundDown_le sys
        (mbi.BaseAddress + mbi.RegionSize + (sys.dwAllocationGranularity - 1))
      have hround := aligned_roundDown sys
        (mbi.BaseAddress + mbi.RegionSize + (sys.dwAllocationGranularity - 1))
      rw [hsum] at hup hdown
      refine (ih hround (BitVec.le_trans hmin (by rw [BitVec.le_def]; omega))
        (by omega)).skipPlaces (by omega) (Nat.le_refl _) fun c hc hl hh hout => hheld c hl ?_
      -- Above the region there is no place that was not tried.
      have hmult : c.toNat + sys.dwAllocationGranularity.toNat ≤ (roundDown sys
          (mbi.BaseAddress + mbi.RegionSize + (sys.dwAllocationGranularity - 1))).toNat :=
        le_of_multiple (aligned_add hc) hround (by omega)
      omega

theorem FindPrevFreeRegion_first (hsys : sys.Consistent) {lo a : HANDLE w}
    (hlo : sys.lpMinimumApplicationAddress ≤ lo) (hloa : lo ≤ a)
    (hmax : a ≤ sys.lpMaximumApplicationAddress) :
    FirstOf (sys.Places lo.toNat ((roundDown sys a).toNat - sys.dwAllocationGranularity.toNat))
      sys.FreeAt (fun c d => d < c) (FindPrevFreeRegion sys a lo) := by
  have hpos := hsys.granularity
  have hmin := hsys.minimum
  have hup := lt_roundDown_add hsys a
  have hround := aligned_roundDown sys a
  have hdown := roundDown_le sys a
  rw [BitVec.le_def] at hlo hloa hmin
  have hge : sys.dwAllocationGranularity.toNat ≤ (roundDown sys a).toNat :=
    le_of_multiple (Nat.mod_self _) hround (by omega)
  have hsub : (roundDown sys a - sys.dwAllocationGranularity).toNat =
      (roundDown sys a).toNat - sys.dwAllocationGranularity.toNat := BitVec.toNat_sub_of_le hge
  have haligned : sys.Aligned (roundDown sys a - sys.dwAllocationGranularity) := by
    unfold System.Aligned at *
    rw [hsub]
    exact Nat.sub_mod_eq_zero_of_mod_eq (by rw [hround, Nat.mod_self])
  unfold FindPrevFreeRegion
  rw [← hsub]
  refine prevFree_first hsys (BitVec.le_def.mpr hlo) haligned ?_ (Nat.lt_succ_self _)
  rw [BitVec.le_def] at hmax ⊢
  omega

theorem FindNextFreeRegion_first (hsys : sys.Consistent) {hi a : HANDLE w}
    (hhi : hi ≤ sys.lpMaximumApplicationAddress) (hahi : a ≤ hi)
    (hmin : sys.lpMinimumApplicationAddress ≤ a) :
    FirstOf (sys.Places ((roundDown sys a).toNat + sys.dwAllocationGranularity.toNat) hi.toNat)
      sys.FreeAt (fun c d => c < d) (FindNextFreeRegion sys a hi) := by
  have hmax := hsys.maximum
  have hup := lt_roundDown_add hsys a
  have hround := aligned_roundDown sys a
  have hdown := roundDown_le sys a
  rw [BitVec.le_def] at hhi hahi hmin
  have hadd : (roundDown sys a + sys.dwAllocationGranularity).toNat =
      (roundDown sys a).toNat + sys.dwAllocationGranularity.toNat := by
    rw [BitVec.toNat_add, Nat.mod_eq_of_lt (by omega)]
  have haligned : sys.Aligned (roundDown sys a + sys.dwAllocationGranularity) := by
    unfold System.Aligned at *
    rw [hadd, Nat.add_mod_right]
    exact hround
  unfold FindNextFreeRegion
  rw [← hadd]
  refine nextFree_first hsys (BitVec.le_def.mpr hhi) haligned ?_ (by omega)
  rw [BitVec.le_def]
  omega

/-- At a place that was found, the system gives it or nothing. -/
theorem gives_or_none (hsys : sys.Consistent) {a : HANDLE w} (haligned : sys.Aligned a)
    (hmin : sys.lpMinimumApplicationAddress ≤ a) :
    sys.VirtualAlloc a = none ∨ sys.VirtualAlloc a = some a := by
  cases hgot : sys.VirtualAlloc a with
  | none => exact .inl rfl
  | some p =>
    have hpos := hsys.granularity
    have hzero : (0 : HANDLE w).toNat = 0 := by cases w <;> rfl
    have hne : a ≠ 0 := by
      rintro rfl
      have hle := BitVec.le_trans hsys.minimum hmin
      rw [BitVec.le_def, hzero] at hle
      omega
    have hp := hsys.place a p hgot hne
    rw [roundDown_of_aligned haligned] at hp
    exact .inr (congrArg some hp)

theorem allocPrev_first (hsys : sys.Consistent) {lo : HANDLE w}
    (hlo : sys.lpMinimumApplicationAddress ≤ lo) {n : Nat} {a : HANDLE w}
    (hmax : a ≤ sys.lpMaximumApplicationAddress) (hn : a.toNat < n) :
    FirstOf (sys.Places lo.toNat ((roundDown sys a).toNat - sys.dwAllocationGranularity.toNat))
      sys.Gives (fun c d => d < c) (allocPrev sys lo n a) := by
  induction n generalizing a with
  | zero => exact absurd hn (Nat.not_lt_zero _)
  | succ n ih =>
    have hpos := hsys.granularity
    have hdown := roundDown_le sys a
    have hmin := BitVec.le_def.mp (BitVec.le_trans hsys.minimum hlo)
    unfold allocPrev
    by_cases hlow : a < lo
    · rw [if_pos hlow]
      rw [BitVec.lt_def] at hlow
      exact firstOf_empty (by omega)
    rw [if_neg hlow]
    rw [BitVec.not_lt] at hlow
    have hfind := FindPrevFreeRegion_first hsys hlo hlow hmax
    cases hfound : FindPrevFreeRegion sys a lo with
    | none =>
      rw [hfound] at hfind
      exact fun c hc hgives => hfind c hc hgives.1
    | some pAlloc =>
      rw [hfound] at hfind
      obtain ⟨⟨haligned, hlop, hpa⟩, hfree, hnone⟩ := hfind
      have hround := roundDown_of_aligned haligned
      simp only
      rcases gives_or_none hsys haligned (BitVec.le_trans hlo hlop) with hgot | hgot
      · rw [hgot]
        have hmaxp : pAlloc ≤ sys.lpMaximumApplicationAddress :=
          BitVec.le_trans (by rw [BitVec.le_def]; omega) hmax
        have hrest := ih hmaxp (by omega)
        rw [hround] at hrest
        refine hrest.skipPlaces (Nat.le_refl _) (by omega) fun c hc hl hh hout hgives => ?_
        -- A place between the two was not free, and at this one the system gave nothing.
        have hle : pAlloc ≤ c := BitVec.le_def.mpr (le_of_multiple haligned hc (by omega))
        by_cases heq : c = pAlloc
        · have hgiven := heq ▸ hgives.2
          rw [hgot] at hgiven
          cases hgiven
        · exact hnone c ⟨hc, hl, hh⟩ (BitVec.lt_of_le_ne hle (Ne.symm heq)) hgives.1
      · rw [hgot]
        exact ⟨⟨haligned, hlop, hpa⟩, ⟨hfree, hgot⟩,
          fun c hc hbefore hgives => hnone c hc hbefore hgives.1⟩

theorem allocNext_first (hsys : sys.Consistent) {hi : HANDLE w}
    (hhi : hi ≤ sys.lpMaximumApplicationAddress) {n : Nat} {a : HANDLE w}
    (hmin : sys.lpMinimumApplicationAddress ≤ a) (hn : hi.toNat < n + a.toNat) :
    FirstOf (sys.Places ((roundDown sys a).toNat + sys.dwAllocationGranularity.toNat) hi.toNat)
      sys.Gives (fun c d => c < d) (allocNext sys hi n a) := by
  have hpos := hsys.granularity
  induction n generalizing a with
  | zero =>
    have hup := lt_roundDown_add hsys a
    exact firstOf_empty (by omega)
  | succ n ih =>
    have hup := lt_roundDown_add hsys a
    unfold allocNext
    by_cases hhigh : hi < a
    · rw [if_pos hhigh]
      rw [BitVec.lt_def] at hhigh
      exact firstOf_empty (by omega)
    rw [if_neg hhigh]
    rw [BitVec.not_lt] at hhigh
    have hfind := FindNextFreeRegion_first hsys hhi hhigh hmin
    cases hfound : FindNextFreeRegion sys a hi with
    | none =>
      rw [hfound] at hfind
      exact fun c hc hgives => hfind c hc hgives.1
    | some pAlloc =>
      rw [hfound] at hfind
      obtain ⟨⟨haligned, hpa, hhip⟩, hfree, hnone⟩ := hfind
      have hround := roundDown_of_aligned haligned
      have hminp : sys.lpMinimumApplicationAddress ≤ pAlloc :=
        BitVec.le_trans hmin (by rw [BitVec.le_def]; omega)
      simp only
      rcases gives_or_none hsys haligned hminp with hgot | hgot
      · rw [hgot]
        have hrest := ih hminp (by omega)
        rw [hround] at hrest
        refine hrest.skipPlaces (by omega) (Nat.le_refl _) fun c hc hl hh hout hgives => ?_
        have hle : c ≤ pAlloc := BitVec.le_def.mpr (le_of_multiple hc haligned (by omega))
        by_cases heq : c = pAlloc
        · have hgiven := heq ▸ hgives.2
          rw [hgot] at hgiven
          cases hgiven
        · exact hnone c ⟨hc, hl, hh⟩ (BitVec.lt_of_le_ne hle heq) hgives.1
      · rw [hgot]
        exact ⟨⟨haligned, hpa, hhip⟩, ⟨hfree, hgot⟩,
          fun c hc hbefore hgives => hnone c hc hbefore hgives.1⟩

end

/-! ## The block of a function -/

section
variable {sys : System .x64} {o : HANDLE .x64}

/-- The places that are looked at: not the one that the function itself is in. -/
def System.InReach (sys : System .x64) (o c : HANDLE .x64) : Prop :=
  sys.Aligned c ∧ minAddr sys o ≤ c ∧ c ≤ maxAddr sys o ∧ c ≠ roundDown sys o

/-- The order in which places are tried: below the function from it down, then above it up. -/
def sooner (o c d : HANDLE .x64) : Prop := c < o ∧ (d < c ∨ o < d) ∨ o < c ∧ c < d

/-- The function is in the memory of the application. -/
structure System.Holds (sys : System .x64) (o : HANDLE .x64) : Prop where
  above : sys.lpMinimumApplicationAddress ≤ o
  below : o ≤ sys.lpMaximumApplicationAddress

theorem toNat_minAddr (sys : System .x64) (o : HANDLE .x64) :
    (minAddr sys o).toNat =
      max sys.lpMinimumApplicationAddress.toNat (o.toNat - MAX_MEMORY_RANGE) := by
  have hrange : (BitVec.ofNat PtrWidth.x64.bits MAX_MEMORY_RANGE).toNat = MAX_MEMORY_RANGE := by
    decide
  unfold minAddr
  simp only [BitVec.lt_def, hrange]
  split_ifs with h
  · obtain ⟨hbig, hlt⟩ := h
    have hsub : (o - BitVec.ofNat PtrWidth.x64.bits MAX_MEMORY_RANGE).toNat =
        o.toNat - MAX_MEMORY_RANGE := by
      rw [BitVec.toNat_sub_of_le (BitVec.le_of_lt (by rw [BitVec.lt_def, hrange]; exact hbig)),
        hrange]
    rw [hsub] at hlt ⊢
    omega
  · by_cases hbig : MAX_MEMORY_RANGE < o.toNat
    · have hsub : (o - BitVec.ofNat PtrWidth.x64.bits MAX_MEMORY_RANGE).toNat =
          o.toNat - MAX_MEMORY_RANGE := by
        rw [BitVec.toNat_sub_of_le (BitVec.le_of_lt (by rw [BitVec.lt_def, hrange]; exact hbig)),
          hrange]
      have hle := fun hlt => h ⟨hbig, hlt⟩
      rw [hsub] at hle
      omega
    · omega

/-- The last place from which a whole block is in reach. -/
theorem toNat_maxAddr (hsys : sys.Consistent) (ho : sys.Holds o) :
    (maxAddr sys o).toNat + (MEMORY_BLOCK_SIZE - 1) =
      min sys.lpMaximumApplicationAddress.toNat (o.toNat + MAX_MEMORY_RANGE) := by
  have hrange : (BitVec.ofNat PtrWidth.x64.bits MAX_MEMORY_RANGE).toNat = MAX_MEMORY_RANGE := by
    decide
  have hblock : (BitVec.ofNat PtrWidth.x64.bits (MEMORY_BLOCK_SIZE - 1)).toNat =
      MEMORY_BLOCK_SIZE - 1 := by decide
  have hmax := hsys.maximum
  have hpos := hsys.granularity
  have hpages := hsys.pages
  have hmin := BitVec.le_def.mp hsys.minimum
  have hlow := BitVec.le_def.mp ho.above
  have hhigh := BitVec.le_def.mp ho.below
  have hsum : (o + BitVec.ofNat PtrWidth.x64.bits MAX_MEMORY_RANGE).toNat =
      o.toNat + MAX_MEMORY_RANGE := by
    rw [BitVec.toNat_add, hrange, Nat.mod_eq_of_lt (by omega)]
  unfold maxAddr
  simp only [BitVec.lt_def, hsum]
  unfold MEMORY_BLOCK_SIZE at *
  have hsub (top : HANDLE .x64) (htop : 4095 ≤ top.toNat) :
      (top - BitVec.ofNat PtrWidth.x64.bits (0x1000 - 1)).toNat + (0x1000 - 1) = top.toNat := by
    rw [BitVec.toNat_sub_of_le (by rw [BitVec.le_def, hblock]; exact htop), hblock]
    omega
  split_ifs with h
  · rw [hsub _ (by omega), hsum]
    omega
  · rw [hsub _ (by omega)]
    omega

/-- A new block is at the first place of those in reach that the system gives, or there is none. -/
theorem newBlock_first (hsys : sys.Consistent) (ho : sys.Holds o) :
    FirstOf (sys.InReach o) sys.Gives (sooner o) (newBlock sys o) := by
  have hlo := toNat_minAddr sys o
  have hhi := toNat_maxAddr hsys ho
  have hpos := hsys.granularity
  have hpages := hsys.pages
  have hlow := BitVec.le_def.mp ho.above
  have hhigh := BitVec.le_def.mp ho.below
  have hup := lt_roundDown_add hsys o
  have hdown := roundDown_le sys o
  have hround := aligned_roundDown sys o
  unfold MEMORY_BLOCK_SIZE at hhi hpages
  have hmin := BitVec.le_def.mp hsys.minimum
  have hminAddr : sys.lpMinimumApplicationAddress ≤ minAddr sys o := by
    rw [BitVec.le_def]
    omega
  have hmaxAddr : maxAddr sys o ≤ sys.lpMaximumApplicationAddress := by
    rw [BitVec.le_def]
    omega
  have hprev := allocPrev_first hsys hminAddr ho.below (Nat.lt_succ_self o.toNat)
  have hnext := allocNext_first hsys hmaxAddr ho.above
    (Nat.lt_add_right o.toNat (Nat.lt_succ_self (maxAddr sys o).toNat))
  unfold newBlock
  rw [if_pos rfl]
  refine (hprev.or hnext ?_ ?_ ?_).skip ?_ ?_
  · rintro c a ⟨_, _, hc⟩ ⟨_, _, ha⟩ hca
    simp only [sooner, BitVec.lt_def] at hca ⊢
    omega
  · rintro c a ⟨_, hc, _⟩ ⟨_, _, ha⟩ hca
    simp only [sooner, BitVec.lt_def] at hca
    omega
  · rintro c a ⟨_, hc, _⟩ ⟨_, ha, _⟩ hca
    simp only [sooner, BitVec.lt_def] at hca ⊢
    omega
  · have hne (c : HANDLE .x64) (h : c.toNat ≠ (roundDown sys o).toNat) : c ≠ roundDown sys o :=
      fun heq => h (congrArg BitVec.toNat heq)
    rintro c (⟨hc, hl, hh⟩ | ⟨hc, hl, hh⟩)
    · refine ⟨hc, hl, BitVec.le_def.mpr ?_, hne c ?_⟩
      · omega
      · omega
    · exact ⟨hc, BitVec.le_def.mpr (by omega), hh, hne c (by omega)⟩
  · rintro c ⟨hc, hl, hh, hne⟩ hno
    refine absurd ?_ hno
    have hne : c.toNat ≠ (roundDown sys o).toNat := fun h => hne (BitVec.eq_of_toNat_eq h)
    rcases Nat.lt_or_gt_of_ne hne with hlt | hgt
    · have hmult := le_of_multiple (aligned_add hc) hround (Nat.add_lt_add_right hlt _)
      exact .inl ⟨hc, hl, by omega⟩
    · exact .inr ⟨hc, le_of_multiple (aligned_add hround) hc (Nat.add_lt_add_right hgt _), hh⟩

/-! ## The slot of a function -/

variable {g g' : List (MEMORY_BLOCK .x64)} {p : HANDLE .x64}

/-- No registered block that is in reach has a free slot. -/
def NoneLeft (sys : System .x64) (o : HANDLE .x64) (g : List (MEMORY_BLOCK .x64)) : Prop :=
  ∀ b ∈ g, reachable sys o b.pBlock = true → b.pFree = []

theorem registered_none : registered sys o g = none ↔ NoneLeft sys o g := by
  induction g with
  | nil => exact ⟨fun _ _ hb => absurd hb List.not_mem_nil, fun _ => rfl⟩
  | cons b g ih =>
    unfold registered NoneLeft
    rw [List.forall_mem_cons]
    split_ifs with hb
    · refine ⟨fun h => h.elim, fun h => ?_⟩
      obtain ⟨hreach, hfree⟩ := Bool.and_eq_true_iff.mp hb
      rw [h.1 hreach] at hfree
      cases hfree
    · rw [Option.map_eq_none_iff, ih]
      refine ⟨fun h => ⟨fun hreach => ?_, h⟩, fun h => h.2⟩
      simpa [hreach] using hb

theorem GetMemoryBlock_none (hsys : sys.Consistent) (ho : sys.Holds o) :
    GetMemoryBlock sys o g = none ↔
      NoneLeft sys o g ∧ ∀ c, sys.InReach o c → ¬ sys.Gives c := by
  have hnew := newBlock_first hsys ho
  unfold GetMemoryBlock
  rw [Option.or_eq_none_iff, Option.map_eq_none_iff, registered_none]
  refine and_congr_right fun _ => ?_
  cases hblock : newBlock sys o with
  | none =>
    rw [hblock] at hnew
    exact iff_of_true rfl hnew
  | some pBlock =>
    rw [hblock] at hnew
    exact iff_of_false (Option.some_ne_none _) fun hno => hno pBlock hnew.1 hnew.2.1

theorem GetMemoryBlock_free {b : MEMORY_BLOCK .x64} {pre post : List (MEMORY_BLOCK .x64)}
    (h : GetMemoryBlock sys o g = some (pre, b, post)) : b.pFree ≠ [] := by
  unfold GetMemoryBlock at h
  rcases Option.or_eq_some_iff.mp h with h | ⟨_, h⟩
  · exact (registered_split h).2.2
  · obtain ⟨pBlock, _, heq⟩ := Option.map_eq_some_iff.mp h
    cases heq
    exact List.ne_nil_of_length_eq_add_one (length_slotsOf pBlock)

theorem AllocateBuffer_none_iff :
    (AllocateBuffer sys o g).1 = none ↔ GetMemoryBlock sys o g = none := by
  unfold AllocateBuffer
  split
  · rename_i hblock
    rw [hblock]
    exact iff_of_false (Option.some_ne_none _) (Option.some_ne_none _)
  · rename_i hno
    refine ⟨fun _ => ?_, fun _ => rfl⟩
    cases hblock : GetMemoryBlock sys o g with
    | none => rfl
    | some found =>
      obtain ⟨pre, ⟨pBlock, pFree, usedCount⟩, post⟩ := found
      obtain ⟨q, qs, rfl⟩ := List.exists_cons_of_ne_nil (GetMemoryBlock_free hblock)
      exact absurd hblock (hno _ _ _ _ _ _)

theorem isPage_of_aligned (hsys : sys.Consistent) {a : HANDLE .x64} (h : sys.Aligned a) :
    IsPage a :=
  Nat.mod_eq_zero_of_dvd
    ((Nat.dvd_of_mod_eq_zero hsys.pages).trans (Nat.dvd_of_mod_eq_zero h))

/-- A block between the two bounds is as a whole not farther away than the range. -/
theorem near_of_mem (hsys : sys.Consistent) (ho : sys.Holds o) {pBlock : HANDLE .x64}
    (hpage : IsPage pBlock) (hlo : minAddr sys o ≤ pBlock) (hhi : pBlock ≤ maxAddr sys o)
    (hp : p ∈ slotsOf pBlock) :
    o.toNat ≤ p.toNat + MAX_MEMORY_RANGE ∧
      p.toNat + MEMORY_SLOT_SIZE .x64 ≤ o.toNat + MAX_MEMORY_RANGE + 1 := by
  obtain ⟨k, _, hk, rfl⟩ := mem_slotsOf.mp hp
  have hmin := toNat_minAddr sys o
  have hmax := toNat_maxAddr hsys ho
  have hend := slot_end hk
  rw [hpage.toNat_slotAt hk]
  rw [BitVec.le_def] at hlo hhi
  unfold MEMORY_BLOCK_SIZE at *
  omega

theorem bounds_of_reachable (h : reachable sys o p = true) :
    minAddr sys o ≤ p ∧ p ≤ maxAddr sys o := by
  simp only [reachable, bne_self_eq_false, Bool.false_or, Bool.and_eq_true,
    decide_eq_true_eq] at h
  exact ⟨h.1, BitVec.le_of_lt h.2⟩

/-- The block that a slot is in is the one that was found. -/
theorem AllocateBuffer_block (hsys : sys.Consistent) (ho : sys.Holds o) {held : List (HANDLE .x64)}
    (hg : Listed g held) (h : AllocateBuffer sys o g = (some p, g')) :
    (∃ pBlock, IsPage pBlock ∧ minAddr sys o ≤ pBlock ∧ pBlock ≤ maxAddr sys o ∧
      p ∈ slotsOf pBlock) ∧
    (NoneLeft sys o g → newBlock sys o = some (blockOf p)) := by
  obtain ⟨pre, b, post, pFree, hblock, hfree, _⟩ := AllocateBuffer_some h
  have hp : p ∈ b.pFree := hfree ▸ List.mem_cons_self
  unfold GetMemoryBlock at hblock
  rcases Option.or_eq_some_iff.mp hblock with hfound | ⟨_, hmade⟩
  · obtain ⟨rfl, hreach, _⟩ := registered_split hfound
    have hb : b ∈ pre ++ b :: post := List.mem_append_right _ List.mem_cons_self
    obtain ⟨hlo, hhi⟩ := bounds_of_reachable hreach
    refine ⟨⟨b.pBlock, hg.page b hb, hlo, hhi, ?_⟩, fun hno => ?_⟩
    · exact (hg.shared b hb).subset (List.mem_append_left _ hp)
    · rw [registered_none.mpr hno] at hfound
      cases hfound
  · obtain ⟨pBlock, hnew, heq⟩ := Option.map_eq_some_iff.mp hmade
    cases heq
    have hfirst := newBlock_first hsys ho
    rw [hnew] at hfirst
    obtain ⟨⟨haligned, hlo, hhi, _⟩, _⟩ := hfirst
    have hpage := isPage_of_aligned hsys haligned
    refine ⟨⟨pBlock, hpage, hlo, hhi, hp⟩, fun _ => ?_⟩
    rw [hnew, blockOf_of_mem hpage hp]

/-- In every state that the calls lead to: the slot for a function of x64 code is in the reach of a
jump of 32 bits. It is of a registered block as long as one in reach has a free slot. After that it
is in a new block, at the nearest place below the function that the system gives, or else the
nearest above it, and there is none just if the system gives no place in reach. -/
theorem a_slot_is_found_near_its_function (hsys : sys.Consistent) (ho : sys.Holds o)
    {s : SlotState .x64} (h : Relation.ReflTransGen SlotStep {} s) {r : Option (HANDLE .x64)}
    (hcall : AllocateBuffer sys o s.g_pMemoryBlocks = (r, g')) :
    (∀ p, r = some p → o.toNat ≤ p.toNat + MAX_MEMORY_RANGE ∧
      p.toNat + MEMORY_SLOT_SIZE .x64 ≤ o.toNat + MAX_MEMORY_RANGE + 1) ∧
    (r = none ↔ NoneLeft sys o s.g_pMemoryBlocks ∧ ∀ c, sys.InReach o c → ¬ sys.Gives c) ∧
    (NoneLeft sys o s.g_pMemoryBlocks →
      FirstOf (sys.InReach o) sys.Gives (sooner o) (r.map blockOf)) := by
  have hs := (buffers_run h).toListed
  have hnone : r = none ↔ NoneLeft sys o s.g_pMemoryBlocks ∧
      ∀ c, sys.InReach o c → ¬ sys.Gives c := by
    rw [← GetMemoryBlock_none hsys ho, ← AllocateBuffer_none_iff, hcall]
  refine ⟨fun p hr => ?_, hnone, fun hno => ?_⟩
  · subst hr
    obtain ⟨⟨pBlock, hpage, hlo, hhi, hp⟩, _⟩ := AllocateBuffer_block hsys ho hs hcall
    exact near_of_mem hsys ho hpage hlo hhi hp
  · cases r with
    | none => exact (hnone.mp rfl).2
    | some p =>
      have hnew := (AllocateBuffer_block hsys ho hs hcall).2 hno
      have hfirst := newBlock_first hsys ho
      rw [hnew] at hfirst
      exact hfirst

end

/-! ## A process -/

abbrev InImage (a : HANDLE .x64) : Prop := 0x140000000 ≤ a ∧ a < 0x140020000

/-- The image of a program, with all other memory free. -/
def emptyProcess : System .x64 where
  lpMinimumApplicationAddress := 0x10000
  lpMaximumApplicationAddress := 0x7FFFFFFEFFFF
  dwAllocationGranularity := 0x10000
  VirtualQuery a :=
    if InImage a then some ⟨0x140000000, 0x140000000, 0x20000, false⟩
    else if a ≤ 0x7FFFFFFEFFFF then some ⟨a - a % 0x1000, 0, 0x1000, true⟩
    else none
  VirtualAlloc a :=
    if a ≠ 0 ∧ a ≤ 0x7FFFFFFEFFFF ∧ ¬ InImage a then some (a - a % 0x10000) else none

theorem not_freeAt_image {a : HANDLE .x64} (h : InImage a) : ¬ emptyProcess.FreeAt a := by
  rintro ⟨mbi, hquery, hfree⟩
  have himage : emptyProcess.VirtualQuery a =
      some ⟨0x140000000, 0x140000000, 0x20000, false⟩ := if_pos h
  rw [himage] at hquery
  cases hquery
  cases hfree

theorem image_of_query {a : HANDLE .x64} {mbi : MEMORY_BASIC_INFORMATION .x64}
    (h : emptyProcess.VirtualQuery a = some mbi) (hfree : mbi.free = false) :
    InImage a ∧ mbi = ⟨0x140000000, 0x140000000, 0x20000, false⟩ := by
  simp only [emptyProcess] at h
  split_ifs at h with himage happ
  · cases h
    exact ⟨himage, rfl⟩
  · cases h
    cases hfree

theorem emptyProcess_consistent : emptyProcess.Consistent where
  granularity := by decide
  pages := by decide
  minimum := by decide
  maximum := by decide
  answers a _ ha := by
    by_cases himage : InImage a
    · exact ⟨_, if_pos himage⟩
    · exact ⟨_, (if_neg himage).trans (if_pos ha)⟩
  allocation a mbi hquery hfree := by
    obtain ⟨himage, rfl⟩ := image_of_query hquery hfree
    refine ⟨?_, himage.1, fun c hc hca => not_freeAt_image ⟨hc, ?_⟩⟩
    · unfold System.Aligned
      decide
    · exact BitVec.lt_def.mpr
        (Nat.lt_of_le_of_lt (BitVec.le_def.mp hca) (BitVec.lt_def.mp himage.2))
  region a mbi hquery hfree := by
    obtain ⟨himage, rfl⟩ := image_of_query hquery hfree
    refine ⟨BitVec.lt_def.mp himage.2, by decide, fun c hac hc => not_freeAt_image ⟨?_, hc⟩⟩
    exact BitVec.le_trans himage.1 hac
  place a p hgot _ := by
    simp only [emptyProcess] at hgot
    split_ifs at hgot
    exact (Option.some.inj hgot).symm

/-- The slot of the first function that is hooked. -/
def firstSlot : Option (HANDLE .x64) × List (MEMORY_BLOCK .x64) :=
  AllocateBuffer emptyProcess 0x140001000 []

theorem a_first_slot_is_below_its_function :
    (∀ p, firstSlot.1 = some p → 0x140001000 ≤ p.toNat + 0x40000000 ∧
      p.toNat + 64 ≤ 0x140001000 + 0x40000000 + 1) ∧
    firstSlot.1 = some 0x13FFF0FC0 := by
  have ho : emptyProcess.Holds 0x140001000 := ⟨by decide, by decide⟩
  have hcall : AllocateBuffer emptyProcess 0x140001000 ({} : SlotState .x64).g_pMemoryBlocks =
      (firstSlot.1, firstSlot.2) := rfl
  have hall := a_slot_is_found_near_its_function emptyProcess_consistent ho .refl hcall
  exact ⟨hall.1, by decide +kernel⟩

end RemotePrinter
