-- The pointers in a reply: what the offsets on the wire make of a pointer of the
-- server, and what the stores of the client leave in its buffer.
import RemotePrinter.PrinterQueries

open Interactive ByteMemory

namespace RemotePrinter

/-! ## One pointer -/

section
variable {w : PtrWidth}

theorem bytes_bits (w : PtrWidth) : 256 ^ w.bytes = 2 ^ w.bits := by
  cases w <;> rfl

@[simp] theorem length_pointerBytes (p : HANDLE w) : (pointerBytes p).length = w.bytes :=
  length_leBytes _ _

/-- A pointer is read as it was written. -/
theorem pointerAt_of_read {m : Mem} {offset : Nat} {p : HANDLE w}
    (h : m.read offset w.bytes = pointerBytes p) : pointerAt w m offset = p := by
  unfold pointerAt
  rw [h]
  unfold pointerBytes
  rw [leNat_leBytes, bytes_bits, Nat.mod_eq_of_lt p.isLt, BitVec.ofNat_toNat, BitVec.setWidth_eq]

theorem pointerAt_congr {m m' : Mem} {offset : Nat}
    (h : m.read offset w.bytes = m'.read offset w.bytes) :
    pointerAt w m offset = pointerAt w m' offset := by
  unfold pointerAt
  rw [h]

/-- A pointer into one buffer, as a pointer to the same place of another. NULL stays NULL. -/
def relocate (source target p : HANDLE w) : HANDLE w :=
  if p = 0 then 0 else target + (p - source)

/-- A pointer to one of the first 2^31 bytes of a buffer goes over the wire and is relocated. -/
theorem RP_SET_OFFSET_RP_GET_OFFSET {source target p : HANDLE w} (hsource : source ≠ 0)
    (hp : p ≠ 0 → (p - source).toNat < 2 ^ 31) :
    RP_SET_OFFSET target (RP_GET_OFFSET source p) = relocate source target p := by
  unfold RP_SET_OFFSET RP_GET_OFFSET relocate
  by_cases h0 : p = 0
  · rw [if_pos (Or.inr h0), if_pos rfl, if_pos h0]
  · have hlt := hp h0
    have hbits : 32 ≤ w.bits := by cases w <;> decide
    have h32 : ((p - source).setWidth 32).toNat = (p - source).toNat := by
      rw [BitVec.toNat_setWidth, Nat.mod_eq_of_lt (Nat.lt_trans hlt (by decide))]
    have hne : (p - source).setWidth 32 ≠ -1 := by
      intro h
      have hmax : (-1 : I32).toNat = 2 ^ 32 - 1 := by decide
      have hval := congrArg BitVec.toNat h
      rw [h32] at hval
      omega
    have hwide : ((p - source).setWidth 32).setWidth w.bits = p - source := by
      apply BitVec.eq_of_toNat_eq
      rw [BitVec.toNat_setWidth, h32, Nat.mod_eq_of_lt (p - source).isLt]
    rw [if_neg (not_or.mpr ⟨hsource, h0⟩), if_neg hne, hwide, if_neg h0]

/-- A relocated pointer is NULL just if the pointer was. -/
theorem relocate_eq_zero {source p : HANDLE w} {b : Buffer w}
    (hp : p ≠ 0 → (p - source).toNat < b.lent) : relocate source b.address p = 0 ↔ p = 0 := by
  unfold relocate
  by_cases h0 : p = 0
  · simp [h0]
  · rw [if_neg h0]
    refine iff_of_false (fun h => ?_) h0
    have hlt := hp h0
    have hfits := b.fits
    have hval := congrArg BitVec.toNat h
    rw [BitVec.toNat_add, Nat.mod_eq_of_lt (by omega)] at hval
    have hzero : (0 : HANDLE w).toNat = 0 := BitVec.toNat_zero
    have hnull : b.address = 0 := BitVec.eq_of_toNat_eq (by omega)
    exact b.nonnull hnull

theorem relocate_sub {source target p : HANDLE w} (hp : p ≠ 0) :
    relocate source target p - target = p - source := by
  unfold relocate
  rw [if_neg hp, BitVec.add_comm, BitVec.add_sub_cancel]

/-! ## The stores into a structure -/

section
variable {info : List (InfoField × FieldType)} {fields : List InfoField}
  {value : InfoField → HANDLE w} {m : Mem}

/-- The stores of a value into each of some fields of a structure. -/
def fieldStores (info : List (InfoField × FieldType)) (fields : List InfoField)
    (value : InfoField → HANDLE w) : List (Nat × Bytes) :=
  storeBytes (fields.map fun f => (offsetOf w info f, value f))

theorem mem_fieldStores {s : Nat × Bytes} :
    s ∈ fieldStores info fields value ↔
      ∃ f ∈ fields, s = (offsetOf w info f, pointerBytes (value f)) := by
  simp [fieldStores, storeBytes, eq_comm]

theorem fieldStores_congr {value' : InfoField → HANDLE w}
    (h : ∀ f ∈ fields, value f = value' f) :
    fieldStores info fields value = fieldStores info fields value' := by
  unfold fieldStores
  rw [List.map_congr_left fun f hf => by rw [h f hf]]

/-- No store touches another. -/
theorem fieldStores_apart (hnodup : (info.map Prod.fst).Nodup) (hfields : fields.Nodup)
    (hptr : ∀ f ∈ fields, (f, .LPVOID) ∈ info) :
    (fieldStores info fields value).Pairwise Mem.Apart := by
  unfold fieldStores storeBytes
  rw [List.map_map, List.pairwise_map]
  refine List.Pairwise.imp_of_mem ?_ hfields
  intro f g hf hg hne
  have hapart := fields_apart (w := w) hnodup (hptr f hf) (hptr g hg) hne
  simpa [Mem.Apart, FieldType.size] using hapart

/-- A field has the value stored into it. -/
theorem pointerAt_fieldStores (hnodup : (info.map Prod.fst).Nodup) (hfields : fields.Nodup)
    (hptr : ∀ f ∈ fields, (f, .LPVOID) ∈ info) {f : InfoField} (hf : f ∈ fields) :
    pointerAt w (m.writeAll (fieldStores info fields value)) (offsetOf w info f) = value f := by
  apply pointerAt_of_read
  have hmem : (offsetOf w info f, pointerBytes (value f)) ∈ fieldStores info fields value :=
    mem_fieldStores.mpr ⟨f, hf, rfl⟩
  simpa using Mem.read_writeAll_of_mem (m := m) (fieldStores_apart hnodup hfields hptr) hmem

/-- Nothing changes outside the fields. -/
theorem fieldStores_outside {offset n : Nat}
    (h : ∀ f ∈ fields, offset + n ≤ offsetOf w info f ∨ offsetOf w info f + w.bytes ≤ offset) :
    (m.writeAll (fieldStores info fields value)).read offset n = m.read offset n := by
  apply Mem.read_writeAll_outside
  intro s hs
  obtain ⟨f, hf, rfl⟩ := mem_fieldStores.mp hs
  simpa using h f hf

end

end

end RemotePrinter
