-- What can stand on the wire: the values of the protocol, nested to any depth.
-- Each reading function takes just the bytes that its writing function wrote,
-- and `skip` takes just the bytes of one value of its type.
import RemotePrinter.Decoding
import RemotePrinter.Sending
import Mathlib.Tactic.NormNum
import Mathlib.Tactic.Ring

open Interactive

namespace RemotePrinter

open TBinaryProtocol

/-! ## Numbers -/

theorem foldl_bigEndian (n : Nat) (b : Bytes) :
    b.foldl (fun n x => 256 * n + x.toNat) n = n * 256 ^ b.length + ofBigEndian b := by
  unfold ofBigEndian
  induction b generalizing n with
  | nil => simp
  | cons x b ih =>
    rw [List.foldl_cons, List.foldl_cons, ih, ih (256 * 0 + x.toNat), List.length_cons, pow_succ]
    ring

/-- The bytes of a number give the number back, as far as they can hold it. -/
theorem ofBigEndian_bigEndian (k n : Nat) : ofBigEndian (bigEndian k n) = n % 256 ^ k := by
  induction k with
  | zero => simp [bigEndian, ofBigEndian, Nat.mod_one]
  | succ k ih =>
    have hcons : ofBigEndian (bigEndian (k + 1) n) =
        (bigEndian k n).foldl (fun n x => 256 * n + x.toNat) (n / 256 ^ k % 256) := by
      simp [ofBigEndian, bigEndian]
    rw [hcons, foldl_bigEndian, ih, bigEndian_length, Nat.mod_pow_succ]
    ring

@[simp] theorem encoded_write (b : Bytes) : encoded [.write b] = b := by simp [encoded, Piece.bytes]

/-- A number of `k` bytes, read as a machine word of as many. -/
theorem decodes_word {k w : Nat} (hw : 2 ^ w = 256 ^ k) (n : BitVec w) :
    (readAll k >>= fun b => Prog.done (BitVec.ofNat w (ofBigEndian b)) : Decoder (BitVec w)).Decodes
      (encoded [.write (bigEndian k n.toNat)]) n := by
  have hread := Prog.Decodes.perform (X := ReadFault) (bigEndian k n.toNat)
  have hmap := hread.map (g := fun b => BitVec.ofNat w (ofBigEndian b))
  have hn : ofBigEndian (bigEndian k n.toNat) = n.toNat := by
    rw [ofBigEndian_bigEndian, ← hw, Nat.mod_eq_of_lt n.isLt]
  rw [bigEndian_length, hn, BitVec.ofNat_toNat, BitVec.setWidth_eq] at hmap
  rw [encoded_write]
  exact hmap

theorem decodes_readI16 (n : BitVec 16) : readI16.Decodes (encoded (writeI16 n)) n :=
  decodes_word (by norm_num) n

theorem decodes_readI32 (n : I32) : readI32.Decodes (encoded (writeI32 n)) n :=
  decodes_word (by norm_num) n

theorem decodes_readI64 (n : I64) : readI64.Decodes (encoded (writeI64 n)) n :=
  decodes_word (by norm_num) n

theorem decodes_readByte (b : UInt8) : readByte.Decodes (encoded (writeByte b)) b := by
  have hread := Prog.Decodes.perform (X := ReadFault) [b]
  have hmap := hread.map (g := fun b => UInt8.ofNat (ofBigEndian b))
  have hb : UInt8.ofNat (ofBigEndian [b]) = b := by simp [ofBigEndian]
  rw [hb] at hmap
  unfold writeByte
  rw [encoded_write]
  exact hmap

theorem decodes_readBool (value : Bool) : readBool.Decodes (encoded (writeBool value)) value := by
  have hread := (decodes_readByte (if value then 1 else 0)).map (g := fun b => b != 0)
  cases value <;> exact hread

/-! ## Strings and headers -/

theorem toInt_size {n : Nat} (hn : n ≤ INT32_MAX) : (BitVec.ofNat 32 n).toInt = n := by
  have hn' : n ≤ 2147483647 := hn
  have hnat : (BitVec.ofNat 32 n).toNat = n := by
    rw [BitVec.toNat_ofNat]
    omega
  rw [BitVec.toInt_eq_toNat_of_lt (by omega), hnat]

theorem toNat_size {n : Nat} (hn : n ≤ INT32_MAX) : (BitVec.ofNat 32 n).toNat = n := by
  have hn' : n ≤ 2147483647 := hn
  rw [BitVec.toNat_ofNat]
  omega

theorem decodes_readString {str : Bytes} (hlen : str.length ≤ INT32_MAX) :
    readString.Decodes (encoded (writeString str)) str := by
  have hnot : ¬ INT32_MAX < str.length := by omega
  unfold writeString
  rw [if_neg hnot, encoded_append]
  refine (decodes_readI32 _).bind ?_
  unfold readStringBody
  have hneg : ¬ (BitVec.ofNat 32 str.length).toInt < 0 := by
    rw [toInt_size hlen]
    omega
  rw [if_neg hneg]
  by_cases hpos : str.length > 0
  · have hne : BitVec.ofNat 32 str.length ≠ 0 := by
      intro h
      have hzero := congrArg BitVec.toNat h
      rw [toNat_size hlen] at hzero
      simp at hzero
      simp [hzero] at hpos
    rw [if_neg hne, if_pos hpos, encoded_write, toNat_size hlen]
    exact Prog.Decodes.perform str
  · obtain rfl : str = [] := List.length_eq_zero_iff.mp (by omega)
    exact Prog.Decodes.done []

theorem decodes_readSize {n : Nat} (hn : n ≤ INT32_MAX) :
    readSize.Decodes (encoded (writeI32 (BitVec.ofNat 32 n))) n := by
  have hneg : ¬ (BitVec.ofNat 32 n).toInt < 0 := by
    rw [toInt_size hn]
    omega
  have hsize : (if (BitVec.ofNat 32 n).toInt < 0 then
      Decoder.throw (.TProtocolException .NEGATIVE_SIZE) else
      return (BitVec.ofNat 32 n).toNat).Decodes [] n := by
    rw [if_neg hneg, toNat_size hn]
    exact Prog.Decodes.done n
  have hread := (decodes_readI32 (BitVec.ofNat 32 n)).bind
    (f := fun sizei => if sizei.toInt < 0 then
      Decoder.throw (.TProtocolException .NEGATIVE_SIZE) else return sizei.toNat) hsize
  rw [List.append_nil] at hread
  exact hread

namespace TBinaryProtocol

def writeMapBegin (keyType valType : TType) (size : Nat) : List Piece :=
  writeByte keyType ++ writeByte valType ++ writeI32 (BitVec.ofNat 32 size)

/-- `writeSetBegin` is the same. -/
def writeListBegin (elemType : TType) (size : Nat) : List Piece :=
  writeByte elemType ++ writeI32 (BitVec.ofNat 32 size)

end TBinaryProtocol

theorem decodes_readMapBegin (keyType valType : TType) {size : Nat} (hsize : size ≤ INT32_MAX) :
    readMapBegin.Decodes (encoded (writeMapBegin keyType valType size))
      (keyType, valType, size) := by
  unfold writeMapBegin
  rw [List.append_assoc, encoded_append, encoded_append]
  exact (decodes_readByte keyType).bind ((decodes_readByte valType).bind
    (decodes_readSize hsize).map)

theorem decodes_readListBegin (elemType : TType) {size : Nat} (hsize : size ≤ INT32_MAX) :
    readListBegin.Decodes (encoded (writeListBegin elemType size)) (elemType, size) := by
  unfold writeListBegin
  rw [encoded_append]
  exact (decodes_readByte elemType).bind (decodes_readSize hsize).map

/-! ## Structs -/

/-- A field on the wire: what `writeFieldBegin` writes, and the pieces of the value. -/
structure WireField where
  type : TType
  id : BitVec 16
  value : List Piece

def writeStruct : List WireField → List Piece
  | [] => writeFieldStop
  | f :: fs => writeFieldBegin f.type f.id ++ f.value ++ writeStruct fs

/-- The loop over the fields takes each value to the next one. -/
inductive Through {α : Type} (field : α → TType → BitVec 16 → Decoder α) :
    α → List WireField → α → Prop
  | nil (a : α) : Through field a [] a
  | cons {a a' a'' : α} {f : WireField} {fs : List WireField} (htype : f.type ≠ T_STOP)
      (hfield : (field a f.type f.id).Decodes (encoded f.value) a')
      (hrest : Through field a' fs a'') : Through field a (f :: fs) a''

theorem decodes_readFieldBegin {type : TType} (htype : type ≠ T_STOP) (id : BitVec 16) :
    readFieldBegin.Decodes (encoded (writeFieldBegin type id)) (type, id) := by
  unfold writeFieldBegin
  rw [encoded_append]
  refine (decodes_readByte type).bind ?_
  rw [if_neg htype]
  exact (decodes_readI16 id).map

theorem writeFieldBegin_length (type : TType) (id : BitVec 16) :
    (encoded (writeFieldBegin type id)).length = 3 := by
  unfold writeFieldBegin writeByte writeI16
  rw [encoded_append, encoded_write, encoded_write, List.length_append, bigEndian_length]
  rfl

theorem decodes_stop : readFieldBegin.Decodes (encoded writeFieldStop) (T_STOP, 0) := by
  intro rest
  unfold readFieldBegin writeFieldStop
  rw [Prog.reads_bind, decodes_readByte]
  rfl

/-- The reading of a struct takes its fields in order, and the stop. -/
theorem decodes_fields {α : Type} {field : α → TType → BitVec 16 → Decoder α} {a a' : α}
    {fs : List WireField} (h : Through field a fs a') {fuel : Nat} (hfuel : fs.length < fuel) :
    (fields field fuel a).Decodes (encoded (writeStruct fs)) a' := by
  induction h generalizing fuel with
  | nil a =>
    obtain ⟨fuel, rfl⟩ : ∃ n, fuel = n + 1 := ⟨fuel - 1, by omega⟩
    exact decodes_stop.map (g := fun _ => a)
  | @cons a a₁ a₂ f fs htype hfield _ ih =>
    obtain ⟨fuel, rfl⟩ : ∃ n, fuel = n + 1 := ⟨fuel - 1, by omega⟩
    rw [List.length_cons] at hfuel
    unfold writeStruct
    rw [List.append_assoc, encoded_append, encoded_append]
    refine (decodes_readFieldBegin htype f.id).bind ?_
    simp only
    rw [if_neg htype]
    exact hfield.bind (ih (by omega))

/-! ## Nested values -/

/-- A value with its type, as the protocol writes it. A `double` is given by its bits. -/
inductive TValue where
  | bool (value : Bool)
  | byte (byte : UInt8)
  | i16 (i16 : BitVec 16)
  | i32 (i32 : I32)
  | i64 (i64 : I64)
  | double (bits : BitVec 64)
  | string (str : Bytes)
  | struct (fields : List (BitVec 16 × TValue))
  | map (keyType valType : TType) (entries : List (TValue × TValue))
  | set (elemType : TType) (elems : List TValue)
  | list (elemType : TType) (elems : List TValue)

namespace TValue

def type : TValue → TType
  | bool _ => T_BOOL
  | byte _ => T_BYTE
  | i16 _ => T_I16
  | i32 _ => T_I32
  | i64 _ => T_I64
  | double _ => T_DOUBLE
  | string _ => T_STRING
  | struct _ => T_STRUCT
  | map .. => T_MAP
  | set .. => T_SET
  | list .. => T_LIST

mutual

def write : TValue → List Piece
  | bool value => writeBool value
  | byte b => writeByte b
  | i16 n => writeI16 n
  | i32 n => writeI32 n
  | i64 n => writeI64 n
  | double bits => writeI64 bits
  | string str => writeString str
  | struct fs => writeFields fs
  | map keyType valType es => writeMapBegin keyType valType es.length ++ writeEntries es
  | set elemType vs => writeListBegin elemType vs.length ++ writeElems vs
  | list elemType vs => writeListBegin elemType vs.length ++ writeElems vs

def writeFields : List (BitVec 16 × TValue) → List Piece
  | [] => writeFieldStop
  | (id, v) :: fs => writeFieldBegin v.type id ++ v.write ++ writeFields fs

def writeEntries : List (TValue × TValue) → List Piece
  | [] => []
  | (key, val) :: es => key.write ++ val.write ++ writeEntries es

def writeElems : List TValue → List Piece
  | [] => []
  | v :: vs => v.write ++ writeElems vs

end

mutual

/-- The sizes fit into an `int32_t`, and the elements of a container have the types that its header
names. -/
def Fits : TValue → Prop
  | string str => str.length ≤ INT32_MAX
  | struct fs => FieldsFit fs
  | map keyType valType es => es.length ≤ INT32_MAX ∧ EntriesFit keyType valType es
  | set elemType vs => vs.length ≤ INT32_MAX ∧ ElemsFit elemType vs
  | list elemType vs => vs.length ≤ INT32_MAX ∧ ElemsFit elemType vs
  | _ => True

def FieldsFit : List (BitVec 16 × TValue) → Prop
  | [] => True
  | (_, v) :: fs => v.Fits ∧ FieldsFit fs

def EntriesFit (keyType valType : TType) : List (TValue × TValue) → Prop
  | [] => True
  | (key, val) :: es =>
    (key.type = keyType ∧ key.Fits) ∧ (val.type = valType ∧ val.Fits) ∧
      EntriesFit keyType valType es

def ElemsFit (elemType : TType) : List TValue → Prop
  | [] => True
  | v :: vs => (v.type = elemType ∧ v.Fits) ∧ ElemsFit elemType vs

end

theorem type_ne_stop (v : TValue) : v.type ≠ T_STOP := by
  cases v <;> simp [type, T_STOP, T_BOOL, T_BYTE, T_I16, T_I32, T_I64, T_DOUBLE, T_STRING, T_STRUCT,
    T_MAP, T_SET, T_LIST]

/-- A field of a struct of values. -/
def field (f : BitVec 16 × TValue) : WireField := ⟨f.2.type, f.1, f.2.write⟩

theorem writeFields_eq (fs : List (BitVec 16 × TValue)) :
    writeFields fs = writeStruct (fs.map field) := by
  induction fs with
  | nil => rfl
  | cons f fs ih =>
    obtain ⟨id, v⟩ := f
    rw [writeFields, ih]
    rfl

end TValue

/-! ## Skipping -/

/-- With these steps a value with fewer bytes is skipped. -/
def Skips (fuel : Nat) : Prop :=
  ∀ v : TValue, v.Fits → (encoded v.write).length < fuel →
    (skip fuel v.type).Decodes (encoded v.write) ()

section
variable {fuel : Nat}

theorem Skips.elems (h : Skips fuel) {elemType : TType} {vs : List TValue}
    (hfit : TValue.ElemsFit elemType vs)
    (hlen : (encoded (TValue.writeElems vs)).length < fuel) :
    (times vs.length (skip fuel elemType)).Decodes (encoded (TValue.writeElems vs)) () := by
  induction vs with
  | nil => exact Prog.Decodes.done ()
  | cons v vs ih =>
    obtain ⟨⟨rfl, hv⟩, hvs⟩ := hfit
    rw [TValue.writeElems, encoded_append] at hlen ⊢
    rw [List.length_append] at hlen
    exact (h v hv (by omega)).bind (ih hvs (by omega))

theorem Skips.entries (h : Skips fuel) {keyType valType : TType} {es : List (TValue × TValue)}
    (hfit : TValue.EntriesFit keyType valType es)
    (hlen : (encoded (TValue.writeEntries es)).length < fuel) :
    (times es.length (do skip fuel keyType; skip fuel valType)).Decodes
      (encoded (TValue.writeEntries es)) () := by
  induction es with
  | nil => exact Prog.Decodes.done ()
  | cons e es ih =>
    obtain ⟨key, val⟩ := e
    obtain ⟨⟨rfl, hkey⟩, ⟨rfl, hval⟩, hes⟩ := hfit
    rw [TValue.writeEntries, encoded_append, encoded_append] at hlen ⊢
    rw [List.length_append, List.length_append] at hlen
    exact ((h key hkey (by omega)).bind (h val hval (by omega))).bind (ih hes (by omega))

/-- The fields of a struct are skipped one by one. -/
theorem Skips.through (h : Skips fuel) {fs : List (BitVec 16 × TValue)}
    (hfit : TValue.FieldsFit fs) (hlen : (encoded (TValue.writeFields fs)).length ≤ fuel) :
    Through (fun _ type' _ => skip fuel type') () (fs.map TValue.field) () := by
  induction fs with
  | nil => exact .nil ()
  | cons f fs ih =>
    obtain ⟨id, v⟩ := f
    obtain ⟨hv, hfs⟩ := hfit
    rw [TValue.writeFields, encoded_append, encoded_append, List.length_append,
      List.length_append] at hlen
    have hbegin := writeFieldBegin_length v.type id
    exact .cons v.type_ne_stop (h v hv (by omega)) (ih hfs (by omega))

end

theorem fields_length_lt (fs : List (BitVec 16 × TValue)) :
    fs.length < (encoded (TValue.writeFields fs)).length := by
  induction fs with
  | nil => simp [TValue.writeFields, writeFieldStop, writeByte]
  | cons f fs ih =>
    obtain ⟨id, v⟩ := f
    have hbegin := writeFieldBegin_length v.type id
    rw [TValue.writeFields, encoded_append, encoded_append, List.length_append,
      List.length_append, List.length_cons]
    omega

/-- The bytes of a number are skipped without a look at them. -/
theorem decodes_bytes {k : Nat} (n : Nat) :
    (do let _ ← readAll k : Decoder Unit).Decodes (encoded [.write (bigEndian k n)]) () := by
  have hread := Prog.Decodes.perform (X := ReadFault) (bigEndian k n)
  rw [bigEndian_length] at hread
  rw [encoded_write]
  exact hread.map

/-- A value is skipped as a whole, however deep it is nested. -/
theorem decodes_skip (fuel : Nat) : Skips fuel := by
  induction fuel with
  | zero =>
    intro v _ hlen
    omega
  | succ fuel ih =>
    intro v hfit hlen
    cases v with
    | bool value => cases value <;> exact (Prog.Decodes.perform [_]).map
    | byte b => exact (Prog.Decodes.perform [b]).map
    | i16 n => exact decodes_bytes n.toNat
    | i32 n => exact decodes_bytes n.toNat
    | i64 n => exact decodes_bytes n.toNat
    | double bits => exact decodes_bytes bits.toNat
    | string str => exact (decodes_readString hfit).map
    | struct fs =>
      have hlt := fields_length_lt fs
      rw [TValue.write] at hlen ⊢
      have hthrough := ih.through hfit (by omega)
      rw [TValue.writeFields_eq] at hlen hlt ⊢
      exact decodes_fields hthrough (by rw [List.length_map]; omega)
    | map keyType valType es =>
      rw [TValue.write, encoded_append] at hlen ⊢
      rw [List.length_append] at hlen
      have hbegin : 0 < (encoded (writeMapBegin keyType valType es.length)).length := by
        simp [writeMapBegin, writeByte, encoded, Piece.bytes]
      exact (decodes_readMapBegin keyType valType hfit.1).bind (ih.entries hfit.2 (by omega))
    | set elemType vs =>
      rw [TValue.write, encoded_append] at hlen ⊢
      rw [List.length_append] at hlen
      have hbegin : 0 < (encoded (writeListBegin elemType vs.length)).length := by
        simp [writeListBegin, writeByte, encoded, Piece.bytes]
      exact (decodes_readListBegin elemType hfit.1).bind (ih.elems hfit.2 (by omega))
    | list elemType vs =>
      rw [TValue.write, encoded_append] at hlen ⊢
      rw [List.length_append] at hlen
      have hbegin : 0 < (encoded (writeListBegin elemType vs.length)).length := by
        simp [writeListBegin, writeByte, encoded, Piece.bytes]
      exact (decodes_readListBegin elemType hfit.1).bind (ih.elems hfit.2 (by omega))

/-! ## More steps -/

/-- With more steps a reading that was finished is the same. -/
abbrev Continues {α : Type} (d d' : Decoder α) : Prop := Prog.Extends ReadFault.unfinished d d'

section
variable {fuel fuel' : Nat}

theorem continues_times {d d' : Decoder Unit} (h : Continues d d') (n : Nat) :
    Continues (times n d) (times n d') := by
  induction n with
  | zero => exact .refl _ _
  | succ n ih => exact h.bind fun _ => ih

theorem continues_fields {α : Type} {field field' : α → TType → BitVec 16 → Decoder α}
    (hfield : ∀ a type id, Continues (field a type id) (field' a type id)) (hle : fuel ≤ fuel')
    (a : α) : Continues (fields field fuel a) (fields field' fuel' a) := by
  induction fuel generalizing fuel' a with
  | zero => exact Prog.extends_fail _ _
  | succ fuel ih =>
    obtain ⟨fuel', rfl⟩ : ∃ k, fuel' = k + 1 := ⟨fuel' - 1, by omega⟩
    refine (Prog.Extends.refl _ readFieldBegin).bind ?_
    rintro ⟨type, id⟩
    simp only
    split
    · exact .refl _ _
    · exact (hfield a type id).bind fun a' => ih (by omega) a'

theorem continues_skip (hle : fuel ≤ fuel') (type : TType) :
    Continues (skip fuel type) (skip fuel' type) := by
  induction fuel generalizing fuel' type with
  | zero => exact Prog.extends_fail _ _
  | succ fuel ih =>
    obtain ⟨fuel', rfl⟩ : ∃ k, fuel' = k + 1 := ⟨fuel' - 1, by omega⟩
    have hle' : fuel ≤ fuel' := by omega
    unfold skip
    split_ifs
    · exact .refl _ _
    · exact .refl _ _
    · exact .refl _ _
    · exact .refl _ _
    · exact .refl _ _
    · exact continues_fields (fun _ type' _ => ih hle' type') (by omega) ()
    · refine (Prog.Extends.refl _ readMapBegin).bind ?_
      rintro ⟨keyType, valType, size⟩
      exact continues_times ((ih hle' keyType).bind fun _ => ih hle' valType) size
    · refine (Prog.Extends.refl _ readListBegin).bind ?_
      rintro ⟨elemType, size⟩
      exact continues_times (ih hle' elemType) size
    · exact .refl _ _

theorem continues_when {α : Type} {c : Prop} [Decidable c] {d d' : Decoder Unit}
    {k k' : Decoder α} (hd : Continues d d') (hk : Continues k k') :
    Continues (if c then d >>= fun _ => k else k) (if c then d' >>= fun _ => k' else k') := by
  split
  · exact hd.bind fun _ => hk
  · exact hk

end

end RemotePrinter
