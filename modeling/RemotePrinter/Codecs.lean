-- The types of the service, as the generated code writes them and reads them
-- into a variable. A codec says what bytes a reading accepts, which is more
-- than what is written: fields in any order, and fields of a newer service.
import RemotePrinter.Queries
import RemotePrinter.Receiving
import RemotePrinter.WireValues
import Mathlib.Data.List.Nodup

open Interactive

namespace RemotePrinter

open TBinaryProtocol

/-! ## Scalars -/

/-- A type that is not made of others: which of its values can be written, that these are read
back, and that a reading comes to an end. -/
structure Scalar (α : Type) where
  type : TType
  init : α
  write : α → List Piece
  read : Decoder α
  fits : α → Prop
  ne_stop : type ≠ T_STOP
  decodes : ∀ {v}, fits v → read.Decodes (encoded (write v)) v
  completes : ∀ n, Completes n read

namespace Scalar

def bool : Scalar Bool where
  type := T_BOOL
  init := false
  write := writeBool
  read := readBool
  fits _ := True
  ne_stop := by decide
  decodes {v} _ := decodes_readBool v
  completes _ := completes_readBool

def i32 : Scalar I32 where
  type := T_I32
  init := 0
  write := writeI32
  read := readI32
  fits _ := True
  ne_stop := by decide
  decodes {v} _ := decodes_readI32 v
  completes _ := completes_readI32

def i64 : Scalar I64 where
  type := T_I64
  init := 0
  write := writeI64
  read := readI64
  fits _ := True
  ne_stop := by decide
  decodes {v} _ := decodes_readI64 v
  completes _ := completes_readI64

/-- `binary` is the same. -/
def string : Scalar Bytes where
  type := T_STRING
  init := []
  write := writeString
  read := readString
  fits str := str.length ≤ INT32_MAX
  ne_stop := by decide
  decodes h := decodes_readString h
  completes _ := completes_readString

end Scalar

/-! ## Maps -/

namespace StdMap
variable {T : Type}

/-- The entries in the order of `std::map`: by the bytes of their keys. -/
def inOrder (m : StdMap T) : List (Bytes × T) := m.mergeSort fun e e' => e.1 ≤ e'.1

/-- A `std::map` has one entry for a key. -/
def Keyed (m : StdMap T) : Prop := (m.map Prod.fst).Nodup

/-- No look-up tells the maps apart. -/
def Same (m m' : StdMap T) : Prop := ∀ name, m.lookup name = m'.lookup name

/-- The map after `MAP[NAME] = VALUE` for each of the entries. -/
def ofEntries (es : List (Bytes × T)) : StdMap T := es.foldl (fun m e => m.set e.1 e.2) []

theorem lookup_ofEntries (es : List (Bytes × T)) (name : Bytes) :
    (ofEntries es).lookup name = es.reverse.lookup name := by
  induction es using List.reverseRecOn with
  | nil => rfl
  | append_singleton es e ih =>
    obtain ⟨key, value⟩ := e
    have hset : ofEntries (es ++ [(key, value)]) = (ofEntries es).set key value := by
      simp [ofEntries]
    rw [hset, lookup_set, List.reverse_append, ih]
    by_cases hk : name = key
    · simp [hk]
    · simp [hk, List.lookup_cons, beq_eq_false_iff_ne.mpr hk]

theorem lookup_perm {l l' : List (Bytes × T)} (hperm : l.Perm l') (hkeyed : Keyed l)
    (name : Bytes) : l.lookup name = l'.lookup name := by
  induction hperm with
  | nil => rfl
  | cons e _ ih =>
    obtain ⟨key, value⟩ := e
    rw [List.lookup_cons, List.lookup_cons, ih (List.nodup_cons.mp hkeyed).2]
  | swap e e' l =>
    obtain ⟨key, value⟩ := e
    obtain ⟨key', value'⟩ := e'
    have hne : key ≠ key' := by
      intro heq
      subst heq
      simp [Keyed] at hkeyed
    rw [List.lookup_cons, List.lookup_cons, List.lookup_cons, List.lookup_cons]
    by_cases hk : name = key
    · simp [hk, beq_eq_false_iff_ne.mpr hne]
    · simp [beq_eq_false_iff_ne.mpr hk]
  | trans h _ ih ih' =>
    exact (ih hkeyed).trans (ih' ((h.map Prod.fst).nodup_iff.mp hkeyed))

theorem inOrder_perm (m : StdMap T) : m.inOrder.Perm m := List.mergeSort_perm m _

/-- What is read back from the entries of a map is the same map. -/
theorem same_ofEntries {m : StdMap T} (hkeyed : m.Keyed) : m.Same (ofEntries m.inOrder) := by
  intro name
  rw [lookup_ofEntries]
  exact lookup_perm (m.inOrder_perm.symm.trans (List.reverse_perm _).symm) hkeyed name

theorem keyed_set {m : StdMap T} (h : m.Keyed) (name : Bytes) (value : T) :
    (m.set name value).Keyed := by
  have hnot : name ∉ (m.filter fun e => e.1 != name).map Prod.fst := by simp
  refine List.nodup_cons.mpr ⟨hnot, ?_⟩
  exact h.sublist (List.filter_sublist.map Prod.fst)

end StdMap

/-! ## Codecs -/

/-- How a type is written, and read into a variable with a value. `wires ps old new` says that the
pieces `ps` are read into a variable with the value `old` and leave `new` in it. Two values are
the same if no program can tell them apart by looking at their members. -/
structure Codec (α : Type) where
  type : TType
  init : α
  write : α → List Piece
  read : Nat → α → Decoder α
  same : α → α → Prop
  fits : α → Prop
  wires : List Piece → α → α → Prop
  ne_stop : type ≠ T_STOP
  reads : ∀ {ps old new fuel}, wires ps old new → (encoded ps).length < fuel →
    (read fuel old).Decodes (encoded ps) new
  writes : ∀ {v}, fits v → ∀ old, ∃ v', same v v' ∧ wires (write v) old v'
  completes : ∀ fuel old, Completes fuel (read fuel old)
  continues : ∀ {fuel fuel'}, fuel ≤ fuel' → ∀ old, Continues (read fuel old) (read fuel' old)

namespace Codec

def scalar {α : Type} (s : Scalar α) : Codec α where
  type := s.type
  init := s.init
  write := s.write
  read _ _ := s.read
  same := (· = ·)
  fits := s.fits
  wires ps _ new := ps = s.write new ∧ s.fits new
  ne_stop := s.ne_stop
  reads := by
    rintro _ _ _ _ ⟨rfl, hfits⟩ _
    exact s.decodes hfits
  writes {v} hfits _ := ⟨v, rfl, rfl, hfits⟩
  completes fuel _ := s.completes fuel
  continues _ _ := .refl _ _

end Codec

section
variable {T : Type}

def writeEntry (val : Scalar T) (e : Bytes × T) : List Piece := writeString e.1 ++ val.write e.2

/-- A map with string keys: the entries in any order, the last of a key counts. -/
def writeMap (val : Scalar T) (es : List (Bytes × T)) : List Piece :=
  writeMapBegin T_STRING val.type es.length ++ es.flatMap (writeEntry val)

def EntriesFit (val : Scalar T) (es : List (Bytes × T)) : Prop :=
  es.length ≤ INT32_MAX ∧ ∀ e ∈ es, e.1.length ≤ INT32_MAX ∧ val.fits e.2

theorem decodes_readMap {val : Scalar T} {es : List (Bytes × T)}
    (hfit : ∀ e ∈ es, e.1.length ≤ INT32_MAX ∧ val.fits e.2) (m : StdMap T) :
    (readMap val.read es.length m).Decodes (encoded (es.flatMap (writeEntry val)))
      (es.foldl (fun m e => m.set e.1 e.2) m) := by
  induction es generalizing m with
  | nil => exact Prog.Decodes.done m
  | cons e es ih =>
    obtain ⟨hkey, hval⟩ := hfit e List.mem_cons_self
    rw [List.flatMap_cons, encoded_append, writeEntry, encoded_append, List.append_assoc]
    refine (decodes_readString hkey).bind ((val.decodes hval).bind ?_)
    exact ih (fun e' he' => hfit e' (List.mem_cons_of_mem e he')) _

theorem decodes_readStdMap {val : Scalar T} {es : List (Bytes × T)} (hfit : EntriesFit val es) :
    (readStdMap val.read).Decodes (encoded (writeMap val es)) (StdMap.ofEntries es) := by
  unfold writeMap
  rw [encoded_append]
  exact (decodes_readMapBegin _ _ hfit.1).bind (decodes_readMap hfit.2 [])

theorem entriesFit_perm {val : Scalar T} {es es' : List (Bytes × T)} (h : es.Perm es')
    (hfit : EntriesFit val es) : EntriesFit val es' :=
  ⟨h.length_eq ▸ hfit.1, fun e he => hfit.2 e (h.symm.subset he)⟩

def Codec.map (val : Scalar T) : Codec (StdMap T) where
  type := T_MAP
  init := []
  write m := writeMap val m.inOrder
  read _ _ := readStdMap val.read
  same := StdMap.Same
  fits m := m.Keyed ∧ EntriesFit val m
  wires ps _ new := ∃ es, EntriesFit val es ∧ ps = writeMap val es ∧ new = StdMap.ofEntries es
  ne_stop := by decide
  reads := by
    rintro _ _ _ _ ⟨es, hfit, rfl, rfl⟩ _
    exact decodes_readStdMap hfit
  writes := by
    rintro m ⟨hkeyed, hfit⟩ _
    have hperm := m.inOrder_perm
    exact ⟨_, StdMap.same_ofEntries hkeyed, _, entriesFit_perm hperm.symm hfit, rfl, rfl⟩
  completes fuel _ := completes_readStdMap (val.completes fuel)
  continues _ _ := .refl _ _

end

/-! ## Structs -/

/-- A member of a struct, with the codec of its type. -/
abbrev Member := Σ α : Type, Codec α

/-- The values of the members, in the order of their field ids. -/
@[reducible] def Members : List Member → Type
  | [] => Unit
  | m :: ms => m.1 × Members ms

namespace Members

/-- What a constructor sets. -/
def init : (ms : List Member) → Members ms
  | [] => ()
  | m :: ms => (m.2.init, init ms)

/-- The fields that are written, from the field id `id` on. -/
def fields (id : Nat) : (ms : List Member) → Members ms → List WireField
  | [], () => []
  | m :: ms, (v, vs) => ⟨m.2.type, BitVec.ofNat 16 id, m.2.write v⟩ :: fields (id + 1) ms vs

/-- `write` of a struct: all members, whether they are set or not. -/
def write (ms : List Member) (vs : Members ms) : List Piece := writeStruct (fields 1 ms vs)

/-- The `switch (fid)` for the members from the field id `id` on. A field of another type is
skipped, and so is one that is not known. -/
def readField (fuel : Nat) (ftype : TType) (fid : BitVec 16) (id : Nat) :
    (ms : List Member) → Members ms → Decoder (Members ms)
  | [], () => skip fuel ftype
  | m :: ms, (v, vs) =>
    if fid = BitVec.ofNat 16 id then
      if ftype = m.2.type then do return (← m.2.read fuel v, vs)
      else do
        skip fuel ftype
        return (v, vs)
    else do return (v, ← readField fuel ftype fid (id + 1) ms vs)

/-- `read` of a struct. A member without a field keeps its value. -/
def read (fuel : Nat) (ms : List Member) (vs : Members ms) : Decoder (Members ms) :=
  TBinaryProtocol.fields (fun vs ftype fid => readField fuel ftype fid 1 ms vs) fuel vs

/-! ### What a reading accepts -/

def Same : (ms : List Member) → Members ms → Members ms → Prop
  | [], _, _ => True
  | m :: ms, (v, vs), (v', vs') => m.2.same v v' ∧ Same ms vs vs'

def Fits : (ms : List Member) → Members ms → Prop
  | [], _ => True
  | m :: ms, (v, vs) => m.2.fits v ∧ Fits ms vs

/-- A field that is skipped. -/
def Skipped (f : WireField) : Prop := ∃ v : TValue, v.Fits ∧ f.type = v.type ∧ f.value = v.write

/-- A field is read into the member with its id and type, and one of another type or id is
skipped. -/
def Into (f : WireField) (id : Nat) : (ms : List Member) → Members ms → Members ms → Prop
  | [], _, _ => Skipped f
  | m :: ms, (v, vs), (v', vs') =>
    if f.id = BitVec.ofNat 16 id then
      vs' = vs ∧ if f.type = m.2.type then m.2.wires f.value v v' else v' = v ∧ Skipped f
    else v' = v ∧ Into f (id + 1) ms vs vs'

/-- The fields are read one after the other, by the members from the field id `id` on. -/
inductive AllInto (id : Nat) (ms : List Member) : List WireField → Members ms → Members ms → Prop
  | nil (vs : Members ms) : AllInto id ms [] vs vs
  | cons {f : WireField} {fs : List WireField} {vs vs' vs'' : Members ms} (h : Into f id ms vs vs')
      (hrest : AllInto id ms fs vs' vs'') : AllInto id ms (f :: fs) vs vs''

section
variable {fuel : Nat}

theorem decodes_skipped {f : WireField} (h : Skipped f) (hlen : (encoded f.value).length < fuel) :
    (skip fuel f.type).Decodes (encoded f.value) () := by
  obtain ⟨v, hfits, htype, hvalue⟩ := h
  rw [hvalue] at hlen
  rw [htype, hvalue]
  exact decodes_skip fuel v hfits hlen

theorem Into.ne_stop {f : WireField} {id : Nat} {ms : List Member} {vs vs' : Members ms}
    (h : Into f id ms vs vs') : f.type ≠ T_STOP := by
  induction ms generalizing id with
  | nil =>
    obtain ⟨v, -, htype, -⟩ := h
    rw [htype]
    exact v.type_ne_stop
  | cons m ms ih =>
    unfold Into at h
    split at h
    · obtain ⟨-, h⟩ := h
      split at h
      · rename_i htype
        rw [htype]
        exact m.2.ne_stop
      · obtain ⟨-, v, -, htype, -⟩ := h
        rw [htype]
        exact v.type_ne_stop
    · exact ih h.2

theorem decodes_readField {f : WireField} (hlen : (encoded f.value).length < fuel) {id : Nat}
    {ms : List Member} {vs vs' : Members ms} (h : Into f id ms vs vs') :
    (readField fuel f.type f.id id ms vs).Decodes (encoded f.value) vs' := by
  induction ms generalizing id with
  | nil => exact decodes_skipped h hlen
  | cons m ms ih =>
    obtain ⟨v, vs⟩ := vs
    obtain ⟨v', vs'⟩ := vs'
    unfold Into at h
    unfold readField
    by_cases hid : f.id = BitVec.ofNat 16 id
    · rw [if_pos hid] at h ⊢
      obtain ⟨rfl, h⟩ := h
      by_cases htype : f.type = m.2.type
      · rw [if_pos htype] at h ⊢
        exact (m.2.reads h hlen).map (g := fun v => (v, vs'))
      · rw [if_neg htype] at h ⊢
        obtain ⟨rfl, hskip⟩ := h
        exact (decodes_skipped hskip hlen).map (g := fun _ => (v', vs'))
    · rw [if_neg hid] at h ⊢
      obtain ⟨rfl, h⟩ := h
      exact (ih h).map (g := fun vs => (v', vs))

theorem encoded_field_le (f : WireField) (fs : List WireField) :
    (encoded f.value).length + (encoded (writeStruct fs)).length + 3 =
      (encoded (writeStruct (f :: fs))).length := by
  rw [writeStruct, encoded_append, encoded_append, List.length_append, List.length_append,
    writeFieldBegin_length]
  omega

theorem AllInto.through {fs : List WireField} {ms : List Member} {vs vs' : Members ms}
    (h : AllInto 1 ms fs vs vs') (hlen : (encoded (writeStruct fs)).length < fuel) :
    Through (fun vs ftype fid => readField fuel ftype fid 1 ms vs) vs fs vs' := by
  induction h with
  | nil vs => exact .nil vs
  | @cons f fs _ _ _ h _ ih =>
    have hle := encoded_field_le f fs
    exact .cons h.ne_stop (decodes_readField (by omega) h) (ih (by omega))

theorem length_lt_writeStruct (fs : List WireField) :
    fs.length < (encoded (writeStruct fs)).length := by
  induction fs with
  | nil => simp [writeStruct, writeFieldStop, writeByte]
  | cons f fs ih =>
    have hle := encoded_field_le f fs
    rw [List.length_cons]
    omega

/-- A struct is read from fields in any order, with fields that are not its own between them. -/
theorem decodes_read {fs : List WireField} {ms : List Member} {vs vs' : Members ms}
    (h : AllInto 1 ms fs vs vs') (hlen : (encoded (writeStruct fs)).length < fuel) :
    (read fuel ms vs).Decodes (encoded (writeStruct fs)) vs' :=
  decodes_fields (h.through hlen) (Nat.lt_trans (length_lt_writeStruct fs) hlen)

theorem completes_readField (ftype : TType) (fid : BitVec 16) (id : Nat) (ms : List Member)
    (vs : Members ms) : Completes fuel (readField fuel ftype fid id ms vs) := by
  induction ms generalizing id with
  | nil => exact completes_skip fuel ftype
  | cons m ms ih =>
    obtain ⟨v, vs⟩ := vs
    unfold readField
    split
    · split
      · exact completes_bind (m.2.completes fuel v) fun _ => completes_pure _
      · exact completes_bind (completes_skip fuel ftype) fun _ => completes_pure _
    · exact completes_bind (ih (id + 1) vs) fun _ => completes_pure _

theorem completes_read (fuel : Nat) (ms : List Member) (vs : Members ms) :
    Completes fuel (read fuel ms vs) :=
  completes_fields (fun vs ftype fid => completes_readField ftype fid 1 ms vs) (Nat.le_succ _) vs

theorem continues_readField {fuel' : Nat} (hle : fuel ≤ fuel') (ftype : TType) (fid : BitVec 16)
    (id : Nat) (ms : List Member) (vs : Members ms) :
    Continues (readField fuel ftype fid id ms vs) (readField fuel' ftype fid id ms vs) := by
  induction ms generalizing id with
  | nil => exact continues_skip hle ftype
  | cons m ms ih =>
    obtain ⟨v, vs⟩ := vs
    unfold readField
    split
    · split
      · exact (m.2.continues hle v).bind fun _ => .refl _ _
      · exact (continues_skip hle ftype).bind fun _ => .refl _ _
    · exact (ih (id + 1) vs).bind fun _ => .refl _ _

theorem continues_read {fuel' : Nat} (hle : fuel ≤ fuel') (ms : List Member) (vs : Members ms) :
    Continues (read fuel ms vs) (read fuel' ms vs) :=
  continues_fields (fun vs ftype fid => continues_readField hle ftype fid 1 ms vs) hle vs

/-! ### What is written is accepted -/

theorem AllInto.cons_member {m : Member} {ms : List Member} {id : Nat} {fs : List WireField}
    {vs vs' : Members ms} (hid : ∀ f ∈ fs, f.id ≠ BitVec.ofNat 16 id)
    (h : AllInto (id + 1) ms fs vs vs') (v : m.1) : AllInto id (m :: ms) fs (v, vs) (v, vs') := by
  induction h with
  | nil vs => exact .nil _
  | @cons f fs _ _ _ h _ ih =>
    refine .cons ?_ (ih fun f' hf' => hid f' (List.mem_cons_of_mem f hf'))
    unfold Into
    rw [if_neg (hid f List.mem_cons_self)]
    exact ⟨rfl, h⟩

theorem mem_fields_id {f : WireField} {id : Nat} {ms : List Member} {vs : Members ms}
    (hf : f ∈ fields id ms vs) : ∃ k, id ≤ k ∧ k < id + ms.length ∧ f.id = BitVec.ofNat 16 k := by
  induction ms generalizing id with
  | nil => cases hf
  | cons m ms ih =>
    rw [List.length_cons]
    rcases List.mem_cons.mp hf with rfl | hf
    · exact ⟨id, Nat.le_refl id, by omega, rfl⟩
    · obtain ⟨k, hle, hlt, hk⟩ := ih hf
      exact ⟨k, by omega, by omega, hk⟩

/-- What is written is read back into any variable, each member from its own field. -/
theorem allInto_fields {ms : List Member} {id : Nat} (hids : id + ms.length ≤ 2 ^ 16)
    {vs : Members ms} (hfits : Fits ms vs) (old : Members ms) :
    ∃ vs', Same ms vs vs' ∧ AllInto id ms (fields id ms vs) old vs' := by
  induction ms generalizing id with
  | nil => exact ⟨old, trivial, .nil old⟩
  | cons m ms ih =>
    obtain ⟨v, vs⟩ := vs
    obtain ⟨old, olds⟩ := old
    obtain ⟨hv, hvs⟩ := hfits
    rw [List.length_cons] at hids
    obtain ⟨v', hsame, hwires⟩ := m.2.writes hv old
    have hrest : id + 1 + ms.length ≤ 2 ^ 16 := by omega
    obtain ⟨vs', hsames, hall⟩ := ih hrest hvs olds
    have hinto : Into ⟨m.2.type, BitVec.ofNat 16 id, m.2.write v⟩ id (m :: ms) (old, olds)
        (v', olds) := by
      unfold Into
      rw [if_pos rfl, if_pos rfl]
      exact ⟨rfl, hwires⟩
    refine ⟨(v', vs'), ⟨hsame, hsames⟩, .cons hinto (hall.cons_member ?_ v')⟩
    intro f hf heq
    obtain ⟨k, hle, hlt, hk⟩ := mem_fields_id hf
    have hnat := congrArg BitVec.toNat (hk.symm.trans heq)
    rw [BitVec.toNat_ofNat, BitVec.toNat_ofNat] at hnat
    omega

end

end Members

/-- A type with the members `ms`. -/
def Codec.struct {α : Type} (ms : List Member) (make : Members ms → α) (get : α → Members ms)
    (hms : ms.length < 2 ^ 16) (hmake : ∀ a, make (get a) = a) (hget : ∀ vs, get (make vs) = vs) :
    Codec α where
  type := T_STRUCT
  init := make (Members.init ms)
  write a := Members.write ms (get a)
  read fuel a := do return make (← Members.read fuel ms (get a))
  same a a' := Members.Same ms (get a) (get a')
  fits a := Members.Fits ms (get a)
  wires ps old new := ∃ fs, ps = writeStruct fs ∧ Members.AllInto 1 ms fs (get old) (get new)
  ne_stop := by decide
  reads := by
    rintro _ old new fuel ⟨fs, rfl, h⟩ hlen
    have hread := (Members.decodes_read h hlen).map (g := make)
    rw [hmake] at hread
    exact hread
  writes := by
    intro a hfits old
    have hids : 1 + ms.length ≤ 2 ^ 16 := by omega
    obtain ⟨vs', hsame, hall⟩ := Members.allInto_fields hids hfits (get old)
    refine ⟨make vs', ?_, _, rfl, ?_⟩
    · rw [hget]
      exact hsame
    · rw [hget]
      exact hall
  completes fuel a := completes_bind (Members.completes_read fuel ms (get a)) fun _ =>
    completes_pure _
  continues hle a := (Members.continues_read hle ms (get a)).bind fun _ => .refl _ _

namespace Member

abbrev bool : Member := ⟨Bool, .scalar .bool⟩
abbrev i32 : Member := ⟨I32, .scalar .i32⟩
abbrev i64 : Member := ⟨I64, .scalar .i64⟩
abbrev string : Member := ⟨Bytes, .scalar .string⟩
/-- `map<string, i32>`. -/
abbrev mapI32 : Member := ⟨StdMap I32, .map .i32⟩

end Member

open Member

def ArgGetDefaultPrinterW.codec : Codec ArgGetDefaultPrinterW :=
  .struct [bool, string, i32]
    (fun (ret, pszBuffer, pcchBuffer, ()) => { ret, pszBuffer, pcchBuffer })
    (fun a => (a.ret, a.pszBuffer, a.pcchBuffer, ()))
    (by decide) (fun _ => rfl) (fun _ => rfl)

def ArgEnumPrintersW.codec : Codec ArgEnumPrintersW :=
  .struct [bool, i32, string, i32, string, i32, i32, i32, mapI32]
    (fun (ret, Flags, Name, Level, pPrinterEnum, cbBuf, pcbNeeded, pcReturned,
        int32PrinterEnum, ()) =>
      { ret, Flags, Name, Level, pPrinterEnum, cbBuf, pcbNeeded, pcReturned, int32PrinterEnum })
    (fun a => (a.ret, a.Flags, a.Name, a.Level, a.pPrinterEnum, a.cbBuf, a.pcbNeeded, a.pcReturned,
      a.int32PrinterEnum, ()))
    (by decide) (fun _ => rfl) (fun _ => rfl)

def ArgDocumentPropertiesW.codec : Codec ArgDocumentPropertiesW :=
  .struct [i32, i64, i64, string, string, string, i32, i32]
    (fun (ret, hHwnd, hPrinter, pDeviceName, pDevModeOutput, pDevModeInput, fMode, lasterror, ()) =>
      { ret, hHwnd, hPrinter, pDeviceName, pDevModeOutput, pDevModeInput, fMode, lasterror })
    (fun a => (a.ret, a.hHwnd, a.hPrinter, a.pDeviceName, a.pDevModeOutput, a.pDevModeInput,
      a.fMode, a.lasterror, ()))
    (by decide) (fun _ => rfl) (fun _ => rfl)

def ArgGetPrinterW.codec : Codec ArgGetPrinterW :=
  .struct [bool, i64, i32, string, i32, i32, mapI32, i32]
    (fun (ret, hPrinter, Level, pPrinter, cbBuf, pcbNeeded, int32Args, lasterror, ()) =>
      { ret, hPrinter, Level, pPrinter, cbBuf, pcbNeeded, int32Args, lasterror })
    (fun a => (a.ret, a.hPrinter, a.Level, a.pPrinter, a.cbBuf, a.pcbNeeded, a.int32Args,
      a.lasterror, ()))
    (by decide) (fun _ => rfl) (fun _ => rfl)

end RemotePrinter
