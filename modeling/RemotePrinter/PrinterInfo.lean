-- The structures in which `EnumPrintersW` and `GetPrinterW` describe a printer,
-- and the macros by which their pointers go over the wire: as offsets into the
-- buffer that the structure lies in.
import RemotePrinter.Service
import RemotePrinter.ByteMemory

open ByteMemory

namespace RemotePrinter

/-! ## The structures -/

/-- The fields of `PRINTER_INFO_1`, `_2`, `_4` and `_5`. -/
inductive InfoField where
  | Flags | pDescription | pName | pComment
  | pServerName | pPrinterName | pShareName | pPortName | pDriverName | pLocation | pDevMode
  | pSepFile | pPrintProcessor | pDatatype | pParameters | pSecurityDescriptor
  | Attributes | Priority | DefaultPriority | StartTime | UntilTime | Status | cJobs | AveragePPM
  | DeviceNotSelectedTimeout | TransmissionRetryTimeout
  deriving DecidableEq, Repr

inductive FieldType where
  | DWORD
  | LPVOID
  deriving DecidableEq, Repr

def PtrWidth.bytes : PtrWidth → Nat
  | x86 => 4
  | x64 => 8

def FieldType.size (w : PtrWidth) : FieldType → Nat
  | DWORD => 4
  | LPVOID => w.bytes

/-- `PRINTER_INFO_1W`. -/
def PRINTER_INFO_1 : List (InfoField × FieldType) :=
  [(.Flags, .DWORD), (.pDescription, .LPVOID), (.pName, .LPVOID), (.pComment, .LPVOID)]

/-- `PRINTER_INFO_2W`. -/
def PRINTER_INFO_2 : List (InfoField × FieldType) :=
  [(.pServerName, .LPVOID), (.pPrinterName, .LPVOID), (.pShareName, .LPVOID),
    (.pPortName, .LPVOID), (.pDriverName, .LPVOID), (.pComment, .LPVOID), (.pLocation, .LPVOID),
    (.pDevMode, .LPVOID), (.pSepFile, .LPVOID), (.pPrintProcessor, .LPVOID),
    (.pDatatype, .LPVOID), (.pParameters, .LPVOID), (.pSecurityDescriptor, .LPVOID),
    (.Attributes, .DWORD), (.Priority, .DWORD), (.DefaultPriority, .DWORD), (.StartTime, .DWORD),
    (.UntilTime, .DWORD), (.Status, .DWORD), (.cJobs, .DWORD), (.AveragePPM, .DWORD)]

/-- `PRINTER_INFO_4W`. -/
def PRINTER_INFO_4 : List (InfoField × FieldType) :=
  [(.pPrinterName, .LPVOID), (.pServerName, .LPVOID), (.Attributes, .DWORD)]

/-- `PRINTER_INFO_5W`. -/
def PRINTER_INFO_5 : List (InfoField × FieldType) :=
  [(.pPrinterName, .LPVOID), (.pPortName, .LPVOID), (.Attributes, .DWORD),
    (.DeviceNotSelectedTimeout, .DWORD), (.TransmissionRetryTimeout, .DWORD)]

/-- The structure of a level that the code knows. -/
def printerInfo (Level : DWORD) : Option (List (InfoField × FieldType)) :=
  if Level = 1 then some PRINTER_INFO_1
  else if Level = 2 then some PRINTER_INFO_2
  else if Level = 4 then some PRINTER_INFO_4
  else if Level = 5 then some PRINTER_INFO_5
  else none

/-- The places of the fields. -/
def slots (w : PtrWidth) (info : List (InfoField × FieldType)) : List (Slot InfoField) :=
  layout (info.map fun f => (f.1, f.2.size w)) 0

/-- `sizeof`: the end of the last field, at a multiple of the size of a pointer. -/
def sizeOf (w : PtrWidth) (info : List (InfoField × FieldType)) : Nat :=
  alignUp w.bytes ((slots w info).foldl (fun _ s => s.offset + s.size) 0)

/-- Where a field lies. -/
def offsetOf (w : PtrWidth) (info : List (InfoField × FieldType)) (f : InfoField) : Nat :=
  (((slots w info).find? fun s => s.name = f).map Slot.offset).getD 0

example : sizeOf .x86 PRINTER_INFO_2 = 84 ∧ sizeOf .x64 PRINTER_INFO_2 = 136 ∧
    sizeOf .x64 PRINTER_INFO_5 = 32 ∧ offsetOf .x64 PRINTER_INFO_1 .pName = 16 := by
  decide

/-! ## Pointers -/

/-- A pointer in memory. -/
def pointerAt (w : PtrWidth) (m : Mem) (offset : Nat) : HANDLE w :=
  BitVec.ofNat w.bits (leNat (m.read offset w.bytes))

/-- The bytes of a pointer. -/
def pointerBytes {w : PtrWidth} (p : HANDLE w) : Bytes := leBytes w.bytes p.toNat

/-- The macro `RP_GET_OFFSET`. -/
def RP_GET_OFFSET {w : PtrWidth} (buffer point : HANDLE w) : I32 :=
  if buffer = 0 ∨ point = 0 then -1 else (point - buffer).setWidth 32

/-- The macro `RP_SET_OFFSET`. -/
def RP_SET_OFFSET {w : PtrWidth} (buffer : HANDLE w) (offset : I32) : HANDLE w :=
  if offset = -1 then 0 else buffer + offset.setWidth w.bits

/-- The string that is the key of a field in the map of offsets. -/
def InfoField.key : InfoField → Bytes
  | pDescription => ascii ['p', 'D', 'e', 's', 'c', 'r', 'i', 'p', 't', 'i', 'o', 'n']
  | pName => ascii ['p', 'N', 'a', 'm', 'e']
  | pComment => ascii ['p', 'C', 'o', 'm', 'm', 'e', 'n', 't']
  | pServerName => ascii ['p', 'S', 'e', 'r', 'v', 'e', 'r', 'N', 'a', 'm', 'e']
  | pPrinterName => ascii ['p', 'P', 'r', 'i', 'n', 't', 'e', 'r', 'N', 'a', 'm', 'e']
  | pShareName => ascii ['p', 'S', 'h', 'a', 'r', 'e', 'N', 'a', 'm', 'e']
  | pPortName => ascii ['p', 'P', 'o', 'r', 't', 'N', 'a', 'm', 'e']
  | pDriverName => ascii ['p', 'D', 'r', 'i', 'v', 'e', 'r', 'N', 'a', 'm', 'e']
  | pLocation => ascii ['p', 'L', 'o', 'c', 'a', 't', 'i', 'o', 'n']
  | pDevMode => ascii ['p', 'D', 'e', 'v', 'M', 'o', 'd', 'e']
  | pSepFile => ascii ['p', 'S', 'e', 'p', 'F', 'i', 'l', 'e']
  | pPrintProcessor =>
    ascii ['p', 'P', 'r', 'i', 'n', 't', 'P', 'r', 'o', 'c', 'e', 's', 's', 'o', 'r']
  | pDatatype => ascii ['p', 'D', 'a', 't', 'a', 't', 'y', 'p', 'e']
  | pParameters => ascii ['p', 'P', 'a', 'r', 'a', 'm', 'e', 't', 'e', 'r', 's']
  | _ => []

/-- The fields of `PRINTER_INFO_2` that `GetPrinterW` sends as offsets. -/
def getPrinterFields : List InfoField :=
  [.pServerName, .pPrinterName, .pShareName, .pPortName, .pDriverName, .pComment, .pLocation,
    .pDevMode, .pSepFile, .pPrintProcessor, .pDatatype, .pParameters]

/-- The fields that `EnumPrintersW` sends as offsets, level by level. `pDatatype` of level 2 is
not among them. -/
def enumPrintersFields (Level : DWORD) : List InfoField :=
  if Level = 1 then [.pDescription, .pName, .pComment]
  else if Level = 2 then
    [.pServerName, .pPrinterName, .pShareName, .pPortName, .pDriverName, .pComment, .pLocation,
      .pDevMode, .pSepFile, .pPrintProcessor, .pParameters]
  else if Level = 4 then [.pPrinterName, .pServerName]
  else if Level = 5 then [.pPrinterName, .pPortName]
  else []

/-- The map of the offsets of the given fields, for a structure at the address `info`. -/
def offsetMap {w : PtrWidth} (struct : List (InfoField × FieldType)) (fields : List InfoField)
    (info : HANDLE w) (m : Mem) : StdMap I32 :=
  fields.foldl
    (fun map f => map.set f.key (RP_GET_OFFSET info (pointerAt w m (offsetOf w struct f)))) []

/-! ## The fields of a structure -/

section
variable {w : PtrWidth} {info : List (InfoField × FieldType)} {f g : InfoField} {t u : FieldType}

/-- The levels that have a structure. -/
theorem printerInfo_cases {Level : DWORD} (h : printerInfo Level = some info) :
    Level = 1 ∧ info = PRINTER_INFO_1 ∨ Level = 2 ∧ info = PRINTER_INFO_2 ∨
      Level = 4 ∧ info = PRINTER_INFO_4 ∨ Level = 5 ∧ info = PRINTER_INFO_5 := by
  unfold printerInfo at h
  split at h
  · cases h
    exact Or.inl ⟨‹_›, rfl⟩
  split at h
  · cases h
    exact Or.inr (Or.inl ⟨‹_›, rfl⟩)
  split at h
  · cases h
    exact Or.inr (Or.inr (Or.inl ⟨‹_›, rfl⟩))
  split at h
  · cases h
    exact Or.inr (Or.inr (Or.inr ⟨‹_›, rfl⟩))
  · cases h

/-- The names of the fields of a structure are different. -/
theorem printerInfo_nodup {Level : DWORD} (h : printerInfo Level = some info) :
    (info.map Prod.fst).Nodup := by
  obtain ⟨-, rfl⟩ | ⟨-, rfl⟩ | ⟨-, rfl⟩ | ⟨-, rfl⟩ := printerInfo_cases h
  · decide
  · decide
  · decide
  · decide

theorem field_slot (hnodup : (info.map Prod.fst).Nodup) (hf : (f, t) ∈ info) :
    ⟨f, offsetOf w info f, t.size w⟩ ∈ slots w info := by
  have hnames : ((info.map fun f => (f.1, f.2.size w)).map Prod.fst).Nodup := by
    rw [List.map_map]
    exact hnodup
  obtain ⟨o, ho⟩ := layout_find hnames (List.mem_map_of_mem hf) 0
  have hoff : offsetOf w info f = o := by
    unfold offsetOf slots
    rw [ho]
    rfl
  rw [hoff]
  exact List.mem_of_find?_eq_some ho

/-- Two fields have no byte in common. -/
theorem fields_apart (hnodup : (info.map Prod.fst).Nodup) (hf : (f, t) ∈ info)
    (hg : (g, u) ∈ info) (hne : f ≠ g) :
    offsetOf w info f + t.size w ≤ offsetOf w info g ∨
      offsetOf w info g + u.size w ≤ offsetOf w info f :=
  layout_apart (field_slot hnodup hf) (field_slot hnodup hg) hne

/-- A field lies inside its structure. -/
theorem field_end_le (hnodup : (info.map Prod.fst).Nodup) (hf : (f, t) ∈ info) :
    offsetOf w info f + t.size w ≤ sizeOf w info :=
  Nat.le_trans (layout_end (layout_pairwise _ 0) _ (field_slot hnodup hf)) (le_alignUp _ _)

end

/-! ## The map of the offsets -/

theorem StdMap.lookup_erase {T : Type} (m : StdMap T) {name name' : Bytes} (h : name' ≠ name) :
    List.lookup name' (m.filter fun e => e.1 != name) = m.lookup name' := by
  induction m with
  | nil => rfl
  | cons e m ih =>
    obtain ⟨k, v⟩ := e
    by_cases hk : k = name
    · subst hk
      rw [List.filter_cons_of_neg (by simp), List.lookup_cons, beq_eq_false_iff_ne.mpr h, ih]
    · rw [List.filter_cons_of_pos (by simpa using hk), List.lookup_cons, List.lookup_cons, ih]

theorem StdMap.lookup_set {T : Type} (m : StdMap T) (name name' : Bytes) (value : T) :
    (m.set name value).lookup name' = if name' = name then some value else m.lookup name' := by
  unfold StdMap.set
  by_cases h : name' = name
  · rw [if_pos h, h, List.lookup_cons_self]
  · rw [if_neg h, List.lookup_cons, beq_eq_false_iff_ne.mpr h]
    exact lookup_erase m h

/-- The offsets of different fields have different keys. -/
def KeysApart (fields : List InfoField) : Prop := ∀ f ∈ fields, ∀ g ∈ fields, f.key = g.key → f = g

instance (fields : List InfoField) : Decidable (KeysApart fields) :=
  inferInstanceAs (Decidable (∀ f ∈ fields, ∀ g ∈ fields, f.key = g.key → f = g))

/-- The map has the offset of each of its fields. -/
theorem lookup_offsetMap {w : PtrWidth} {struct : List (InfoField × FieldType)}
    {fields : List InfoField} {info : HANDLE w} {m : Mem} {f : InfoField}
    (hkeys : KeysApart fields) (hf : f ∈ fields) :
    (offsetMap struct fields info m).lookup f.key =
      some (RP_GET_OFFSET info (pointerAt w m (offsetOf w struct f))) := by
  unfold offsetMap
  induction fields using List.reverseRecOn with
  | nil => cases hf
  | append_singleton fields g ih =>
    rw [List.foldl_append, List.foldl_cons, List.foldl_nil, StdMap.lookup_set]
    by_cases hkey : f.key = g.key
    · rw [if_pos hkey, hkeys f hf g (by simp) hkey]
    · rw [if_neg hkey]
      have hmem : f ∈ fields := by
        rcases List.mem_append.mp hf with h | h
        · exact h
        · exact absurd (congrArg _ (List.mem_singleton.mp h)) hkey
      exact ih (fun a ha b hb => hkeys a (List.mem_append_left _ ha) b (List.mem_append_left _ hb))
        hmem

theorem getPrinterFields_keys : KeysApart getPrinterFields := by decide

theorem enumPrintersFields_keys (Level : DWORD) : KeysApart (enumPrintersFields Level) := by
  unfold enumPrintersFields
  split
  · decide
  split
  · decide
  split
  · decide
  split
  · decide
  · decide

end RemotePrinter
