-- The binary protocol of Thrift as the client uses it: the messages that it
-- writes, in the pieces that the transport gets one by one, and the reading
-- of a reply as a program that asks for the next bytes.
import RemotePrinter.Detours
import RemotePrinter.Streams

open Interactive

namespace RemotePrinter

/-! ## Types and names -/

abbrev TType := UInt8

def T_STOP : TType := 0
def T_BOOL : TType := 2
def T_BYTE : TType := 3
def T_DOUBLE : TType := 4
def T_I16 : TType := 6
def T_I32 : TType := 8
def T_I64 : TType := 10
def T_STRING : TType := 11
def T_STRUCT : TType := 12
def T_MAP : TType := 13
def T_SET : TType := 14
def T_LIST : TType := 15

abbrev TMessageType := UInt8

def T_CALL : TMessageType := 1
def T_REPLY : TMessageType := 2
def T_EXCEPTION : TMessageType := 3

/-- The greatest `int32_t`. -/
def INT32_MAX : Nat := 2147483647

/-- `TApplicationException::UNKNOWN` and `MISSING_RESULT`. -/
def UNKNOWN : I32 := 0
def MISSING_RESULT : I32 := 5

/-- The name of the method in the messages of a call. -/
def Request.name : Request → Bytes
  | spool (.OpenPrinterA ..) => ascii ['O', 'p', 'e', 'n', 'P', 'r', 'i', 'n', 't', 'e', 'r', 'A']
  | spool (.OpenPrinterW ..) => ascii ['O', 'p', 'e', 'n', 'P', 'r', 'i', 'n', 't', 'e', 'r', 'W']
  | spool (.StartPagePrinter _) =>
    ascii ['S', 't', 'a', 'r', 't', 'P', 'a', 'g', 'e', 'P', 'r', 'i', 'n', 't', 'e', 'r']
  | spool (.StartDocPrinterW ..) =>
    ascii ['S', 't', 'a', 'r', 't', 'D', 'o', 'c', 'P', 'r', 'i', 'n', 't', 'e', 'r', 'W']
  | spool (.WritePrinter ..) => ascii ['W', 'r', 'i', 't', 'e', 'P', 'r', 'i', 'n', 't', 'e', 'r']
  | spool (.EndPagePrinter _) =>
    ascii ['E', 'n', 'd', 'P', 'a', 'g', 'e', 'P', 'r', 'i', 'n', 't', 'e', 'r']
  | spool (.EndDocPrinter _) =>
    ascii ['E', 'n', 'd', 'D', 'o', 'c', 'P', 'r', 'i', 'n', 't', 'e', 'r']
  | spool (.ClosePrinter _) => ascii ['C', 'l', 'o', 's', 'e', 'P', 'r', 'i', 'n', 't', 'e', 'r']
  | usb (.OpenUsbPort _) => ascii ['O', 'p', 'e', 'n', 'U', 's', 'b', 'P', 'o', 'r', 't']
  | usb .CloseUsbPort => ascii ['C', 'l', 'o', 's', 'e', 'U', 's', 'b', 'P', 'o', 'r', 't']
  | usb (.WriteUSB ..) => ascii ['W', 'r', 'i', 't', 'e', 'U', 'S', 'B']
  | usb (.ReadUSB ..) => ascii ['R', 'e', 'a', 'd', 'U', 'S', 'B']
  | usb (.PrintBitmap ..) => ascii ['P', 'r', 'i', 'n', 't', 'B', 'i', 't', 'm', 'a', 'p']
  | usb (.Print1DBarcode ..) =>
    ascii ['P', 'r', 'i', 'n', 't', '1', 'D', 'B', 'a', 'r', 'c', 'o', 'd', 'e']
  | usb (.PrintPDF417 ..) => ascii ['P', 'r', 'i', 'n', 't', 'P', 'D', 'F', '4', '1', '7']
  | usb (.PrintQRCode ..) => ascii ['P', 'r', 'i', 'n', 't', 'Q', 'R', 'C', 'o', 'd', 'e']

/-! ## Writing

Each piece is one `trans_->write(...)`. A string that is too long throws before its size is
written. -/

inductive Piece where
  | write (b : Bytes)
  | SIZE_LIMIT

/-- A number of `k` bytes in network order. -/
def bigEndian : Nat → Nat → Bytes
  | 0, _ => []
  | k + 1, n => UInt8.ofNat (n / 256 ^ k) :: bigEndian k n

def ofBigEndian (b : Bytes) : Nat := b.foldl (fun n x => 256 * n + x.toNat) 0

namespace TBinaryProtocol

def writeByte (b : UInt8) : List Piece := [.write [b]]

def writeI16 (i16 : BitVec 16) : List Piece := [.write (bigEndian 2 i16.toNat)]

def writeI32 (i32 : I32) : List Piece := [.write (bigEndian 4 i32.toNat)]

def writeI64 (i64 : I64) : List Piece := [.write (bigEndian 8 i64.toNat)]

def writeBool (value : Bool) : List Piece := [.write [if value then 1 else 0]]

def writeString (str : Bytes) : List Piece :=
  if INT32_MAX < str.length then [.SIZE_LIMIT]
  else writeI32 (BitVec.ofNat 32 str.length) ++ if str.length > 0 then [.write str] else []

/-- `strict_write_` is on, as it is by default. -/
def writeMessageBegin (name : Bytes) (messageType : TMessageType) (seqid : I32) : List Piece :=
  writeI32 (0x80010000#32 ||| messageType.toBitVec.setWidth 32) ++ writeString name ++
    writeI32 seqid

def writeFieldBegin (fieldType : TType) (fieldId : BitVec 16) : List Piece :=
  writeByte fieldType ++ writeI16 fieldId

def writeFieldStop : List Piece := writeByte T_STOP

end TBinaryProtocol

/-- The argument of a method. `writeBinary` is `writeString`. -/
inductive TArg where
  | bool (value : Bool)
  | i32 (i32 : I32)
  | i64 (i64 : I64)
  | string (str : Bytes)

def TArg.type : TArg → TType
  | bool _ => T_BOOL
  | i32 _ => T_I32
  | i64 _ => T_I64
  | string _ => T_STRING

def TArg.write : TArg → List Piece
  | bool value => TBinaryProtocol.writeBool value
  | i32 n => TBinaryProtocol.writeI32 n
  | i64 n => TBinaryProtocol.writeI64 n
  | string str => TBinaryProtocol.writeString str

/-- The arguments of a call. Their field ids are 1, 2 and so on. -/
def Request.args : Request → List TArg
  | spool (.OpenPrinterA name e dt dm acc) =>
    [.string name, .bool e, .string dt, .string dm, .i32 acc]
  | spool (.OpenPrinterW name e dt dm acc) =>
    [.string name, .bool e, .string dt, .string dm, .i32 acc]
  | spool (.StartPagePrinter h) => [.i64 h]
  | spool (.StartDocPrinterW h level n o t) =>
    [.i64 h, .i32 level, .string n, .string o, .string t]
  | spool (.WritePrinter h b n) => [.i64 h, .string b, .i32 n]
  | spool (.EndPagePrinter h) => [.i64 h]
  | spool (.EndDocPrinter h) => [.i64 h]
  | spool (.ClosePrinter h) => [.i64 h]
  | usb (.OpenUsbPort m) => [.i32 m]
  | usb .CloseUsbPort => []
  | usb (.WriteUSB b n) => [.string b, .i32 n]
  | usb (.ReadUSB b n) => [.string b, .i32 n]
  | usb (.PrintBitmap p b) => [.string p, .string b]
  | usb (.Print1DBarcode c w h r b) => [.i32 c, .i32 w, .i32 h, .i32 r, .string b]
  | usb (.PrintPDF417 c r w h e m p b) =>
    [.i32 c, .i32 r, .i32 w, .i32 h, .i32 e, .i32 m, .string p, .string b]
  | usb (.PrintQRCode m s e b) => [.i32 m, .i32 s, .i32 e, .string b]

/-- The fields of a struct, from the field id `id` on. -/
def writeFields (id : Nat) : List TArg → List Piece
  | [] => TBinaryProtocol.writeFieldStop
  | arg :: args =>
    TBinaryProtocol.writeFieldBegin arg.type (BitVec.ofNat 16 id) ++ arg.write ++
      writeFields (id + 1) args

/-- `writeMessageBegin` of a call. The sequence id is always 0. -/
def Request.messageBegin (q : Request) : List Piece :=
  TBinaryProtocol.writeMessageBegin q.name T_CALL 0

/-- `args.write(oprot_)`. -/
def Request.argsWrite (q : Request) : List Piece := writeFields 1 q.args

/-- The bytes of the pieces. -/
def Piece.bytes : Piece → Bytes
  | write b => b
  | SIZE_LIMIT => []

def encoded (ps : List Piece) : Bytes := ps.flatMap Piece.bytes

/-- The bytes of the message of a call. -/
def Request.encoding (q : Request) : Bytes := encoded (q.messageBegin ++ q.argsWrite)

@[simp] theorem encoded_nil : encoded [] = [] := rfl

@[simp] theorem encoded_append (ps ps' : List Piece) :
    encoded (ps ++ ps') = encoded ps ++ encoded ps' := List.flatMap_append

/-! ## Reading -/

/-- A reading throws, or it is not finished when its steps are used up. The exceptions of the
transport are not its own. -/
inductive ReadFault where
  | TProtocolException (type : TProtocolExceptionType)
  | TApplicationException (type : I32)
  | unfinished

abbrev Decoder (α : Type) := Reader UInt8 ReadFault α

def Decoder.throw {α : Type} (x : ReadFault) : Decoder α := Prog.fail x

def readAll (n : Nat) : Decoder Bytes := Prog.perform n

namespace TBinaryProtocol

def readByte : Decoder UInt8 := do return UInt8.ofNat (ofBigEndian (← readAll 1))

def readBool : Decoder Bool := do return (← readByte) != 0

def readI16 : Decoder (BitVec 16) := do return BitVec.ofNat 16 (ofBigEndian (← readAll 2))

def readI32 : Decoder I32 := do return BitVec.ofNat 32 (ofBigEndian (← readAll 4))

def readI64 : Decoder I64 := do return BitVec.ofNat 64 (ofBigEndian (← readAll 8))

/-- There is no limit on the size of strings, `string_limit_` is 0. -/
def readStringBody (size : I32) : Decoder Bytes :=
  if size.toInt < 0 then Decoder.throw (.TProtocolException .NEGATIVE_SIZE)
  else if size = 0 then return []
  else readAll size.toNat

def readString : Decoder Bytes := do readStringBody (← readI32)

/-- The name and the type of a message. `strict_read_` is off, as it is by default. -/
def readMessageBegin : Decoder (Bytes × TMessageType) := do
  let sz ← readI32
  if sz.toInt < 0 then
    if sz &&& 0xffff0000#32 ≠ 0x80010000#32 then
      Decoder.throw (.TProtocolException .BAD_VERSION)
    else
      let name ← readString
      let _seqid ← readI32
      return (name, UInt8.ofNat sz.toNat)
  else
    let name ← readStringBody sz
    let type ← readByte
    let _seqid ← readI32
    return (name, type)

/-- The type and the id of a field. A stop has no id. -/
def readFieldBegin : Decoder (TType × BitVec 16) := do
  let type ← readByte
  if type = T_STOP then return (type, 0)
  else return (type, ← readI16)

/-- The size of a container. -/
def readSize : Decoder Nat := do
  let sizei ← readI32
  if sizei.toInt < 0 then Decoder.throw (.TProtocolException .NEGATIVE_SIZE)
  else return sizei.toNat

def readMapBegin : Decoder (TType × TType × Nat) := do
  let k ← readByte
  let v ← readByte
  return (k, v, ← readSize)

/-- `readSetBegin` is the same. -/
def readListBegin : Decoder (TType × Nat) := do
  let e ← readByte
  return (e, ← readSize)

/-- `for (i = 0; i < size; i++)`. -/
def times : Nat → Decoder Unit → Decoder Unit
  | 0, _ => return ()
  | n + 1, d => do
    d
    times n d

/-- The loop over the fields of a struct, up to the stop. Each field has its own effect on the
value that the loop builds. -/
def fields {α : Type} (field : α → TType → BitVec 16 → Decoder α) : Nat → α → Decoder α
  | 0, _ => Prog.fail .unfinished
  | fuel + 1, a => do
    let (type, id) ← readFieldBegin
    if type = T_STOP then return a
    else fields field fuel (← field a type id)

/-- `skip(type)`. A type that is none of these is skipped without a read. -/
def skip : Nat → TType → Decoder Unit
  | 0, _ => Prog.fail .unfinished
  | fuel + 1, type =>
    if type = T_BOOL ∨ type = T_BYTE then do let _ ← readAll 1
    else if type = T_I16 then do let _ ← readAll 2
    else if type = T_I32 then do let _ ← readAll 4
    else if type = T_I64 ∨ type = T_DOUBLE then do let _ ← readAll 8
    else if type = T_STRING then do let _ ← readString
    else if type = T_STRUCT then fields (fun _ type' _ => skip fuel type') (fuel + 1) ()
    else if type = T_MAP then do
      let (keyType, valType, size) ← readMapBegin
      times size (do skip fuel keyType; skip fuel valType)
    else if type = T_SET ∨ type = T_LIST then do
      let (elemType, size) ← readListBegin
      times size (skip fuel elemType)
    else return ()

end TBinaryProtocol

open TBinaryProtocol

/-- `TApplicationException::read`: the type. The message is read, and not used. -/
def readTApplicationException (fuel : Nat) : Decoder I32 :=
  fields (fun type_ ftype fid =>
    if fid = 1 ∧ ftype = T_STRING then do
      let _ ← readString
      return type_
    else if fid = 2 ∧ ftype = T_I32 then readI32
    else do
      skip fuel ftype
      return type_) fuel UNKNOWN

/-- The elements of a `map<string, ...>`. -/
def readMap {T : Type} (readVal : Decoder T) : Nat → StdMap T → Decoder (StdMap T)
  | 0, m => return m
  | n + 1, m => do
    let key ← readString
    let val ← readVal
    readMap readVal n (m.set key val)

/-- The type of the field `success` of a result. -/
def Request.successType : Request → TType
  | spool (.OpenPrinterA ..) => T_MAP
  | spool (.OpenPrinterW ..) => T_MAP
  | spool (.StartPagePrinter _) => T_BOOL
  | spool (.StartDocPrinterW ..) => T_I32
  | spool (.WritePrinter ..) => T_MAP
  | spool (.EndPagePrinter _) => T_BOOL
  | spool (.EndDocPrinter _) => T_BOOL
  | spool (.ClosePrinter _) => T_BOOL
  | usb _ => T_I32

/-- The types of the keys and values of a map are read, and not looked at. -/
def readStdMap {T : Type} (readVal : Decoder T) : Decoder (StdMap T) := do
  let (_, _, size) ← readMapBegin
  readMap readVal size []

def Request.readSuccess : (q : Request) → Decoder q.Result
  | spool (.OpenPrinterA ..) => readStdMap readI64
  | spool (.OpenPrinterW ..) => readStdMap readI64
  | spool (.StartPagePrinter _) => readBool
  | spool (.StartDocPrinterW ..) => readI32
  | spool (.WritePrinter ..) => readStdMap readI32
  | spool (.EndPagePrinter _) => readBool
  | spool (.EndDocPrinter _) => readBool
  | spool (.ClosePrinter _) => readBool
  | usb _ => readI32

/-- `presult::read`: the field `success`, if it is set. -/
def Request.readResult (fuel : Nat) (q : Request) : Decoder (Option q.Result) :=
  fields (fun success ftype fid =>
    if fid = 0 ∧ ftype = q.successType then do return some (← q.readSuccess)
    else do
      skip fuel ftype
      return success) fuel none

/-- `recv_X`: a message of another type or of another method is skipped, and the result is read
behind it. -/
def Request.recv (fuel : Nat) (q : Request) : Decoder q.Result := do
  let (fname, mtype) ← readMessageBegin
  if mtype = T_EXCEPTION then
    let type ← readTApplicationException fuel
    Decoder.throw (.TApplicationException type)
  else
    if mtype ≠ T_REPLY then skip fuel T_STRUCT
    if fname ≠ q.name then skip fuel T_STRUCT
    match ← q.readResult fuel with
    | some success => return success
    | none => Decoder.throw (.TApplicationException MISSING_RESULT)

end RemotePrinter
