-- Both directions of the wire. A request that a client writes is read by the
-- server as the same request, also when its fields come in another order or
-- between fields that the server does not know. A reply is read by the client
-- as the result that the handler gave, or as the exception that it threw.
import RemotePrinter.Processor

open Interactive

namespace RemotePrinter

open TBinaryProtocol

/-! ## The head of a message -/

/-- The version and the type are in one word, and both come out of it again. -/
theorem versionWord (type : TMessageType) :
    (0x80010000#32 ||| type.toBitVec.setWidth 32).toInt < 0 ∧
      (0x80010000#32 ||| type.toBitVec.setWidth 32) &&& 0xffff0000#32 = 0x80010000#32 ∧
      UInt8.ofNat (0x80010000#32 ||| type.toBitVec.setWidth 32).toNat = type := by
  obtain ⟨b⟩ := type
  revert b
  decide +kernel

theorem decodes_readMessageHead {name : Bytes} (hname : name.length ≤ INT32_MAX)
    (type : TMessageType) (seqid : I32) :
    readMessageHead.Decodes (encoded (writeMessageBegin name type seqid)) (name, type, seqid) := by
  obtain ⟨hneg, hversion, htype⟩ := versionWord type
  unfold writeMessageBegin
  rw [List.append_assoc, encoded_append, encoded_append]
  refine (decodes_readI32 _).bind ?_
  rw [if_pos hneg, if_neg (by simp [hversion])]
  refine (decodes_readString hname).bind ?_
  rw [htype]
  exact (decodes_readI32 seqid).map

/-- The client does not look at the sequence id. -/
theorem readMessageBegin_eq :
    readMessageBegin = readMessageHead >>= fun head => return (head.1, head.2.1) := by
  unfold readMessageBegin readMessageHead
  rw [Prog.bind_assoc]
  congr 1
  funext sz
  split
  · split
    · rfl
    · rw [Prog.bind_assoc]
      rfl
  · rw [Prog.bind_assoc]
    rfl

theorem decodes_readMessageBegin {name : Bytes} (hname : name.length ≤ INT32_MAX)
    (type : TMessageType) (seqid : I32) :
    readMessageBegin.Decodes (encoded (writeMessageBegin name type seqid)) (name, type) := by
  rw [readMessageBegin_eq]
  exact (decodes_readMessageHead hname type seqid).map

/-! ## Requests -/

theorem args_length (m : Proc) : (SelfService.args m).length < 2 ^ 16 := by
  cases m <;> simp [SelfService.args]

theorem decodes_call {m : Proc} {fs : List WireField} {args : Members (SelfService.args m)}
    (h : Members.AllInto 1 (SelfService.args m) fs (Members.init _) args) (seqid : I32)
    {fuel : Nat} (hfuel : (encoded (callWrite m seqid fs)).length < fuel) :
    (readMessage fuel).Decodes (encoded (callWrite m seqid fs))
      (.call (SelfService.request m args) seqid) := by
  unfold callWrite at hfuel ⊢
  rw [encoded_append, List.length_append] at hfuel
  rw [encoded_append]
  refine (decodes_readMessageHead (SelfService.name_length m) T_CALL seqid).bind ?_
  have hcall : ¬ (T_CALL ≠ T_CALL ∧ T_CALL ≠ T_ONEWAY) := fun h => h.1 rfl
  simp only
  rw [if_neg hcall, SelfService.processMap_name]
  exact (Members.decodes_read h (by omega)).map

/-- The server takes just the bytes `b` for the message, with steps enough for them. -/
def Message.Encodes (m : Message) (b : Bytes) : Prop :=
  m.isCall = true ∧ ∀ fuel, b.length < fuel → (readMessage fuel).Decodes b m

/-- A message for a method that the server does not have is read to its end. -/
theorem encodes_unknown {fname : Bytes} (hname : fname.length ≤ INT32_MAX)
    (hmiss : SelfService.processMap_ fname = none) {fs : List (BitVec 16 × TValue)}
    (hfit : TValue.FieldsFit fs) (seqid : I32) :
    (Message.unknown fname seqid).Encodes
      (encoded (writeMessageBegin fname T_CALL seqid ++ (TValue.struct fs).write)) := by
  refine ⟨rfl, fun fuel hfuel => ?_⟩
  rw [encoded_append, List.length_append] at hfuel
  rw [encoded_append]
  refine (decodes_readMessageHead hname T_CALL seqid).bind ?_
  have hcall : ¬ (T_CALL ≠ T_CALL ∧ T_CALL ≠ T_ONEWAY) := fun h => h.1 rfl
  simp only
  rw [if_neg hcall, hmiss]
  exact (decodes_skip fuel (.struct fs) hfit (by omega)).map

/-- The server reads a call from its fields in any order, between others that it skips, and a
member without a field has its default. -/
theorem a_call_is_read_from_its_fields_in_any_order {m : Proc} {fs : List WireField}
    {args : Members (SelfService.args m)}
    (h : Members.AllInto 1 (SelfService.args m) fs (Members.init _) args) (seqid : I32) :
    (Message.call (SelfService.request m args) seqid).Encodes (encoded (callWrite m seqid fs)) :=
  ⟨rfl, fun _ hfuel => decodes_call h seqid hfuel⟩

/-- A write with its fields from the last to the first, and a struct of another version between. -/
def reorderedWrite : List WireField :=
  [⟨T_I32, 3, writeI32 2⟩,
    ⟨T_STRUCT, 9, (TValue.struct [(1, .i32 5), (2, .string [7])]).write⟩,
    ⟨T_STRING, 2, writeString [65, 66]⟩, ⟨T_I64, 1, writeI64 1⟩]

theorem a_reordered_write_is_read :
    (Message.call (.spool (.WritePrinter 1 [65, 66] 2)) 0).Encodes
      (encoded (callWrite .WritePrinter 0 reorderedWrite)) := by
  have hsize : Members.Into ⟨T_I32, 3, writeI32 2⟩ 1 (SelfService.args .WritePrinter)
      (0, [], 0, ()) (0, [], 2, ()) := ⟨rfl, rfl, rfl, rfl, trivial⟩
  have hfits : (TValue.struct [(1, .i32 5), (2, .string [7])]).Fits := by
    simp [TValue.Fits, TValue.FieldsFit, INT32_MAX]
  have hskipped : Members.Into ⟨T_STRUCT, 9, (TValue.struct [(1, .i32 5), (2, .string [7])]).write⟩
      1 (SelfService.args .WritePrinter) (0, [], 2, ()) (0, [], 2, ()) :=
    ⟨rfl, rfl, rfl, _, hfits, rfl, rfl⟩
  have hbuf : Members.Into ⟨T_STRING, 2, writeString [65, 66]⟩ 1 (SelfService.args .WritePrinter)
      (0, [], 2, ()) (0, [65, 66], 2, ()) :=
    ⟨rfl, rfl, rfl, by simp [Scalar.string, INT32_MAX]⟩
  have hhandle : Members.Into ⟨T_I64, 1, writeI64 1⟩ 1 (SelfService.args .WritePrinter)
      (0, [65, 66], 2, ()) (1, [65, 66], 2, ()) := ⟨rfl, rfl, trivial⟩
  exact a_call_is_read_from_its_fields_in_any_order (m := .WritePrinter)
    (.cons hsize (.cons hskipped (.cons hbuf (.cons hhandle (.nil _))))) 0

/-- A request can be written: its strings and maps are not too long. -/
def ApiForwardRequest.Fits (q : ApiForwardRequest) : Prop :=
  Members.Fits (SelfService.args q.proc) q.args

/-- The same call. The entries of a map that is read back can have another order. -/
def ApiForwardRequest.Same (q q' : ApiForwardRequest) : Prop :=
  ∃ args, Members.Same (SelfService.args q.proc) q.args args ∧ q' = SelfService.request q.proc args

theorem decodes_request {q : ApiForwardRequest} (hfits : q.Fits) (seqid : I32) :
    ∃ q', q.Same q' ∧ (Message.call q' seqid).Encodes (encoded (q.messageWrite seqid)) := by
  have hlen := args_length q.proc
  have hids : 1 + (SelfService.args q.proc).length ≤ 2 ^ 16 := by omega
  obtain ⟨args, hsame, hall⟩ := Members.allInto_fields hids hfits (Members.init _)
  exact ⟨_, ⟨args, hsame, rfl⟩, rfl, fun fuel hfuel => decodes_call hall seqid hfuel⟩

/-! ## Replies -/

open SelfServiceProcessor

theorem decodes_readResult {q : ApiForwardRequest} {v : q.Result} (hfits : q.success.fits v) :
    ∃ v', q.success.same v v' ∧ ∀ fuel, (encoded (q.resultWrite v)).length < fuel →
      (q.readResult fuel).Decodes (encoded (q.resultWrite v)) (some v') := by
  obtain ⟨v', hsame, hwires⟩ := q.success.writes hfits q.success.init
  refine ⟨v', hsame, fun fuel hfuel => ?_⟩
  have hle := Members.encoded_field_le ⟨q.success.type, 0, q.success.write v⟩ []
  have hlt := Members.length_lt_writeStruct [⟨q.success.type, 0, q.success.write v⟩]
  unfold ApiForwardRequest.resultWrite at hfuel ⊢
  refine decodes_fields (.cons q.success.ne_stop ?_ (.nil _)) (by omega)
  rw [if_pos ⟨rfl, rfl⟩]
  exact (q.success.reads hwires (by simp only at hle; omega)).map

/-- What the client reads from a reply with a result. -/
theorem decodes_reply {q : ApiForwardRequest} {v : q.Result} (hfits : q.success.fits v)
    (seqid : I32) :
    ∃ v', q.success.same v v' ∧ ∀ fuel, (encoded (replyWrite q v seqid)).length < fuel →
      (q.recv fuel).Decodes (encoded (replyWrite q v seqid)) v' := by
  obtain ⟨v', hsame, hresult⟩ := decodes_readResult hfits
  refine ⟨v', hsame, fun fuel hfuel => ?_⟩
  unfold replyWrite at hfuel ⊢
  rw [encoded_append, List.length_append] at hfuel
  rw [encoded_append]
  refine (decodes_readMessageBegin (SelfService.name_length q.proc) T_REPLY seqid).bind ?_
  have hreply : ¬ T_REPLY = T_EXCEPTION := by decide
  simp only
  rw [if_neg hreply, if_neg (not_not_intro rfl), if_neg (not_not_intro rfl)]
  have hread := hresult fuel (by omega)
  intro rest
  rw [Prog.reads_bind, hread rest]
  rfl

theorem decodes_readTApplicationException (type : I32) {message : Bytes}
    (hmessage : message.length ≤ INT32_MAX) {fuel : Nat} (hfuel : 2 < fuel) :
    (readTApplicationException fuel).Decodes
      (encoded (writeTApplicationException type message)) type := by
  have hstring : T_STRING ≠ T_STOP := by decide
  have hi32 : T_I32 ≠ T_STOP := by decide
  refine decodes_fields (.cons hstring (?_ : Prog.Decodes _ _ UNKNOWN) (.cons hi32 ?_ (.nil _)))
    hfuel
  · rw [if_pos ⟨rfl, rfl⟩]
    exact (decodes_readString hmessage).map
  · have hnot : ¬ ((2 : BitVec 16) = 1 ∧ T_I32 = T_STRING) := by decide
    rw [if_neg hnot, if_pos ⟨rfl, rfl⟩]
    exact decodes_readI32 type

/-- What the client reads from a reply with an exception, of whatever method. -/
theorem recv_exception (q : ApiForwardRequest) {fname message : Bytes}
    (hname : fname.length ≤ INT32_MAX) (hmessage : message.length ≤ INT32_MAX) (type seqid : I32)
    {fuel : Nat} (hfuel : 2 < fuel) (rest : Bytes) :
    (q.recv fuel).reads (encoded (exceptionWrite fname type message seqid) ++ rest) =
      .failed (.TApplicationException type) rest := by
  unfold ApiForwardRequest.recv recvResult exceptionWrite
  rw [encoded_append, List.append_assoc, Prog.reads_bind,
    decodes_readMessageBegin hname T_EXCEPTION seqid]
  simp only
  rw [if_pos trivial, Prog.reads_bind, decodes_readTApplicationException type hmessage hfuel]
  rfl

/-- For every method the server reads a request as the call that was written, and the client reads
a result as the one that was given. The entries of their maps can come in another order. -/
theorem requests_and_results_are_read_back {q : ApiForwardRequest} (hq : q.Fits) {v : q.Result}
    (hv : q.success.fits v) (seqid : I32) :
    (∃ q', q.Same q' ∧ (Message.call q' seqid).Encodes (encoded (q.messageWrite seqid))) ∧
      ∃ v', q.success.same v v' ∧ ∀ fuel, (encoded (replyWrite q v seqid)).length < fuel →
        (q.recv fuel).Decodes (encoded (replyWrite q v seqid)) v' :=
  ⟨decodes_request hq seqid, decodes_reply hv seqid⟩

/-- An open with the handle that it was granted. -/
def openWide : ApiForwardRequest := .spool (.OpenPrinterW [80, 0] false [] [] 0)

def grantedHandle : StdMap I64 := [(kReturn, 1), (kPhPrinter, 7)]

theorem an_open_is_read_back :
    (∃ q', openWide.Same q' ∧ (Message.call q' 0).Encodes (encoded (openWide.messageWrite 0))) ∧
      ∃ v', StdMap.Same grantedHandle v' ∧
        ∀ fuel, (encoded (replyWrite openWide grantedHandle 0)).length < fuel →
          (openWide.recv fuel).Decodes (encoded (replyWrite openWide grantedHandle 0)) v' := by
  refine requests_and_results_are_read_back (q := openWide) (v := grantedHandle) ?_ ?_ 0
  · simp [ApiForwardRequest.Fits, Members.Fits, openWide, ApiForwardRequest.proc,
      SpoolRequest.proc, SelfService.args, ApiForwardRequest.args, Codec.scalar, Scalar.string,
      Scalar.bool, Scalar.i32, INT32_MAX]
  · refine ⟨?_, ?_, ?_⟩
    · simp [StdMap.Keyed, grantedHandle, kReturn, kPhPrinter, ascii]
    · simp [grantedHandle, INT32_MAX]
    · simp [grantedHandle, kReturn, kPhPrinter, ascii, INT32_MAX, Scalar.i64]

end RemotePrinter
