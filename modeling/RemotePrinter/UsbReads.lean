-- A read from the USB device: the bytes on their way from the caller's buffer to the
-- server and back. The result of the request is a number, so what the device stores
-- stays with the server.
import RemotePrinter.UsbHandlers

open Interactive

namespace RemotePrinter

/-! ## The detour with the memory of its caller -/

/-- `DetourReadUSB`, with the memory from `pBuffer` on that it leaves. No number that a string has
as its length is negative, so the `min` of the source is that of the two lengths. -/
def readUSB {w : PtrWidth} (pBuffer : Option Bytes) (nNumberOfByteToRead : I32) :
    Client w (I32 × Option Bytes) := do
  if !(← ensure_connection) then return (0, pBuffer)
  let arg0 ← std_string pBuffer nNumberOfByteToRead.toInt
  let result ← api (.usb (.ReadUSB arg0 nNumberOfByteToRead))
  let n := min arg0.length nNumberOfByteToRead.toNat
  return (result, pBuffer.map fun m => (cStr arg0).take n ++ m.drop n)

/-! ## The device -/

/-- A call of the vendor library by the server, with its answer. -/
abbrev VendorCall := Obs UsbOp UsbOp.Answer Unit

/-- The functions of the vendor library may answer anything; `ReadUSB` stores no more bytes than it
is asked for. -/
def Device.acts : Env UsbOp UsbOp.Answer Unit Unit := fun _ op a _ _ =>
  match op, a with
  | .original (.ReadUSB _ n), u => u.stored.length ≤ n.toNat
  | _, _ => True

/-- The detours of the vendor library with the connection up. Each request is carried out by the
handler of the server, and the note of a request holds the calls that this made. -/
def Device.env {w : PtrWidth} (fp : Proc → Bool) :
    Env (ClientOp w) ClientOp.Answer (List VendorCall) Unit := fun _ op a calls _ =>
  match op, a with
  | .ensure_connection, b => b = true ∧ calls = []
  | .api (.usb q), a =>
    ∃ r, (ApiForwardHandler.handleUsb fp q).RunsIn Device.acts () calls (.ok r) () ∧ a = .ok r
  | _, _ => False

/-- The calls of the vendor library that the server made. -/
def vendorCalls {w : PtrWidth} (tr : List (Obs (ClientOp w) ClientOp.Answer (List VendorCall))) :
    List VendorCall := tr.flatMap fun o => o.note

/-- What is in a buffer after some bytes were stored in it. -/
def leftIn (b stored : Bytes) : Bytes := stored ++ b.drop stored.length

/-- The server reads once, and the caller gets the result of that and the bytes that were left in
the buffer of the server. -/
def BytesArrive (n : I32) (calls : List VendorCall) (r : Except Abnormal (I32 × Option Bytes)) :
    Prop :=
  ∃ b u m, calls = [⟨.original (.ReadUSB (some b) n), u, ()⟩] ∧ r = .ok (u.ret, m) ∧
    (m.getD []).take n.toNat = (leftIn b u.stored).take n.toNat

/-- What the server reads is what the caller had in its buffer before. -/
def KnownBefore (pBuffer : Option Bytes) (x : VendorCall) : Prop :=
  match x with
  | ⟨.original (.ReadUSB ..), u, _⟩ => u.stored <+: pBuffer.getD []
  | _ => True

/-! ## What arrives -/

section
variable {w : PtrWidth} {fp : Proc → Bool} {pBuffer : Option Bytes} {n : I32}
  {tr : List (Obs (ClientOp w) ClientOp.Answer (List VendorCall))}
  {r : Except Abnormal (I32 × Option Bytes)}

/-- A buffer with as many bytes as are asked for is read as it is. -/
theorem std_string_of_readable (hn : 0 ≤ n.toInt) (hbuf : n.toNat ≤ (pBuffer.getD []).length) :
    (std_string pBuffer n.toInt : Client w Bytes) = .done ((pBuffer.getD []).take n.toNat) := by
  have hint : n.toInt = n.toNat := by
    have hlt := n.isLt
    rw [BitVec.toInt_eq_toNat_cond] at hn ⊢
    split at hn <;> omega
  rw [hint, std_string_ofNat]
  cases pBuffer with
  | some m => rfl
  | none =>
    have h0 : n.toNat = 0 := Nat.le_zero.mp hbuf
    simp [h0]

/-- The handler makes one call with the bytes that it received, or none. -/
theorem readUSB_handled {pBuffer : Bytes} {calls : List VendorCall} {v : I32}
    (h : (ApiForwardHandler.handleUsb fp (.ReadUSB pBuffer n)).RunsIn Device.acts () calls (.ok v)
      ()) :
    (fp .ReadUSB = false ∧ calls = []) ∨
    fp .ReadUSB = true ∧ ∃ u : UsbRet, u.stored.length ≤ n.toNat ∧ v = u.ret ∧
      calls = [⟨.original (.ReadUSB (some (cStr pBuffer)) n), u, ()⟩] := by
  change Prog.RunsIn Device.acts (ApiForwardHandler.ReadUSB fp pBuffer n) _ _ _ _ at h
  unfold ApiForwardHandler.ReadUSB ApiForwardHandler.forwarded ApiForwardHandler.callVendor at h
  by_cases hfp : fp (UsbCall.ReadUSB (some (cStr pBuffer)) n).proc = true
  · rw [if_pos hfp, if_pos hfp] at h
    obtain ⟨u, l, s, tr', hstored, rfl, rfl, hv, -⟩ := h
    exact Or.inr ⟨hfp, u, hstored, Except.ok.inj hv, rfl⟩
  · rw [if_neg hfp] at h
    obtain ⟨rfl, -, -⟩ := h
    exact Or.inl ⟨Bool.eq_false_iff.mpr hfp, rfl⟩

/-- The caller gets the result of the handler, and its memory is as it was. -/
theorem readUSB_runsIn (hn : 0 ≤ n.toInt) (hbuf : n.toNat ≤ (pBuffer.getD []).length)
    (run : (readUSB pBuffer n).RunsIn (Device.env fp) () tr r ()) :
    ∃ v, (ApiForwardHandler.handleUsb fp (.ReadUSB ((pBuffer.getD []).take n.toNat) n)).RunsIn
        Device.acts () (vendorCalls tr) (.ok v) () ∧ r = .ok (v, pBuffer) := by
  obtain ⟨up, l, s, tr₁, ⟨rfl, rfl⟩, rfl, run⟩ := run
  change Prog.RunsIn (Device.env fp) (if (!true) = true then pure (0, pBuffer) else _) _ _ _ _
    at run
  rw [if_neg (by simp), std_string_of_readable hn hbuf] at run
  obtain ⟨a, calls, s', tr₂, ⟨v, hrun, rfl⟩, rfl, rfl, hr, -⟩ := run
  have hsame : pBuffer.map (fun m =>
      (cStr ((pBuffer.getD []).take n.toNat)).take
          (min ((pBuffer.getD []).take n.toNat).length n.toNat) ++
        m.drop (min ((pBuffer.getD []).take n.toNat).length n.toNat)) = pBuffer := by
    cases pBuffer with
    | none => rfl
    | some m =>
      have hlen : (m.take n.toNat).length = n.toNat := List.length_take_of_le hbuf
      have hcut : (cStr (m.take n.toNat)).take n.toNat = m.take n.toNat := by
        unfold cStr
        rw [List.take_append_of_le_length (by omega), List.take_take, Nat.min_self]
      simp only [Option.map_some, Option.getD_some, hlen, Nat.min_self, hcut,
        List.take_append_drop]
  rw [hsame] at hr
  exact ⟨v, by simpa [vendorCalls] using hrun, hr⟩

/-- The bytes that the server leaves in its buffer are those of the caller's just if the device
has stored nothing new. -/
theorem take_leftIn {m stored : Bytes} {n : Nat} (hm : n ≤ m.length) (hstored : stored.length ≤ n) :
    m.take n = (leftIn (cStr (m.take n)) stored).take n ↔ stored <+: m := by
  have hlen : (m.take n).length = n := List.length_take_of_le hm
  have hleft : (leftIn (cStr (m.take n)) stored).take n =
      stored ++ (m.take n).drop stored.length := by
    unfold leftIn cStr
    rw [List.drop_append_of_le_length (by omega), List.take_append,
      List.take_of_length_le hstored, List.take_left' (by rw [List.length_drop, hlen])]
  rw [hleft]
  constructor
  · intro h
    have hprefix : stored <+: m.take n := ⟨_, h.symm⟩
    exact hprefix.trans (List.take_prefix n m)
  · intro h
    have hfirst : (m.take n).take stored.length = stored := by
      rw [List.take_take, Nat.min_eq_left hstored]
      exact (List.prefix_iff_eq_take.mp h).symm
    calc m.take n = (m.take n).take stored.length ++ (m.take n).drop stored.length :=
          (List.take_append_drop _ _).symm
      _ = stored ++ (m.take n).drop stored.length := by rw [hfirst]

/-- The bytes of a read arrive just if the server has found the function and the device stores
only what the caller had in its buffer before. -/
theorem bytes_arrive_just_if_the_caller_has_them (hn : 0 ≤ n.toInt)
    (hbuf : n.toNat ≤ (pBuffer.getD []).length)
    (run : (readUSB pBuffer n).RunsIn (Device.env fp) () tr r ()) :
    BytesArrive n (vendorCalls tr) r ↔
      fp .ReadUSB = true ∧ ∀ x ∈ vendorCalls tr, KnownBefore pBuffer x := by
  obtain ⟨v, hrun, hr⟩ := readUSB_runsIn hn hbuf run
  unfold BytesArrive
  rcases readUSB_handled hrun with ⟨hfp, hnone⟩ | ⟨hfp, u, hstored, rfl, hcalls⟩
  · rw [hnone]
    simp [hfp]
  · rw [hcalls, hr, and_iff_right hfp]
    have hiff := take_leftIn hbuf hstored
    constructor
    · rintro ⟨b, u', m, hone, hv, hbytes⟩ x hx
      cases hone
      cases hv
      cases List.mem_singleton.mp hx
      exact hiff.mp hbytes
    · intro hall
      exact ⟨_, u, pBuffer, rfl, rfl, hiff.mpr (hall _ (List.mem_singleton_self _))⟩

end

/-! ### Two reads -/

/-- A read of two bytes into a buffer of zeros, of which the device stores some. -/
def readTrace (stored : Bytes) :
    List (Obs (ClientOp .x86) ClientOp.Answer (List VendorCall)) :=
  [⟨.ensure_connection, true, []⟩,
    ⟨.api (.usb (.ReadUSB [0, 0] 2)), .ok 2,
      [⟨.original (.ReadUSB (some [0, 0, 0]) 2), { ret := 2, stored := stored }, ()⟩]⟩]

theorem readTrace_run {stored : Bytes} (h : stored.length ≤ 2) :
    (readUSB (some [0, 0]) 2).RunsIn (Device.env fun _ => true) () (readTrace stored)
      (.ok (2, some [0, 0])) () := by
  have hread : Device.acts () (.original (.ReadUSB (some [0, 0, 0]) 2))
      { ret := 2, stored := stored } () () := h
  have hhandler : (ApiForwardHandler.handleUsb (fun _ => true) (.ReadUSB [0, 0] 2)).RunsIn
      Device.acts () _ (.ok 2) () := .next hread (.ended _ _)
  have hconnected : Device.env (w := .x86) (fun _ => true) () .ensure_connection true [] () :=
    ⟨rfl, rfl⟩
  have hanswer : Device.env (w := .x86) (fun _ => true) () (.api (.usb (.ReadUSB [0, 0] 2)))
      (.ok 2) _ () := ⟨2, hhandler, rfl⟩
  exact .next hconnected (.next hanswer (.ended _ _))

theorem a_read_of_zeros_arrives :
    BytesArrive 2 (vendorCalls (readTrace [0])) (.ok (2, some [0, 0])) := by
  have hstored : ([0] : Bytes).length ≤ 2 := by decide
  apply (bytes_arrive_just_if_the_caller_has_them (by decide) (by decide)
    (readTrace_run hstored)).mpr
  refine ⟨rfl, fun x hx => ?_⟩
  cases List.mem_singleton.mp hx
  exact ⟨[0], rfl⟩

/-- Of two bytes that the device stores the caller gets none. -/
theorem bytes_that_are_read_stay_with_the_server :
    ¬ ∀ (w : PtrWidth) (fp : Proc → Bool) (pBuffer : Option Bytes) (n : I32)
      (tr : List (Obs (ClientOp w) ClientOp.Answer (List VendorCall)))
      (r : Except Abnormal (I32 × Option Bytes)),
      0 ≤ n.toInt → n.toNat ≤ (pBuffer.getD []).length → fp .ReadUSB = true →
      (readUSB pBuffer n).RunsIn (Device.env fp) () tr r () →
      BytesArrive n (vendorCalls tr) r := by
  intro law
  have hstored : ([1, 2] : Bytes).length ≤ 2 := Nat.le_refl 2
  obtain ⟨b, u, m, hcalls, hr, hbytes⟩ := law _ _ (some [0, 0]) 2 _ _ (by decide) (by decide)
    rfl (readTrace_run hstored)
  cases hcalls
  cases hr
  revert hbytes
  decide

end RemotePrinter
