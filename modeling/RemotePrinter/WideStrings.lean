-- Wide strings on their way to the server: an `LPWSTR` that may be NULL goes out
-- as its bytes with the 16-bit zero, and comes back from the bytes of the message.
import RemotePrinter.Terminated
import RemotePrinter.Received
import RemotePrinter.ForwardedCalls
import RemotePrinter.Steps

open Interactive Terminated

namespace RemotePrinter

/-! ## Units and bytes -/

/-- A 16-bit unit by its two bytes, the low one first. -/
def unitAt (lo hi : UInt8) : UInt16 := UInt16.ofNat (lo.toNat + 256 * hi.toNat)

def unitBytes (u : UInt16) : Bytes := [UInt8.ofNat u.toNat, UInt8.ofNat (u.toNat / 256)]

/-- A memory as 16-bit units. -/
def units : Bytes → List UInt16
  | lo :: hi :: rest => unitAt lo hi :: units rest
  | _ => []

/-- 16-bit units as they lie in memory. -/
def wideBytes (us : List UInt16) : Bytes := us.flatMap unitBytes

theorem toNat_unitAt (lo hi : UInt8) : (unitAt lo hi).toNat = lo.toNat + 256 * hi.toNat := by
  have hlo := lo.toNat_lt
  have hhi := hi.toNat_lt
  unfold unitAt
  rw [UInt16.toNat_ofNat']
  omega

theorem unitAt_eq_zero {lo hi : UInt8} : unitAt lo hi = 0 ↔ lo = 0 ∧ hi = 0 := by
  rw [← UInt16.toNat_inj, ← UInt8.toNat_inj, ← UInt8.toNat_inj, toNat_unitAt]
  simp

theorem unitBytes_unitAt (lo hi : UInt8) : unitBytes (unitAt lo hi) = [lo, hi] := by
  have hlo := lo.toNat_lt
  unfold unitBytes
  rw [toNat_unitAt]
  congr 1
  · rw [← UInt8.toNat_inj, UInt8.toNat_ofNat']
    omega
  · congr 1
    rw [← UInt8.toNat_inj, UInt8.toNat_ofNat']
    have hhi := hi.toNat_lt
    omega

theorem units_unitBytes (u : UInt16) (m : Bytes) : units (unitBytes u ++ m) = u :: units m := by
  have hu := u.toNat_lt
  change unitAt _ _ :: units m = u :: units m
  congr 1
  rw [← UInt16.toNat_inj, toNat_unitAt, UInt8.toNat_ofNat', UInt8.toNat_ofNat']
  omega

theorem units_wideBytes (us : List UInt16) (m : Bytes) :
    units (wideBytes us ++ m) = us ++ units m := by
  induction us with
  | nil => rfl
  | cons u us ih =>
    have hcons : wideBytes (u :: us) = unitBytes u ++ wideBytes us := rfl
    rw [hcons, List.append_assoc, units_unitBytes, ih, List.cons_append]

theorem length_wideBytes (us : List UInt16) : (wideBytes us).length = 2 * us.length := by
  induction us with
  | nil => rfl
  | cons u us ih =>
    have hcons : wideBytes (u :: us) = unitBytes u ++ wideBytes us := rfl
    rw [hcons, List.length_append, ih, List.length_cons]
    have hunit : (unitBytes u).length = 2 := rfl
    omega

theorem wideBytes_injective {us us' : List UInt16} (h : wideBytes us = wideBytes us') :
    us = us' := by
  have hunits := congrArg units h
  rwa [← List.append_nil (wideBytes us), ← List.append_nil (wideBytes us'), units_wideBytes,
    units_wideBytes, List.append_cancel_right_eq] at hunits

/-- The first bytes of a memory are those of its first units. -/
theorem take_eq_wideBytes {m : Bytes} {k : Nat} (hk : k ≤ (units m).length) :
    m.take (2 * k) = wideBytes ((units m).take k) := by
  induction k generalizing m with
  | zero => rfl
  | succ k ih =>
    match m with
    | [] | [_] => cases hk
    | lo :: hi :: rest =>
      have hrest := ih (Nat.le_of_succ_le_succ hk)
      have hunit : wideBytes ((units (lo :: hi :: rest)).take (k + 1)) =
          unitBytes (unitAt lo hi) ++ wideBytes ((units rest).take k) := rfl
      rw [hunit, unitBytes_unitAt, ← hrest, Nat.mul_succ]
      rfl

/-! ## What a reader takes of a wide string -/

/-- What a reader of an `LPWSTR` takes of the memory. -/
def readWide (m : Bytes) : List UInt16 := text 0 (units m)

theorem wcslen_eq (m : Bytes) : wcslen m = (readWide m).length := by
  unfold readWide
  induction m using wcslen.induct with
  | case1 lo hi rest hzero =>
    have htext : text 0 (units (lo :: hi :: rest)) = [] := by
      unfold units
      rw [unitAt_eq_zero.mpr hzero, text_cons_self]
    rw [htext]
    simp [wcslen, hzero]
  | case2 lo hi rest hzero ih =>
    have htext : text 0 (units (lo :: hi :: rest)) = unitAt lo hi :: text 0 (units rest) :=
      List.takeWhile_cons_of_pos (by simpa using unitAt_eq_zero.not.mpr hzero)
    rw [htext, List.length_cons, ← ih]
    simp [wcslen, hzero]
  | case3 m hm =>
    have hunits : units m = [] := by
      unfold units
      split
      · exact absurd rfl (hm _ _ _)
      · rfl
    rw [hunits]
    unfold wcslen
    split
    · exact absurd rfl (hm _ _ _)
    · rfl

/-- A memory with a 16-bit zero in it. -/
theorem endsWide_iff_units {m : Bytes} : EndsWide m ↔ (0 : UInt16) ∈ units m := by
  have hcons {lo hi : UInt8} {rest : Bytes} :
      EndsWide (lo :: hi :: rest) ↔ (lo = 0 ∧ hi = 0) ∨ EndsWide rest := by
    unfold EndsWide
    constructor
    · rintro ⟨k, hk, hlo, hhi⟩
      cases k with
      | zero => exact Or.inl ⟨hlo, hhi⟩
      | succ k =>
        have hlen : 2 * k + 1 < rest.length := by
          simp only [List.length_cons] at hk
          omega
        exact Or.inr ⟨k, hlen, hlo, hhi⟩
    · rintro (⟨hlo, hhi⟩ | ⟨k, hk, hlo, hhi⟩)
      · exact ⟨0, by simp, hlo, hhi⟩
      · exact ⟨k + 1, by simp only [List.length_cons]; omega, hlo, hhi⟩
  induction m using units.induct with
  | case1 lo hi rest ih =>
    have hrest : EndsWide rest ↔ 0 ∈ units rest := ih
    unfold units
    rw [hcons, hrest, List.mem_cons, eq_comm (b := unitAt lo hi), unitAt_eq_zero]
  | case2 m hm =>
    have hunits : units m = [] := by
      unfold units
      split
      · exact absurd rfl (hm _ _ _)
      · rfl
    have hshort : m.length ≤ 1 := by
      match m with
      | [] | [_] => simp
      | lo :: hi :: rest => exact absurd rfl (hm lo hi rest)
    rw [hunits]
    constructor
    · rintro ⟨k, hk, -⟩
      omega
    · intro h
      cases h

/-- A wide string that ends goes out as its units and the zero. -/
theorem wide_sent {m : Bytes} (hm : EndsWide m) :
    THRIFT_W_TO_STRING (some m) = wideBytes (readWide m ++ [0]) := by
  have hzero := endsWide_iff_units.mp hm
  have hlen : wcslen m * 2 + 2 = 2 * ((readWide m).length + 1) := by
    rw [wcslen_eq]
    omega
  unfold THRIFT_W_TO_STRING
  dsimp only
  have htake : (units m).take ((readWide m).length + 1) = readWide m ++ [0] :=
    take_text_length hzero
  have hlt : (readWide m).length < (units m).length := text_length_lt hzero
  rw [hlen, take_eq_wideBytes hlt, htake]

/-! ## Optional wide strings -/

abbrev WideString := Str (0 : UInt16)

/-- The string in memory, with whatever lies behind its terminator. -/
def inMemory (s : WideString) (after : Bytes) : Bytes := wideBytes (s.memory []) ++ after

/-- The optional wide string that a pointer stands for. -/
def wideString (p : Option Bytes) : Option WideString := p.map fun m => ofMemory 0 (units m)

/-- The macro `THIRFT_NULL_STRING`. -/
def THIRFT_NULL_STRING (val : Bytes) : Option Bytes :=
  if val.length > 0 then some (cStr val) else none

theorem units_inMemory (s : WideString) (after : Bytes) :
    units (inMemory s after) = s.memory (units after) := by
  unfold inMemory Str.memory
  rw [units_wideBytes, List.append_assoc]
  rfl

theorem endsWide_inMemory (s : WideString) (after : Bytes) : EndsWide (inMemory s after) := by
  rw [endsWide_iff_units, units_inMemory]
  simp [Str.memory]

theorem endsWide_of_inMemory (s : Option WideString) (after : Bytes) :
    ∀ m ∈ s.map (inMemory · after), EndsWide m := by
  intro m hm
  obtain ⟨t, -, rfl⟩ := Option.mem_map.mp hm
  exact endsWide_inMemory t after

theorem wideString_inMemory (s : Option WideString) (after : Bytes) :
    wideString (s.map (inMemory · after)) = s := by
  cases s with
  | none => rfl
  | some s =>
    apply congrArg some
    apply Str.ext
    change text 0 (units (inMemory s after)) = s.units
    rw [units_inMemory, Str.text_memory]

/-- What is sent of a pointer is its optional wide string, with the terminator. -/
theorem THRIFT_W_TO_STRING_eq {p : Option Bytes} (hp : ∀ m ∈ p, EndsWide m) :
    THRIFT_W_TO_STRING p = wideBytes (Terminated.send (wideString p)) := by
  cases p with
  | none => rfl
  | some m =>
    rw [wide_sent (hp m rfl)]
    rfl

/-- The NUL behind the bytes of a message is half a unit, which no reader takes. -/
theorem units_cStr (us : List UInt16) : units (cStr (wideBytes us)) = us := by
  unfold cStr
  rw [units_wideBytes]
  exact List.append_nil us

/-- What a reader takes of the bytes of a message. -/
theorem received_eq (us : List UInt16) :
    (THRIFT_ZERO_SIZE_STRING_TO_NULL (wideBytes us)).map readWide = receive 0 us := by
  unfold THRIFT_ZERO_SIZE_STRING_TO_NULL receive
  rw [length_wideBytes]
  by_cases hus : us = []
  · simp [hus]
  · have hpos : 2 * us.length > 0 := by
      have := List.length_pos_iff.mpr hus
      omega
    rw [if_pos hpos, if_neg hus, Option.map_some, readWide, units_cStr]

/-- The optional wide string comes back, whatever lies behind it in the host. -/
theorem wide_round_trip {p : Option Bytes} (hp : ∀ m ∈ p, EndsWide m) :
    (THRIFT_ZERO_SIZE_STRING_TO_NULL (THRIFT_W_TO_STRING p)).map readWide = p.map readWide := by
  rw [THRIFT_W_TO_STRING_eq hp, received_eq, receive_send]
  cases p <;> rfl

/-- A pointer of the server stands for the optional wide string `s`: it is NULL just if there is
none, and else a reader takes the units of the string and finds its zero at the end of the bytes
that were sent. -/
structure ComesBack (s : Option WideString) (sent : Bytes) (received : Option Bytes) : Prop where
  null : received = none ↔ s = none
  units : received.map readWide = s.map Str.units
  ends : ∀ m ∈ received, 2 * wcslen m + 2 = sent.length

theorem comesBack (s : Option WideString) (after : Bytes) :
    ComesBack s (THRIFT_W_TO_STRING (s.map (inMemory · after)))
      (THRIFT_ZERO_SIZE_STRING_TO_NULL (THRIFT_W_TO_STRING (s.map (inMemory · after)))) := by
  have hends := endsWide_of_inMemory s after
  have hunits : (THRIFT_ZERO_SIZE_STRING_TO_NULL (THRIFT_W_TO_STRING
      (s.map (inMemory · after)))).map readWide = s.map Str.units := by
    rw [THRIFT_W_TO_STRING_eq hends, received_eq, receive_send, wideString_inMemory]
  refine ⟨?_, hunits, ?_⟩
  · rw [← Option.map_eq_none_iff (f := readWide), hunits, Option.map_eq_none_iff]
  · intro m hm
    have hm' := congrArg (Option.map List.length) hunits
    rw [Option.mem_def.mp hm] at hm'
    obtain ⟨t, rfl, ht⟩ : ∃ t, s = some t ∧ t.units.length = (readWide m).length := by
      cases s with
      | none => simp at hm'
      | some t => exact ⟨t, rfl, by simpa using hm'.symm⟩
    rw [THRIFT_W_TO_STRING_eq hends, wideString_inMemory, length_wideBytes, wcslen_eq, ← ht]
    simp [Terminated.send, Str.memory]
    omega

/-- An optional wide string comes back from its bytes: decoded by either macro, sent by the macro
or as the printer name of `DetourOpenPrinterW`; and no two of them have the same bytes. -/
theorem optional_wide_strings_come_back :
    (∀ (s : Option WideString) (after : Bytes),
      let sent := THRIFT_W_TO_STRING (s.map (inMemory · after))
      ComesBack s sent (THRIFT_ZERO_SIZE_STRING_TO_NULL sent) ∧
        ComesBack s sent (THIRFT_NULL_STRING sent)) ∧
    (∀ (s s' : Option WideString) (after after' : Bytes),
      THRIFT_W_TO_STRING (s.map (inMemory · after)) =
        THRIFT_W_TO_STRING (s'.map (inMemory · after')) → s = s') ∧
    ∀ {d : Deployment} (W W' : World d) (s : Option WideString) (after : Bytes) (phPrinter : Bool)
      (pDefault : Option PRINTER_DEFAULTS) (tr : Trace d)
      (r : Except Abnormal (OpenRet (HANDLE d.client))),
      HostStep detour W
        ⟨.OpenPrinterW (s.map (inMemory · after)) phPrinter pDefault, tr, r⟩ W' →
      ∀ x ∈ serverCalls tr, ∃ sent e dt dm acc received ph pd,
        requests tr = [.OpenPrinterW sent e dt dm acc] ∧
        x.op = .OpenPrinterW received ph pd ∧ ComesBack s sent received := by
  refine ⟨fun s after => ⟨comesBack s after, comesBack s after⟩, ?_, ?_⟩
  · intro s s' after after' h
    rw [THRIFT_W_TO_STRING_eq (endsWide_of_inMemory s after),
      THRIFT_W_TO_STRING_eq (endsWide_of_inMemory s' after'), wideString_inMemory,
      wideString_inMemory] at h
    exact send_injective (wideBytes_injective h)
  · intro d W W' s after phPrinter pDefault tr r hstep x hx
    obtain ⟨q, v, hq, hreq, rfl⟩ := hstep.served hx
    cases pDefault with
    | none =>
      cases hq
      exact ⟨_, _, _, _, _, _, _, _, hreq, rfl, comesBack s after⟩
    | some pd =>
      cases hq
      exact ⟨_, _, _, _, _, _, _, _, hreq, rfl, comesBack s after⟩

/-- The name `A`. -/
def letterA : WideString where
  units := [65]
  free := by simp

/-- What the host and the server do at an open of a printer with that name. -/
def openLetterA : CallRecord x86Deployment :=
  openWRecord freshWorld (inMemory letterA []) ⟨none, none, 0⟩ remoteHandle

theorem openLetterA_step :
    HostStep detour freshWorld openLetterA (freshWorld.opened remoteHandle) :=
  hostStep_openW _ _ rfl rfl (by simp [freshWorld])

theorem the_name_of_an_open_comes_back :
    HostStep detour freshWorld openLetterA (freshWorld.opened remoteHandle) ∧
      ∀ x ∈ serverCalls openLetterA.trace, ∃ sent e dt dm acc received ph pd,
        requests openLetterA.trace = [.OpenPrinterW sent e dt dm acc] ∧
        x.op = .OpenPrinterW received ph pd ∧ ComesBack (some letterA) sent received :=
  ⟨openLetterA_step, optional_wide_strings_come_back.2.2 _ _ (some letterA) [] true _ _ _
    openLetterA_step⟩

end RemotePrinter
