-- The two opens of one printer. `DetourOpenPrinterA` tests the name that it was
-- given, and `DetourOpenPrinterW` tests its UTF-8 bytes; the registry takes both
-- in the ANSI code page.
import RemotePrinter.RegistryTest
import RemotePrinter.Steps

open Interactive

namespace RemotePrinter

variable {d : Deployment}

/-! ## The name that is tested -/

/-- The name that an open tests, if it has one. -/
def SpoolCall.testedName {H : Type} : SpoolCall H → Option Bytes
  | OpenPrinterA (some m) _ _ => some (cString m)
  | OpenPrinterW (some m) _ _ => some (ws2s m)
  | _ => none

/-- The UTF-8 bytes of a unit that is not zero are not zero. -/
theorem zero_not_mem_utf8OfUnit {u : Nat} (h0 : u ≠ 0) (hu : u < 65536) : 0 ∉ utf8OfUnit u := by
  have hbyte : ∀ n, 0 < n → n < 256 → (0 : UInt8) ≠ UInt8.ofNat n := by
    intro n hpos hlt he
    have hnat := congrArg UInt8.toNat he
    rw [UInt8.toNat_ofNat_of_lt' hlt] at hnat
    exact absurd hnat (by simp; omega)
  unfold utf8OfUnit
  split
  · simp only [List.mem_singleton]
    exact hbyte u (by omega) (by omega)
  · split
    · simp only [List.mem_cons, List.not_mem_nil, or_false, not_or]
      exact ⟨hbyte _ (by omega) (by omega), hbyte _ (by omega) (by omega)⟩
    · simp only [List.mem_cons, List.not_mem_nil, or_false, not_or]
      exact ⟨hbyte _ (by omega) (by omega), hbyte _ (by omega) (by omega),
        hbyte _ (by omega) (by omega)⟩

theorem zero_not_mem_ws2s (m : Bytes) : 0 ∉ ws2s m := by
  induction m using ws2s.induct with
  | case1 lo hi rest h => simp [ws2s, h]
  | case2 lo hi rest h ih =>
    rw [ws2s, if_neg h, List.mem_append, not_or]
    refine ⟨zero_not_mem_utf8OfUnit ?_ ?_, ih⟩
    · intro hzero
      apply h
      have hlo : lo.toNat = 0 := by omega
      have hhi : hi.toNat = 0 := by omega
      exact ⟨UInt8.toNat_inj.mp hlo, UInt8.toNat_inj.mp hhi⟩
    · have := lo.toNat_lt
      have := hi.toNat_lt
      omega
  | case3 m h =>
    rw [ws2s.eq_2 m h]
    exact List.not_mem_nil

theorem cString_ws2s (m : Bytes) : cString (cStr (ws2s m)) = ws2s m := by
  have hpos : ∀ b ∈ ws2s m, decide (b ≠ 0) = true := by
    intro b hb
    rw [decide_eq_true_iff]
    rintro rfl
    exact zero_not_mem_ws2s m hb
  unfold cStr cString
  rw [List.takeWhile_append_of_pos hpos]
  simp

/-! ## The route of an open -/

/-- The tests of a call come from the registry. -/
def TestedBy (R : Registry) (page : AnsiPage) (buf : Bytes) (rec : CallRecord d) : Prop :=
  ∀ name b n, ⟨.isBixolonPrinterByName name, b, n⟩ ∈ rec.trace →
    ∃ tr s', (regTest buf name).RunsIn (R.env page) [] tr (.ok b) s'

/-- With the connection up the call goes to the server: no local function is called, and the
request is sent unless the detour reads through a NULL pointer first. -/
def Forwards (d : Deployment) (R : Registry) (page : AnsiPage) (buf : Bytes)
    (c : SpoolCall (HANDLE d.client)) : Prop :=
  ∀ (W W' : World d) (rec : CallRecord d), rec.call = c → HostStep detour W rec W' →
    Up W.server.pid rec → TestedBy R page buf rec →
    localCalls rec.trace = [] ∧ (c.request ≠ none → requests rec.trace ≠ [])

/-- The first operations of an open with a name. -/
theorem HostStep.tested {W W' : World d} {rec : CallRecord d} {name : Bytes}
    (h : HostStep detour W rec W') (hup : Up W.server.pid rec)
    (hname : rec.call.testedName = some name) :
    ∃ b n n' tr, rec.trace =
        ⟨.ensure_connection, true, n⟩ :: ⟨.isBixolonPrinterByName name, b, n'⟩ :: tr := by
  obtain ⟨c, tr, r⟩ := rec
  cases c with
  | OpenPrinterA p ph pd =>
    cases p with
    | none => cases hname
    | some m =>
      cases hname
      obtain ⟨up, n, W₁, tr₁, -, rfl, hrest⟩ := h
      obtain rfl : up = true := (hup _ List.mem_cons_self).2
      obtain ⟨b, n', W₂, tr₂, -, rfl, -⟩ := hrest
      exact ⟨b, n, n', tr₂, rfl⟩
  | OpenPrinterW p ph pd =>
    cases p with
    | none => cases hname
    | some m =>
      cases hname
      obtain ⟨up, n, W₁, tr₁, -, rfl, hrest⟩ := h
      obtain rfl : up = true := (hup _ List.mem_cons_self).2
      obtain ⟨b, n', W₂, tr₂, -, rfl, -⟩ := hrest
      rw [← cString_ws2s]
      exact ⟨b, n, n', tr₂, rfl⟩
  | StartPagePrinter | StartDocPrinterW | WritePrinter => cases hname
  | EndPagePrinter | EndDocPrinter | ClosePrinter => cases hname

/-- The test that a course starts with is the one that was seen. -/
theorem Tests.outcome {W W₁ : World d} {c : SpoolCall (HANDLE d.client)} {t l tr : Trace d}
    {b b' : Bool} {name : Bytes} {n n' : Served d} (ht : Tests W c t b' W₁)
    (he : t ++ l = ⟨.ensure_connection, true, n⟩ :: ⟨.isBixolonPrinterByName name, b, n'⟩ :: tr)
    (hl : ∀ l', l ≠ ⟨.isBixolonPrinterByName name, b, n'⟩ :: l') : b' = b := by
  cases ht with
  | down hup => cases he
  | noName hc hup => exact absurd (List.cons.inj he).2 (hl tr)
  | byName hc hup hb =>
    cases he
    rfl
  | byHandle hc hup hb => cases he

/-- The local function is called just if the test fails. -/
theorem Course.local_iff {W W' : World d} {c : SpoolCall (HANDLE d.client)} {t tr : Trace d}
    {r : Except Abnormal c.Ret} (h : Course W c t r W') {name : Bytes} {b : Bool} {n n' : Served d}
    (he : t = ⟨.ensure_connection, true, n⟩ :: ⟨.isBixolonPrinterByName name, b, n'⟩ :: tr) :
    localCalls t = [] ↔ b = true := by
  cases h with
  | bypass ht hc =>
    obtain rfl := ht.outcome he (by simp)
    refine iff_of_false ?_ Bool.false_ne_true
    rw [localCalls_append, ht.quiet.2.2.2.1]
    exact List.cons_ne_nil _ _
  | unread ht hq =>
    obtain rfl := ht.outcome ((List.append_nil t).trans he) (by simp)
    exact iff_of_true ht.quiet.2.2.2.1 rfl
  | failed ht hq hp ha =>
    obtain rfl := ht.outcome he (by simp)
    refine iff_of_true ?_ rfl
    rw [localCalls_append, ht.quiet.2.2.2.1]
    rfl
  | answered ht hq hp ha hg hr =>
    obtain rfl := ht.outcome he (by simp)
    refine iff_of_true ?_ rfl
    rw [localCalls_append, ht.quiet.2.2.2.1]
    rfl
  | opened ht hq hc ha hg hb hr =>
    obtain rfl := ht.outcome he (by simp)
    refine iff_of_true ?_ rfl
    rw [localCalls_append, ht.quiet.2.2.2.1]
    rfl
  | closing ht hc hl ha hr =>
    obtain rfl := ht.outcome he (by simp)
    refine iff_of_true ?_ rfl
    rw [localCalls_append, ht.quiet.2.2.2.1]
    rfl

/-- A call that goes to no local function sends its request, if it has one. -/
theorem HostStep.requests_ne_nil {W W' : World d} {rec : CallRecord d}
    (h : HostStep detour W rec W') (hl : localCalls rec.trace = [])
    (hq : rec.call.request ≠ none) : requests rec.trace ≠ [] := by
  have hsent : ∀ {q a n S S'}, Sent W rec.call rec.trace W' q a n S S' →
      requests rec.trace ≠ [] := by
    intro q a n S S' hsent hnil
    rw [hsent.requests] at hnil
    cases hnil
  cases h.effect with
  | bypass v hr hbx hsp hserver hgrants hremovals hrequests hlocal hopens hserved hwhy =>
    rw [hlocal] at hl
    cases hl
  | unread hr hnone htracked hm hgrants hremovals hrequests hlocal hopens hserved =>
    exact absurd hnone hq
  | asked q a n S S' hs => exact hsent hs
  | opened q a n S S' x hs => exact hsent hs
  | closed x a n S S' hc hs => exact hsent hs

/-- What is observed of an open that the registry sends to the local function. -/
def bypassRecord (W : World d) (c : SpoolCall (HANDLE d.client)) (name : Bytes) (r : c.Ret) :
    CallRecord d where
  call := c
  trace := [⟨.ensure_connection, true, W.idle⟩, ⟨.isBixolonPrinterByName name, false, W.idle⟩,
    ⟨.original c, r, W.idle⟩]
  result := .ok r

theorem hostStep_bypass {W : World d} {c : SpoolCall (HANDLE d.client)} {name : Bytes} {r : c.Ret}
    (hc : W.connected ≠ none) (hname : c.testedName = some name)
    (hr : W.winspool.Answers c r W.winspool) :
    HostStep detour W (bypassRecord W c name r) W := by
  have hcall : (fpOriginal c).RunsIn World.env W [⟨.original c, r, W.idle⟩] (.ok r) W :=
    fpOriginal_run hr
  cases c with
  | OpenPrinterA p ph pd =>
    cases p with
    | none => cases hname
    | some m =>
      cases hname
      exact .next (World.env_connected hc) (.next (World.env_named W _ false) hcall)
  | OpenPrinterW p ph pd =>
    cases p with
    | none => cases hname
    | some m =>
      cases hname
      rw [← cString_ws2s]
      exact .next (World.env_connected hc) (.next (World.env_named W _ false) hcall)
  | StartPagePrinter | StartDocPrinterW | WritePrinter => cases hname
  | EndPagePrinter | EndDocPrinter | ClosePrinter => cases hname

theorem up_bypassRecord (W : World d) (c : SpoolCall (HANDLE d.client)) (name : Bytes)
    (r : c.Ret) : Up W.server.pid (bypassRecord W c name r) := by
  intro o ho
  simp only [bypassRecord, List.mem_cons, List.not_mem_nil, or_false] at ho
  rcases ho with rfl | rfl | rfl
  · exact ⟨rfl, rfl⟩
  · exact ⟨rfl, trivial⟩
  · exact ⟨rfl, trivial⟩

/-- An open can always fail. -/
theorem open_fails {H : Type} [DecidableEq H] (s : Spooler H) {c : SpoolCall H} {name : Bytes}
    (hname : c.testedName = some name) : ∃ r, s.Answers c r s := by
  cases c with
  | OpenPrinterA p ph pd => exact ⟨⟨0, none⟩, Or.inl ⟨rfl, rfl, rfl⟩⟩
  | OpenPrinterW p ph pd => exact ⟨⟨0, none⟩, Or.inl ⟨rfl, rfl, rfl⟩⟩
  | StartPagePrinter | StartDocPrinterW | WritePrinter => cases hname
  | EndPagePrinter | EndDocPrinter | ClosePrinter => cases hname

/-- An open forwards just if the registry says that its printer has a `bixolon` driver. -/
theorem forwards_iff {R : Registry} {page : AnsiPage} {buf : Bytes}
    {c : SpoolCall (HANDLE d.client)} (name : Bytes) (hname : c.testedName = some name) :
    Forwards d R page buf c ↔ R.hasDriver page buf name = true := by
  constructor
  · intro hforward
    by_contra hdriver
    obtain ⟨r, hr⟩ := open_fails (connectedWorld d).winspool hname
    have hstep : HostStep detour (connectedWorld d) (bypassRecord (connectedWorld d) c name r)
        (connectedWorld d) := hostStep_bypass (by simp [connectedWorld]) hname hr
    have htested : TestedBy R page buf (bypassRecord (connectedWorld d) c name r) := by
      intro name' b n ho
      simp only [bypassRecord, List.mem_cons, List.not_mem_nil, or_false] at ho
      rcases ho with ho | ho | ho
      · cases ho
      · cases ho
        obtain ⟨tr, v, s', hrun⟩ := regTest_run R page buf name
        rw [regTest_runsIn hrun, Bool.eq_false_iff.mpr hdriver] at hrun
        exact ⟨tr, s', hrun⟩
      · cases ho
    have hlocal := (hforward _ _ _ rfl hstep (up_bypassRecord _ c name r) htested).1
    cases hlocal
  · rintro hdriver W W' rec rfl hstep hup htested
    obtain ⟨b, n, n', tr, htr⟩ := hstep.tested hup hname
    obtain ⟨tr', s', hrun⟩ := htested name b n' (by rw [htr]; simp)
    have hb : b = true := by
      have := regTest_runsIn hrun
      cases this
      exact hdriver
    have hlocal := ((detour_course hstep).local_iff htr).mpr hb
    exact ⟨hlocal, hstep.requests_ne_nil hlocal⟩

/-! ## The two opens of one printer -/

/-- The two opens of a printer take one route in every registry just if its ANSI name and its
UTF-8 name are one name in the code page. -/
theorem opens_take_one_route_just_if_the_names_are_one (d : Deployment) (page : AnsiPage)
    (a w : Bytes) (ph ph' : Bool) (pd pd' : Option PRINTER_DEFAULTS) :
    (∀ (R : Registry) (buf : Bytes),
      Forwards d R page buf (.OpenPrinterA (some a) ph pd) ↔
        Forwards d R page buf (.OpenPrinterW (some w) ph' pd')) ↔
      page.key (printersKey ++ cString a) = page.key (printersKey ++ ws2s w) := by
  constructor
  · intro hroute
    by_contra hne
    -- a registry with the ANSI name only
    let R : Registry := fun k =>
      if k = page.key (printersKey ++ cString a) then some (some bixolon) else none
    have hA : Forwards d R page [] (.OpenPrinterA (some a) ph pd) := by
      rw [forwards_iff (cString a) rfl]
      simp only [Registry.hasDriver, R, if_true]
      decide
    have hW := (hroute R []).mp hA
    rw [forwards_iff (ws2s w) rfl] at hW
    simp [Registry.hasDriver, R, Ne.symm hne] at hW
  · intro hkey R buf
    rw [forwards_iff (cString a) rfl, forwards_iff (ws2s w) rfl]
    unfold Registry.hasDriver
    rw [hkey]

/-- The units of a wide string. -/
def wideUnits : Bytes → List Nat
  | lo :: hi :: rest =>
    if lo = 0 ∧ hi = 0 then [] else (lo.toNat + 256 * hi.toNat) :: wideUnits rest
  | _ => []

/-- The UTF-8 bytes of an ASCII name are its characters, so they are its ANSI name. -/
theorem ascii_names_are_one {page : AnsiPage} {a w : Bytes} (hw : ∀ u ∈ wideUnits w, u < 0x80)
    (ha : cString a = (wideUnits w).map UInt8.ofNat) :
    page.key (printersKey ++ cString a) = page.key (printersKey ++ ws2s w) := by
  have hutf8 : ws2s w = (wideUnits w).map UInt8.ofNat := by
    clear ha
    induction w using ws2s.induct with
    | case1 lo hi rest h => simp [ws2s, wideUnits, h]
    | case2 lo hi rest h ih =>
      rw [wideUnits, if_neg h] at hw ⊢
      rw [ws2s, if_neg h, ih fun u hu => hw u (List.mem_cons_of_mem _ hu), List.map_cons]
      unfold utf8OfUnit
      rw [if_pos (hw _ List.mem_cons_self)]
      rfl
    | case3 m h => rw [ws2s.eq_2 m h, wideUnits.eq_2 m h, List.map_nil]
  rw [ha, hutf8]

/-- A code page in which each byte is the unit of its value, as it is for the letters of Windows
1252 from 0xA0 on. -/
def latin1 : AnsiPage where
  decode := List.map UInt8.toNat
  upcase := id

/-- The name `é` takes two routes. -/
theorem an_accent_takes_another_route :
    ¬ ∀ (d : Deployment) (page : AnsiPage) (a w : Bytes), page.decode (cString a) = wideUnits w →
      ∀ (R : Registry) (buf : Bytes) (ph ph' : Bool) (pd pd' : Option PRINTER_DEFAULTS),
        Forwards d R page buf (.OpenPrinterA (some a) ph pd) ↔
          Forwards d R page buf (.OpenPrinterW (some w) ph' pd') := by
  intro law
  have hroute := law x86Deployment latin1 [0xE9, 0] [0xE9, 0, 0, 0] (by decide)
    (fun k => if k = latin1.key (printersKey ++ [0xE9]) then some (some bixolon) else none) []
    true true none none
  rw [forwards_iff [0xE9] (by decide), forwards_iff [0xC3, 0xA9] (by decide)] at hroute
  revert hroute
  decide

end RemotePrinter
