-- When a detour returns to the host, and when an exception leaves it. No detour
-- catches what its call throws, so a forwarded call returns just if the network
-- takes the whole request and delivers a reply with a result.
import RemotePrinter.Courses
import RemotePrinter.HookTable
import RemotePrinter.Sending
import RemotePrinter.Receiving

open Interactive

namespace RemotePrinter

/-! ## When a call gets its result -/

/-- The network takes the whole request, and delivers a reply with a result. -/
structure Link.Answers (s : Link) (q : Request) : Prop where
  unlimited : ¬ q.Limited s
  taken : (s.wBuf ++ q.encoding).length ≤ room s.sends
  reply : ∃ v rest, q.reply s.stream = .done v rest

/-- A request is sent just if the network has room for it. -/
theorem send_ok_iff {s : Link} (hopen : s.isOpen = true) (q : Request) :
    (q.send s).1 = .ok () ↔ ¬ q.Limited s ∧ (s.wBuf ++ q.encoding).length ≤ room s.sends := by
  have hspec := send_spec hopen q
  cases hrun : q.send s with
  | mk r s' =>
    rw [hrun] at hspec
    cases hspec with
    | ok t sent left hfull hsplit hroom =>
      have hempty : left = [] := send_wBuf hopen hrun
      rw [hempty, List.append_nil] at hsplit
      refine iff_of_true rfl ⟨hfull, ?_⟩
      rw [← hsplit, hroom]
      exact Nat.le_add_right _ _
    | limit x d t sent left hlimit =>
      refine iff_of_false (by simp) ?_
      rintro ⟨hfull, -⟩
      exact hfull hlimit
    | stop e o fs d t sent left hstop hsent hroom hkept =>
      refine iff_of_false (by simp) ?_
      rintro ⟨-, hle⟩
      omega

/-- What a request that is sent leaves for the reading of its reply. -/
theorem send_ok_rest {s s' : Link} (hopen : s.isOpen = true) {q : Request}
    (hrun : q.send s = (.ok (), s')) : s'.isOpen = true ∧ s'.stream = s.stream := by
  have hspec := send_spec hopen q
  rw [hrun] at hspec
  cases hspec
  exact ⟨hopen, rfl⟩

theorem api_ok_iff {s : Link} (hopen : s.isOpen = true) (q : Request) :
    (∃ v, (q.api s).1 = .ok v) ↔ s.Answers q := by
  unfold Request.api
  rw [Action.bind_run]
  have hsend := send_ok_iff hopen q
  cases hrun : q.send s with
  | mk r s' =>
    rw [hrun] at hsend
    cases r with
    | ok u =>
      obtain ⟨hopen', hstream⟩ := send_ok_rest hopen hrun
      obtain ⟨hfull, htaken⟩ := hsend.mp rfl
      simp only [receive_ok_iff hopen', hstream]
      constructor
      · rintro ⟨v, rest, hreply⟩
        exact ⟨hfull, htaken, v, rest, hreply⟩
      · rintro ⟨-, -, v, rest, hreply⟩
        exact ⟨v, rest, hreply⟩
    | error e =>
      constructor
      · rintro ⟨v, hv⟩
        cases hv
      · intro hans
        cases hsend.mpr ⟨hans.unlimited, hans.taken⟩

/-- The record of the requests plays no part in it. -/
theorem call_ok_iff {s : Link} (hopen : s.isOpen = true) (q : Request) :
    (∃ v, (q.call s).1 = .ok v) ↔ s.Answers q := by
  have happ := api_ok_iff (s := s.issue q) hopen q
  have hsame : (s.issue q).Answers q ↔ s.Answers q :=
    ⟨fun h => ⟨h.unlimited, h.taken, h.reply⟩, fun h => ⟨h.unlimited, h.taken, h.reply⟩⟩
  rw [← hsame, ← happ]
  exact Iff.rfl

/-! ## The process of the host -/

/-- What the detours of one process look at: the connection, the tracked handles, and the answers
of the functions that are not the client's own. -/
structure HostProcess (w : PtrWidth) where
  link : Link
  bxprinters : List (HANDLE w)
  isBixolonPrinterByName : Bytes → Bool
  original : (c : SpoolCall (HANDLE w)) → c.Ret
  files : Bytes → Option Bytes

section
variable {w : PtrWidth} {α β : Type}

/-- One operation of a detour. A call that waits for ever has no answer. -/
def HostProcess.act : (op : ClientOp w) → HostProcess w → Option op.Answer × HostProcess w
  | .ensure_connection, H =>
    match thriftlink_client.ensure_connection H.link with
    | (.ok b, l) => (some b, { H with link := l })
    | (.error _, l) => (none, { H with link := l })
  | .isBixolonPrinterByName name, H => (some (H.isBixolonPrinterByName name), H)
  | .isBixolonPrinterByHandle h, H =>
    (some (bxprinters.isBixolonPrinterByHandle H.bxprinters h), H)
  | .addBixolonPrinter h, H =>
    (some (bxprinters.addBixolonPrinter H.bxprinters h).1,
      { H with bxprinters := (bxprinters.addBixolonPrinter H.bxprinters h).2 })
  | .closeBixolonPrinter h, H =>
    (some (), { H with bxprinters := bxprinters.closeBixolonPrinter H.bxprinters h })
  | .original c, H => (some (H.original c), H)
  | .api q, H =>
    match q.call H.link with
    | (.ok v, l) => (some (.ok v), { H with link := l })
    | (.error (.thrown x), l) => (some (.error x), { H with link := l })
    | (.error .blocked, l) => (none, { H with link := l })
  | .read_from_file path, H => (some (H.files path), H)

/-- The program comes to its end with a value. -/
def Returns (p : Client w α) (H : HostProcess w) : Prop :=
  ∃ v H', p.exec HostProcess.act H = (some (.ok v), H')

theorem returns_done (a : α) (H : HostProcess w) : Returns (Prog.done a) H := ⟨a, H, rfl⟩

theorem not_returns_fail (x : Abnormal) (H : HostProcess w) :
    ¬ Returns (Prog.fail x : Client w α) H := by
  rintro ⟨v, H', h⟩
  cases h

theorem returns_original (c : SpoolCall (HANDLE w)) (H : HostProcess w) :
    Returns (fpOriginal c) H := ⟨H.original c, H, rfl⟩

/-- A call that is forwarded from an open connection. -/
theorem returns_api {q : Request} {k : q.Result → Client w α} {H : HostProcess w}
    (hopen : H.link.isOpen = true) (hk : ∀ v H', Returns (k v) H') :
    Returns (api q >>= k) H ↔ H.link.Answers q := by
  rw [← call_ok_iff hopen q]
  have hexec : (api q >>= k).exec HostProcess.act H =
      match q.call H.link with
      | (.ok v, l) => (k v).exec HostProcess.act { H with link := l }
      | (.error (.thrown x), l) => (some (.error (.thrown x)), { H with link := l })
      | (.error .blocked, l) => (none, { H with link := l }) := by
    unfold api
    rw [Prog.call_bind, Prog.exec_call]
    unfold HostProcess.act
    simp only
    generalize q.call H.link = out
    obtain ⟨r, l⟩ := out
    rcases r with (x | _) | v <;> rfl
  unfold Returns
  rw [hexec]
  generalize q.call H.link = out
  obtain ⟨r, l⟩ := out
  rcases r with (x | _) | v
  · exact iff_of_false (by simp) (by simp)
  · exact iff_of_false (by simp) (by simp)
  · refine iff_of_true ?_ ⟨v, rfl⟩
    obtain ⟨a, H', ha⟩ := hk v { H with link := l }
    exact ⟨a, H', ha⟩

end

/-! ## When a call is forwarded -/

/-- `ensure_connection` finds the connection open, or opens it. -/
def Link.Reachable (s : Link) : Prop :=
  s.created = true ∧ (s.isOpen = true ∨ ∃ rest, s.connects = true :: rest)

/-- The connection `l` is open, and gets the same answers. -/
def Link.OpenFrom (s l : Link) : Prop := l.isOpen = true ∧ ∀ q, l.Answers q ↔ s.Answers q

theorem ensure_reachable {s : Link} (h : s.Reachable) :
    ∃ l, thriftlink_client.ensure_connection s = (.ok true, l) ∧ s.OpenFrom l := by
  have hspec := thriftlink_client.ensure_connection_spec s
  rcases hspec with ⟨hnot, -⟩ | ⟨-, hopen, hrun⟩ | ⟨-, hclosed, hspec⟩
  · rw [h.1] at hnot
    cases hnot
  · exact ⟨s, hrun, hopen, fun q => Iff.rfl⟩
  · rcases h.2 with hopen | ⟨rest, hnext⟩
    · rw [hclosed] at hopen
      cases hopen
    · generalize thriftlink_client.ensure_connection s = out at hspec
      obtain ⟨r, l⟩ := out
      cases hspec with
      | opened rest' _ =>
        refine ⟨_, rfl, rfl, fun q => ?_⟩
        exact ⟨fun ha => ⟨ha.unlimited, ha.taken, ha.reply⟩,
          fun ha => ⟨ha.unlimited, ha.taken, ha.reply⟩⟩
      | refused rest' hno =>
        rw [hnext] at hno
        rcases hno with hno | ⟨hno, -⟩ <;> cases hno

theorem ensure_unreachable {s : Link} (h : ¬ s.Reachable) :
    ∃ l, thriftlink_client.ensure_connection s = (.ok false, l) := by
  have hspec := thriftlink_client.ensure_connection_spec s
  rcases hspec with ⟨-, hrun⟩ | ⟨hcreated, hopen, -⟩ | ⟨hcreated, -, hspec⟩
  · exact ⟨s, hrun⟩
  · exact absurd ⟨hcreated, Or.inl hopen⟩ h
  · generalize thriftlink_client.ensure_connection s = out at hspec
    obtain ⟨r, l⟩ := out
    cases hspec with
    | opened rest hnext => exact absurd ⟨hcreated, Or.inr ⟨rest, hnext⟩⟩ h
    | refused rest hno => exact ⟨_, rfl⟩

section
variable {w : PtrWidth} {α : Type}

/-- The process with its connection open. -/
def HostProcess.OpenFrom (H H' : HostProcess w) : Prop :=
  H.link.OpenFrom H'.link ∧ H' = { H with link := H'.link }

theorem returns_ensure {f : Bool → Client w α} {H : HostProcess w} {P : Prop}
    (hyes : ∀ H', H.OpenFrom H' → (Returns (f true) H' ↔ P))
    (hno : ∀ H', Returns (f false) H') :
    Returns (ensure_connection >>= f) H ↔ ¬ H.link.Reachable ∨ P := by
  have hexec : (ensure_connection >>= f).exec HostProcess.act H =
      match thriftlink_client.ensure_connection H.link with
      | (.ok b, l) => (f b).exec HostProcess.act { H with link := l }
      | (.error _, l) => (none, { H with link := l }) := by
    unfold ensure_connection
    rw [Prog.perform_bind, Prog.exec_call]
    unfold HostProcess.act
    simp only
    generalize thriftlink_client.ensure_connection H.link = out
    obtain ⟨r, l⟩ := out
    cases r <;> rfl
  unfold Returns
  rw [hexec]
  by_cases hreach : H.link.Reachable
  · obtain ⟨l, hrun, hopen⟩ := ensure_reachable hreach
    rw [hrun]
    have hforward := hyes { H with link := l } ⟨hopen, rfl⟩
    constructor
    · intro h
      exact Or.inr (hforward.mp h)
    · rintro (h | h)
      · exact absurd hreach h
      · exact hforward.mpr h
  · obtain ⟨l, hrun⟩ := ensure_unreachable hreach
    rw [hrun]
    exact iff_of_true (hno _) (Or.inl hreach)

theorem returns_byHandle {f : Bool → Client w α} {H : HostProcess w} {h : HANDLE w} {P : Prop}
    (hyes : Returns (f true) H ↔ P) (hno : Returns (f false) H) :
    Returns (isBixolonPrinterByHandle h >>= f) H ↔ h ∉ H.bxprinters ∨ P := by
  have hexec : (isBixolonPrinterByHandle h >>= f).exec HostProcess.act H =
      (f (bxprinters.isBixolonPrinterByHandle H.bxprinters h)).exec HostProcess.act H := by
    unfold isBixolonPrinterByHandle
    rw [Prog.perform_bind, Prog.exec_call]
    rfl
  unfold Returns
  rw [hexec]
  cases htest : bxprinters.isBixolonPrinterByHandle H.bxprinters h with
  | true =>
    have hmem := (bxprinters.isBixolonPrinterByHandle_iff _ _).mp htest
    rw [or_iff_right (not_not.mpr hmem)]
    exact hyes
  | false =>
    have hmem : h ∉ H.bxprinters := by
      intro hm
      rw [(bxprinters.isBixolonPrinterByHandle_iff _ _).mpr hm] at htest
      cases htest
    exact iff_of_true hno (Or.inl hmem)

theorem returns_byName {f : Bool → Client w α} {H : HostProcess w} {name : Option Bytes}
    {P : Prop} (hyes : Returns (f true) H ↔ P) (hno : Returns (f false) H) :
    Returns (isBixolonPrinterByName name >>= f) H ↔
      (¬ ∃ m, name = some m ∧ H.isBixolonPrinterByName (cString m) = true) ∨ P := by
  cases name with
  | none => exact iff_of_true hno (Or.inl (by simp))
  | some m =>
    have hexec : (isBixolonPrinterByName (some m) >>= f).exec HostProcess.act H =
        (f (H.isBixolonPrinterByName (cString m))).exec HostProcess.act H := by
      unfold isBixolonPrinterByName
      rw [Prog.perform_bind, Prog.exec_call]
      rfl
    unfold Returns
    rw [hexec]
    cases htest : H.isBixolonPrinterByName (cString m) with
    | true =>
      have hex : ∃ m', some m = some m' ∧ H.isBixolonPrinterByName (cString m') = true :=
        ⟨m, rfl, htest⟩
      rw [or_iff_right (not_not.mpr hex)]
      exact hyes
    | false =>
      refine iff_of_true hno (Or.inl ?_)
      rintro ⟨m', hm, ht⟩
      cases hm
      rw [htest] at ht
      cases ht

theorem returns_forwardOr {h : HANDLE w} {forward bypass : Client w α} {H : HostProcess w}
    {P : Prop} (hforward : ∀ H', H.OpenFrom H' → (Returns forward H' ↔ P))
    (hbypass : ∀ H', Returns bypass H') :
    Returns (forwardOr h forward bypass) H ↔
      ¬ (H.link.Reachable ∧ h ∈ H.bxprinters) ∨ P := by
  have hsteps := returns_ensure (f := fun b =>
    if b then isBixolonPrinterByHandle h >>= fun t => if t then forward else bypass else bypass)
    (H := H) (P := h ∉ H.bxprinters ∨ P) ?_ hbypass
  · rw [not_and_or, or_assoc]
    exact hsteps
  · intro H' hfrom
    have hsame : H'.bxprinters = H.bxprinters := by rw [hfrom.2]
    rw [← hsame]
    exact returns_byHandle (f := fun t => if t then forward else bypass) (hforward H' hfrom)
      (hbypass H')

/-- A request and a result that is made of its answer. -/
theorem returns_request {q : Request} {k : q.Result → Client w α} {s : Link} {H' : HostProcess w}
    (hfrom : s.OpenFrom H'.link) (hk : ∀ v H'', Returns (k v) H'') :
    Returns (api q >>= k) H' ↔ s.Answers q :=
  (returns_api hfrom.1 hk).trans (hfrom.2 q)

theorem returns_api_only {q : Request} {s : Link} {H' : HostProcess w}
    (hfrom : s.OpenFrom H'.link) : Returns (api q) H' ↔ s.Answers q := by
  have h := returns_request (q := q) (k := Prog.done) hfrom fun v H'' => returns_done v H''
  rw [Prog.bind_done] at h
  exact h

theorem returns_openResult (ph : Bool) (ret : StdMap I64) (H : HostProcess w) :
    Returns (openResult (w := w) ph ret) H := by
  unfold openResult
  simp only
  split
  · exact ⟨_, _, rfl⟩
  · exact ⟨_, _, rfl⟩

/-! ## The spooler detours -/

/-- The printer or the handle of the call is a remote one. -/
def HostProcess.Remote (H : HostProcess w) : SpoolCall (HANDLE w) → Prop
  | .OpenPrinterA name _ _ => ∃ m, name = some m ∧ H.isBixolonPrinterByName (cString m) = true
  | .OpenPrinterW name _ _ =>
    ∃ m, name = some m ∧ H.isBixolonPrinterByName (cString (cStr (ws2s m))) = true
  | c => ∃ h ∈ H.bxprinters, c.handle = some h

/-- There is no request without the bytes that it would be made of. -/
def SpoolCall.Answered (c : SpoolCall (HANDLE w)) (s : Link) : Prop :=
  ∃ q, c.request = some q ∧ s.Answers (.spool q)

theorem answered_iff {c : SpoolCall (HANDLE w)} {q : SpoolRequest} (h : c.request = some q)
    (s : Link) : c.Answered s ↔ s.Answers (.spool q) := by
  unfold SpoolCall.Answered
  rw [h]
  simp

theorem not_answered {c : SpoolCall (HANDLE w)} (h : c.request = none) (s : Link) :
    ¬ c.Answered s := by
  rintro ⟨q, hq, -⟩
  rw [h] at hq
  cases hq

/-- A detour on a handle. -/
theorem returns_onHandle {c : SpoolCall (HANDLE w)} {h : HANDLE w} {forward bypass : Client w α}
    {H : HostProcess w} (hh : c.handle = some h)
    (hremote : H.Remote c = ∃ h ∈ H.bxprinters, c.handle = some h)
    (hforward : ∀ H', H.OpenFrom H' → (Returns forward H' ↔ c.Answered H.link))
    (hbypass : ∀ H', Returns bypass H') :
    Returns (forwardOr h forward bypass) H ↔
      ¬ (H.link.Reachable ∧ H.Remote c) ∨ c.Answered H.link := by
  have htracked : H.Remote c ↔ h ∈ H.bxprinters := by
    rw [hremote, hh]
    simp
  rw [htracked]
  exact returns_forwardOr hforward hbypass

/-- An open. -/
theorem returns_onName {c : SpoolCall (HANDLE w)} (name : Option Bytes)
    {forward bypass : Client w α} {H : HostProcess w}
    (hremote : H.Remote c ↔ ∃ m, name = some m ∧ H.isBixolonPrinterByName (cString m) = true)
    (hforward : ∀ H', H.OpenFrom H' → (Returns forward H' ↔ c.Answered H.link))
    (hbypass : ∀ H', Returns bypass H') :
    Returns (ensure_connection >>= fun b =>
      if b then isBixolonPrinterByName name >>= fun t => if t then forward else bypass
      else bypass) H ↔
      ¬ (H.link.Reachable ∧ H.Remote c) ∨ c.Answered H.link := by
  have hsteps := returns_ensure (f := fun b =>
    if b then isBixolonPrinterByName name >>= fun t => if t then forward else bypass else bypass)
    (H := H) (P := ¬ H.Remote c ∨ c.Answered H.link) ?_ hbypass
  · rw [not_and_or, or_assoc]
    exact hsteps
  · intro H' hfrom
    have hsame : H'.isBixolonPrinterByName = H.isBixolonPrinterByName := by rw [hfrom.2]
    rw [hremote, ← hsame]
    exact returns_byName (f := fun t => if t then forward else bypass) (hforward H' hfrom)
      (hbypass H')

theorem returns_detour (c : SpoolCall (HANDLE w)) (H : HostProcess w) :
    Returns (detour c) H ↔ ¬ (H.link.Reachable ∧ H.Remote c) ∨ c.Answered H.link := by
  have hbypass : ∀ H', Returns (fpOriginal c) H' := fun H' => returns_original c H'
  cases c with
  | OpenPrinterA name ph pd =>
    refine returns_onName name Iff.rfl ?_ hbypass
    intro H' hfrom
    cases pd with
    | none =>
      rw [answered_iff rfl]
      exact returns_request hfrom.1 fun v H'' => returns_openResult ph v H''
    | some pDefault =>
      cases hdt : pDefault.pDatatype with
      | none =>
        simp only [hdt, THRIFT_A_TO_STRING, Prog.fail_bind]
        refine iff_of_false (not_returns_fail _ _) (not_answered ?_ _)
        simp [SpoolCall.request, hdt]
      | some m =>
        simp only [hdt, THRIFT_A_TO_STRING, Prog.pure_eq, Prog.done_bind]
        rw [answered_iff (by simp [SpoolCall.request, hdt]; rfl)]
        exact returns_request hfrom.1 fun v H'' => returns_openResult ph v H''
  | OpenPrinterW name ph pd =>
    refine returns_onName (name.map fun m => cStr (ws2s m)) ?_ ?_ hbypass
    · cases name <;> simp [HostProcess.Remote]
    · intro H' hfrom
      cases pd with
      | none =>
        rw [answered_iff rfl]
        exact returns_request hfrom.1 fun v H'' => returns_openResult ph v H''
      | some pDefault =>
        rw [answered_iff rfl]
        exact returns_request hfrom.1 fun v H'' => returns_openResult ph v H''
  | StartPagePrinter h =>
    refine returns_onHandle rfl rfl (fun H' hfrom => ?_) hbypass
    rw [answered_iff rfl]
    exact returns_request hfrom.1 fun v H'' => returns_done _ H''
  | EndPagePrinter h =>
    refine returns_onHandle rfl rfl (fun H' hfrom => ?_) hbypass
    rw [answered_iff rfl]
    exact returns_request hfrom.1 fun v H'' => returns_done _ H''
  | EndDocPrinter h =>
    refine returns_onHandle rfl rfl (fun H' hfrom => ?_) hbypass
    rw [answered_iff rfl]
    exact returns_request hfrom.1 fun v H'' => returns_done _ H''
  | StartDocPrinterW h level di =>
    refine returns_onHandle rfl rfl (fun H' hfrom => ?_) hbypass
    cases di with
    | none =>
      rw [answered_iff rfl]
      exact returns_api_only hfrom.1
    | some doc =>
      rw [answered_iff rfl]
      exact returns_api_only hfrom.1
  | WritePrinter h buf n pw =>
    refine returns_onHandle rfl rfl (fun H' hfrom => ?_) hbypass
    rw [std_string_ofNat]
    cases buf with
    | some m =>
      rw [answered_iff rfl]
      exact returns_request hfrom.1 fun v H'' => returns_done _ H''
    | none =>
      by_cases hn : n.toNat = 0
      · have hzero : n = 0 := BitVec.eq_of_toNat_eq hn
        subst hzero
        rw [answered_iff rfl]
        exact returns_request hfrom.1 fun v H'' => returns_done _ H''
      · have hpos : n ≠ 0 := by
          rintro rfl
          exact hn rfl
        simp only [hn, if_false, Prog.fail_bind]
        exact iff_of_false (not_returns_fail _ _)
          (not_answered (c := .WritePrinter h none n pw) (if_neg hpos) _)
  | ClosePrinter h =>
    refine returns_onHandle rfl rfl (fun H' hfrom => ?_) hbypass
    rw [answered_iff rfl]
    have hexec : ∀ k : Unit → Client w BOOL, (closeBixolonPrinter h >>= k).exec HostProcess.act H' =
        (k ()).exec HostProcess.act
          { H' with bxprinters := bxprinters.closeBixolonPrinter H'.bxprinters h } := by
      intro k
      unfold closeBixolonPrinter
      rw [Prog.perform_bind, Prog.exec_call]
      rfl
    unfold Returns
    rw [hexec]
    exact returns_request hfrom.1 fun v H'' => returns_done _ H''

/-! ## The detours of the vendor library -/

/-- The bytes of `std::string((char*)p, n)`, if it can be read. -/
def stringBytes (p : Option Bytes) (n : Int) : Option Bytes :=
  if n < 0 then none else if p = none ∧ n ≠ 0 then none else some ((p.getD []).take n.toNat)

/-- The bytes of a file of which the path is not NULL. -/
def fileOf (files : Bytes → Option Bytes) (path : Option Bytes) : Option (Bytes × Bytes) :=
  path.bind fun m => (files (cString m)).map fun data => (cString m, data)

/-- The request that a forwarded call sends. There is none without the bytes that it would be
made of. -/
def UsbCall.request (files : Bytes → Option Bytes) : UsbCall → Option UsbRequest
  | OpenUsbPort m => some (.OpenUsbPort m)
  | CloseUsbPort => some .CloseUsbPort
  | WriteUSB b n => (stringBytes b n.toInt).map fun data => .WriteUSB data n
  | ReadUSB b n => (stringBytes b n.toInt).map fun data => .ReadUSB data n
  | PrintBitmap p => (fileOf files p).map fun f => .PrintBitmap f.1 f.2
  | Print1DBarcode c wi h r b => (b.map cString).map fun data => .Print1DBarcode c wi h r data
  | PrintPDF417 c r wi h e m p =>
    (fileOf files p).map fun f => .PrintPDF417 c r wi h e m f.1 f.2
  | PrintQRCode m s e b => (b.map cString).map fun data => .PrintQRCode m s e data

/-- A call that prints a file is answered 0 if the file cannot be read. -/
def UsbCall.Readable (files : Bytes → Option Bytes) : UsbCall → Prop
  | PrintBitmap p => fileOf files p ≠ none
  | PrintPDF417 _ _ _ _ _ _ p => fileOf files p ≠ none
  | _ => True

def UsbCall.Answered (c : UsbCall) (files : Bytes → Option Bytes) (s : Link) : Prop :=
  ∃ q, c.request files = some q ∧ s.Answers (.usb q)

theorem std_string_cases (p : Option Bytes) (n : Int) :
    (∃ b, stringBytes p n = some b ∧ (std_string p n : Client w Bytes) = .done b) ∨
      stringBytes p n = none ∧ ∃ x, (std_string p n : Client w Bytes) = .fail x := by
  unfold stringBytes std_string
  by_cases hneg : n < 0
  · rw [if_pos hneg, if_pos hneg]
    exact Or.inr ⟨rfl, _, rfl⟩
  · rw [if_neg hneg, if_neg hneg]
    cases p with
    | some m => exact Or.inl ⟨m.take n.toNat, by simp, rfl⟩
    | none =>
      by_cases hn : n = 0
      · exact Or.inl ⟨[], by simp [hn], if_pos hn⟩
      · exact Or.inr ⟨by simp [hn], _, if_neg hn⟩

/-- A request that is made of bytes which may not be there. -/
theorem returns_ofBytes {o : Option Bytes} {p : Client w Bytes} {s : Link} {H' : HostProcess w}
    (hp : (∃ b, o = some b ∧ p = .done b) ∨ o = none ∧ ∃ x, p = .fail x)
    (f : Bytes → UsbRequest) (hfrom : s.OpenFrom H'.link) :
    Returns (p >>= fun b => api (.usb (f b))) H' ↔
      ∃ q, o.map f = some q ∧ s.Answers (.usb q) := by
  rcases hp with ⟨b, rfl, rfl⟩ | ⟨rfl, x, rfl⟩
  · rw [Prog.done_bind, returns_api_only hfrom]
    simp
  · rw [Prog.fail_bind]
    exact iff_of_false (not_returns_fail _ _) (by simp)

theorem a_to_string_cases (b : Option Bytes) :
    (∃ x, b.map cString = some x ∧ (THRIFT_A_TO_STRING b : Client w Bytes) = .done x) ∨
      b.map cString = none ∧ ∃ x, (THRIFT_A_TO_STRING b : Client w Bytes) = .fail x := by
  cases b with
  | some m => exact Or.inl ⟨cString m, rfl, rfl⟩
  | none => exact Or.inr ⟨rfl, _, rfl⟩

/-- A call that prints a file. -/
theorem returns_ofFile {path : Option Bytes} {H H' : HostProcess w} (f : Bytes → Bytes → UsbRequest)
    (hfrom : H.OpenFrom H') :
    Returns (match path with
      | none => return 0
      | some m => do
        match ← read_from_file (cString m) with
        | none => return 0
        | some data => api (.usb (f (cString m) data)) : Client w I32) H' ↔
      ¬ fileOf H.files path ≠ none ∨
        ∃ q, (fileOf H.files path).map (fun x => f x.1 x.2) = some q ∧ H.link.Answers (.usb q) := by
  cases path with
  | none => exact iff_of_true (returns_done _ _) (Or.inl (by simp [fileOf]))
  | some m =>
    have hsame : H'.files = H.files := by rw [hfrom.2]
    have hexec : ∀ k : Option Bytes → Client w I32,
        (read_from_file (cString m) >>= k).exec HostProcess.act H' =
          (k (H.files (cString m))).exec HostProcess.act H' := by
      intro k
      unfold read_from_file
      rw [Prog.perform_bind, Prog.exec_call, ← hsame]
      rfl
    simp only
    unfold Returns
    rw [hexec]
    cases hdata : H.files (cString m) with
    | none => exact iff_of_true (returns_done _ _) (Or.inl (by simp [fileOf, hdata]))
    | some data =>
      have h := returns_api_only (q := .usb (f (cString m) data)) hfrom.1
      have hfile : fileOf H.files (some m) = some (cString m, data) := by simp [fileOf, hdata]
      have hquery : (∃ q, (fileOf H.files (some m)).map (fun x => f x.1 x.2) = some q ∧
          H.link.Answers (.usb q)) ↔ H.link.Answers (.usb (f (cString m) data)) := by
        rw [hfile]
        simp
      rw [or_iff_right (by simp [hfile]), hquery]
      exact h

theorem returns_usb {c : UsbCall} {forward : Client w I32} {H : HostProcess w}
    (hforward : ∀ H', H.OpenFrom H' →
      (Returns forward H' ↔ ¬ c.Readable H.files ∨ c.Answered H.files H.link)) :
    Returns (ensure_connection >>= fun b => if !b then return 0 else forward) H ↔
      ¬ (H.link.Reachable ∧ c.Readable H.files) ∨ c.Answered H.files H.link := by
  have hsteps := returns_ensure (f := fun b => if !b then return 0 else forward) (H := H)
    (P := ¬ c.Readable H.files ∨ c.Answered H.files H.link) hforward fun H' => returns_done _ H'
  rw [not_and_or, or_assoc]
  exact hsteps

theorem returns_usbDetour (c : UsbCall) (H : HostProcess w) :
    Returns (usbDetour c) H ↔
      ¬ (H.link.Reachable ∧ c.Readable H.files) ∨ c.Answered H.files H.link := by
  cases c with
  | OpenUsbPort m =>
    refine returns_usb fun H' hfrom => ?_
    simpa [UsbCall.Readable, UsbCall.Answered, UsbCall.request] using returns_api_only hfrom.1
  | CloseUsbPort =>
    refine returns_usb fun H' hfrom => ?_
    simpa [UsbCall.Readable, UsbCall.Answered, UsbCall.request] using returns_api_only hfrom.1
  | WriteUSB b n =>
    refine returns_usb fun H' hfrom => ?_
    rw [or_iff_right (by simp [UsbCall.Readable])]
    exact returns_ofBytes (std_string_cases b n.toInt) (fun data => .WriteUSB data n) hfrom.1
  | ReadUSB b n =>
    refine returns_usb fun H' hfrom => ?_
    rw [or_iff_right (by simp [UsbCall.Readable])]
    exact returns_ofBytes (std_string_cases b n.toInt) (fun data => .ReadUSB data n) hfrom.1
  | PrintBitmap p =>
    refine returns_usb fun H' hfrom => ?_
    exact returns_ofFile (fun x data => .PrintBitmap x data) hfrom
  | Print1DBarcode c wi h r b =>
    refine returns_usb fun H' hfrom => ?_
    rw [or_iff_right (by simp [UsbCall.Readable])]
    exact returns_ofBytes (a_to_string_cases b) (fun data => .Print1DBarcode c wi h r data) hfrom.1
  | PrintPDF417 c r wi h e m p =>
    refine returns_usb fun H' hfrom => ?_
    exact returns_ofFile (fun x data => .PrintPDF417 c r wi h e m x data) hfrom
  | PrintQRCode m s e b =>
    refine returns_usb fun H' hfrom => ?_
    rw [or_iff_right (by simp [UsbCall.Readable])]
    exact returns_ofBytes (a_to_string_cases b) (fun data => .PrintQRCode m s e data) hfrom.1

/-! ## All detours -/

/-- The call goes to the server if there is a connection. -/
def HostProcess.Forwards (H : HostProcess w) : HostCall w → Prop
  | .spool c => H.link.Reachable ∧ H.Remote c
  | .usb c => H.link.Reachable ∧ c.Readable H.files

/-- The network takes the whole request of the call, and delivers a reply with a result. -/
def HostProcess.Answers (H : HostProcess w) : HostCall w → Prop
  | .spool c => c.Answered H.link
  | .usb c => c.Answered H.files H.link

/-- A detour returns just if its call is not forwarded, or if it gets its reply. -/
theorem a_detour_returns_just_if_its_call_is_answered (c : HostCall w) (H : HostProcess w) :
    Returns c.detour H ↔ ¬ H.Forwards c ∨ H.Answers c := by
  cases c with
  | spool c => exact returns_detour c H
  | usb c => exact returns_usbDetour c H

end

/-- The table entry of a function. -/
def HostCall.hookItem {w : PtrWidth} : HostCall w → HOOK_ITEM_FUNC
  | .spool c => { moduleName := .WINSPOOL_DRV, procName := c.proc }
  | .usb (.OpenUsbPort _) => { moduleName := .BXLPDIR_DLL, procName := .OpenUsbPort }
  | .usb .CloseUsbPort => { moduleName := .BXLPDIR_DLL, procName := .CloseUsbPort }
  | .usb (.WriteUSB ..) => { moduleName := .BXLPDIR_DLL, procName := .WriteUSB }
  | .usb (.ReadUSB ..) => { moduleName := .BXLPDIR_DLL, procName := .ReadUSB }
  | .usb (.PrintBitmap _) => { moduleName := .BXLPDIR_DLL, procName := .PrintBitmap }
  | .usb (.Print1DBarcode ..) => { moduleName := .BXLPDIR_DLL, procName := .Print1DBarcode }
  | .usb (.PrintPDF417 ..) => { moduleName := .BXLPDIR_DLL, procName := .PrintPDF417 }
  | .usb (.PrintQRCode ..) => { moduleName := .BXLPDIR_DLL, procName := .PrintQRCode }

/-- A host with one remote handle. The server has closed the connection. -/
def closedPeer : HostProcess .x86 where
  link := { created := true, isOpen := true, sends := [.took 511], recvs := [.fails .closed] }
  bxprinters := [1]
  isBixolonPrinterByName := fun _ => false
  original
    | .OpenPrinterA .. => { ret := 0, phPrinter := none }
    | .OpenPrinterW .. => { ret := 0, phPrinter := none }
    | .StartPagePrinter _ => 0
    | .StartDocPrinterW .. => 0
    | .WritePrinter .. => { ret := 0, pcWritten := 0 }
    | .EndPagePrinter _ => 0
    | .EndDocPrinter _ => 0
    | .ClosePrinter _ => 0
  files := fun _ => none

theorem closedPeer_exec :
    ((HostCall.spool (w := .x86) (.EndPagePrinter 1)).detour.exec HostProcess.act closedPeer).1 =
      some (.error (.thrown (.TTransportException .END_OF_FILE))) := by
  decide +kernel

/-- When the server has closed the connection, an exception leaves the detour. -/
theorem an_exception_can_leave_a_detour :
    ¬ ∀ (c : HostCall .x86) (H : HostProcess .x86), c.hookItem ∈ _hook_items →
      Returns c.detour H := by
  intro law
  obtain ⟨v, H', hrun⟩ := law (.spool (.EndPagePrinter 1)) closedPeer
    (by simp [HostCall.hookItem, _hook_items])
  have hthrown := closedPeer_exec
  rw [hrun] at hthrown
  cases hthrown

end RemotePrinter
