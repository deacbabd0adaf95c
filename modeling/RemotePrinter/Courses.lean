-- The courses that a call of the host can take through its detour, with every
-- operation and every state on the way. The laws of the runs are proved from
-- these courses, and never look into the detours again.
import RemotePrinter.World

open Interactive

namespace RemotePrinter

variable {d : Deployment}

/-! ## The tests at the head of a detour -/

/-- The operations of the tests, and whether the call is to be forwarded. -/
inductive Tests (W : World d) (c : SpoolCall (HANDLE d.client)) :
    Trace d → Bool → World d → Prop
  | down {n W₁} (he : World.env W .ensure_connection false n W₁) :
      Tests W c [⟨.ensure_connection, false, n⟩] false W₁
  | noName {n W₁} (hc : c.handle = none) (he : World.env W .ensure_connection true n W₁) :
      Tests W c [⟨.ensure_connection, true, n⟩] false W₁
  | byName {n n' W₀ W₁ name b} (hc : c.handle = none)
      (he : World.env W .ensure_connection true n W₀)
      (ht : World.env W₀ (.isBixolonPrinterByName name) b n' W₁) :
      Tests W c [⟨.ensure_connection, true, n⟩, ⟨.isBixolonPrinterByName name, b, n'⟩] b W₁
  | byHandle {n n' W₀ W₁ h b} (hc : c.handle = some h)
      (he : World.env W .ensure_connection true n W₀)
      (ht : World.env W₀ (.isBixolonPrinterByHandle h) b n' W₁) :
      Tests W c [⟨.ensure_connection, true, n⟩, ⟨.isBixolonPrinterByHandle h, b, n'⟩] b W₁

section
variable {W W₁ : World d} {c : SpoolCall (HANDLE d.client)} {t : Trace d} {b : Bool}

theorem Tests.meanwhile (h : Tests W c t b W₁) : W.Meanwhile W₁ := by
  cases h with
  | down he => exact (World.env_ensure_connection he).1
  | noName hc he => exact (World.env_ensure_connection he).1
  | byName hc he ht =>
    exact (World.env_ensure_connection he).1.trans (World.env_isBixolonPrinterByName ht).1
  | byHandle hc he ht =>
    exact (World.env_ensure_connection he).1.trans (World.env_isBixolonPrinterByHandle ht).1

/-- A call on a handle is forwarded only if the handle is tracked. -/
theorem Tests.tracked (h : Tests W c t true W₁) {x : HANDLE d.client} (hc : c.handle = some x) :
    x ∈ W.bxprinters := by
  cases h with
  | byName hc' he ht => rw [hc] at hc'; cases hc'
  | byHandle hc' he ht =>
    rw [hc] at hc'
    cases hc'
    rw [← (World.env_ensure_connection he).1.bxprinters]
    exact (World.env_isBixolonPrinterByHandle ht).2.2.2.mp rfl

/-- A call on a handle is not forwarded only if there is no connection, or the handle is not
tracked. -/
theorem Tests.untracked (h : Tests W c t false W₁) {x : HANDLE d.client}
    (hc : c.handle = some x) :
    (∃ n, ⟨.ensure_connection, false, n⟩ ∈ t) ∨ x ∉ W.bxprinters := by
  cases h with
  | down he => exact Or.inl ⟨_, List.mem_singleton_self _⟩
  | noName hc' he => rw [hc] at hc'; cases hc'
  | byName hc' he ht => rw [hc] at hc'; cases hc'
  | byHandle hc' he ht =>
    rw [hc] at hc'
    cases hc'
    right
    rw [← (World.env_ensure_connection he).1.bxprinters]
    intro hx
    have := (World.env_isBixolonPrinterByHandle ht).2.2.2.mpr hx
    cases this

end

/-! ## What the operations of a call show

The handles that the client took from answers and those it took off its list, the requests that
it sent, the calls of local functions and the handles that these gave out, and the calls that
the server made. -/

def grantedAt (o : Observed d) : Option (HANDLE d.client) :=
  match o with
  | ⟨.api (.spool q), .ok a, _⟩ => q.granted d.client a
  | _ => none

def removalAt (o : Observed d) : Option (HANDLE d.client) :=
  match o.op with
  | .closeBixolonPrinter h => some h
  | _ => none

def requestAt (o : Observed d) : Option SpoolRequest :=
  match o.op with
  | .api (.spool q) => some q
  | _ => none

def localCallAt (o : Observed d) : Option (SpoolCall (HANDLE d.client)) :=
  match o.op with
  | .original c => some c
  | _ => none

def localOpenAt (o : Observed d) : Option (HANDLE d.client) :=
  match o with
  | ⟨.original c, r, _⟩ => c.opened r
  | _ => none

def grants (tr : Trace d) : List (HANDLE d.client) := tr.filterMap grantedAt

def removals (tr : Trace d) : List (HANDLE d.client) := tr.filterMap removalAt

def requests (tr : Trace d) : List SpoolRequest := tr.filterMap requestAt

def localCalls (tr : Trace d) : List (SpoolCall (HANDLE d.client)) := tr.filterMap localCallAt

def localOpens (tr : Trace d) : List (HANDLE d.client) := tr.filterMap localOpenAt

def serverCalls (tr : Trace d) : List (ServerCall d) := tr.flatMap fun o => o.note.calls

@[simp] theorem grants_append (t t' : Trace d) : grants (t ++ t') = grants t ++ grants t' :=
  List.filterMap_append

@[simp] theorem removals_append (t t' : Trace d) :
    removals (t ++ t') = removals t ++ removals t' := List.filterMap_append

@[simp] theorem requests_append (t t' : Trace d) :
    requests (t ++ t') = requests t ++ requests t' := List.filterMap_append

@[simp] theorem localCalls_append (t t' : Trace d) :
    localCalls (t ++ t') = localCalls t ++ localCalls t' := List.filterMap_append

@[simp] theorem localOpens_append (t t' : Trace d) :
    localOpens (t ++ t') = localOpens t ++ localOpens t' := List.filterMap_append

@[simp] theorem serverCalls_append (t t' : Trace d) :
    serverCalls (t ++ t') = serverCalls t ++ serverCalls t' := List.flatMap_append

/-- The tests show nothing of all this. -/
theorem Tests.quiet {W W₁ : World d} {c : SpoolCall (HANDLE d.client)} {t : Trace d} {b : Bool}
    (h : Tests W c t b W₁) :
    grants t = [] ∧ removals t = [] ∧ requests t = [] ∧ localCalls t = [] ∧
      localOpens t = [] ∧ serverCalls t = [] := by
  cases h with
  | down he =>
    obtain ⟨-, ⟨-, hn⟩, -⟩ := World.env_ensure_connection he
    exact ⟨rfl, rfl, rfl, rfl, rfl, by simp [serverCalls, hn]⟩
  | noName hc he =>
    obtain ⟨-, ⟨-, hn⟩, -⟩ := World.env_ensure_connection he
    exact ⟨rfl, rfl, rfl, rfl, rfl, by simp [serverCalls, hn]⟩
  | byName hc he ht =>
    obtain ⟨-, ⟨-, hn⟩, -⟩ := World.env_ensure_connection he
    obtain ⟨-, ⟨-, hn'⟩, -⟩ := World.env_isBixolonPrinterByName ht
    exact ⟨rfl, rfl, rfl, rfl, rfl, by simp [serverCalls, hn, hn']⟩
  | byHandle hc he ht =>
    obtain ⟨-, ⟨-, hn⟩, -⟩ := World.env_ensure_connection he
    obtain ⟨-, ⟨-, hn'⟩, -⟩ := World.env_isBixolonPrinterByHandle ht
    exact ⟨rfl, rfl, rfl, rfl, rfl, by simp [serverCalls, hn, hn']⟩

/-! ## The courses of a call -/

/-- The handle that the host gets from a call. -/
def gained {H : Type} (c : SpoolCall H) : Except Abnormal c.Ret → Option H
  | .ok r => c.opened r
  | .error _ => none

inductive Course (W : World d) (c : SpoolCall (HANDLE d.client)) :
    Trace d → Except Abnormal c.Ret → World d → Prop
  /-- The call goes to the local function. -/
  | bypass {t W₁ r n W'} (ht : Tests W c t false W₁)
      (hc : World.env W₁ (.original c) r n W') :
      Course W c (t ++ [⟨.original c, r, n⟩]) (.ok r) W'
  /-- The detour reads through a NULL pointer. -/
  | unread {t W₁} (ht : Tests W c t true W₁) (hq : c.request = none) :
      Course W c t (.error .nullRead) W₁
  /-- The request is sent, and the call throws. -/
  | failed {t W₁ q x n W'} (ht : Tests W c t true W₁) (hq : c.request = some q)
      (hp : c.proc ≠ .ClosePrinter) (ha : World.env W₁ (.api (.spool q)) (.error x) n W') :
      Course W c (t ++ [⟨.api (.spool q), .error x, n⟩]) (.error (.thrown x)) W'
  /-- The server answers, and gives out no handle. -/
  | answered {t W₁ q a n W' r} (ht : Tests W c t true W₁) (hq : c.request = some q)
      (hp : c.proc ≠ .ClosePrinter) (ha : World.env W₁ (.api (.spool q)) (.ok a) n W')
      (hg : q.granted d.client a = none) (hr : c.opened r = none) :
      Course W c (t ++ [⟨.api (.spool q), .ok a, n⟩]) (.ok r) W'
  /-- The server answers with a handle, and the client tracks it. -/
  | opened {t W₁ q a n W₂ h b n' W' r} (ht : Tests W c t true W₁) (hq : c.request = some q)
      (hc : c.handle = none) (ha : World.env W₁ (.api (.spool q)) (.ok a) n W₂)
      (hg : q.granted d.client a = some h)
      (hb : World.env W₂ (.addBixolonPrinter h) b n' W')
      (hr : c.opened r = some h ∨ c.opened r = none) :
      Course W c (t ++ [⟨.api (.spool q), .ok a, n⟩, ⟨.addBixolonPrinter h, b, n'⟩]) (.ok r) W'
  /-- A close: the handle leaves the list, and then the request is sent. -/
  | closing {t W₁ h u n W₂ a n' W' r} (ht : Tests W c t true W₁) (hc : c = .ClosePrinter h)
      (hl : World.env W₁ (.closeBixolonPrinter h) u n W₂)
      (ha : World.env W₂ (.api (.spool (.ClosePrinter (SAFE_HANDLE h)))) a n' W')
      (hr : (∃ v, r = .ok v) ↔ ∃ v, a = .ok v) :
      Course W c (t ++ [⟨.closeBixolonPrinter h, u, n⟩,
        ⟨.api (.spool (.ClosePrinter (SAFE_HANDLE h))), a, n'⟩]) r W'

/-! ## Every run of a detour is one of the courses -/

section
variable {W W' : World d} {c : SpoolCall (HANDLE d.client)} {tr : Trace d}

/-- Both branches of the tests, for a test on a name or on a handle. -/
theorem tests_runsIn {α : Type} {test : Client d.client Bool} {F B : Client d.client α}
    {r : Except Abnormal α}
    (htest : (∃ h, c.handle = some h ∧ test = isBixolonPrinterByHandle h) ∨
      (c.handle = none ∧ ∃ name, test = isBixolonPrinterByName name))
    (h : Prog.RunsIn World.env
      (do if ← ensure_connection then (if ← test then F else B) else B) W tr r W') :
    ∃ t b W₁ tr', Tests W c t b W₁ ∧ tr = t ++ tr' ∧
      (if b then F else B).RunsIn World.env W₁ tr' r W' := by
  obtain ⟨e, n, W₀, tr₀, henv, rfl, hrest⟩ := h
  cases e with
  | false => exact ⟨_, false, W₀, tr₀, .down henv, rfl, hrest⟩
  | true =>
    rcases htest with ⟨x, hx, rfl⟩ | ⟨hx, name, rfl⟩
    · obtain ⟨b, n', W₁, tr₁, ht, rfl, hrest⟩ := hrest
      exact ⟨_, b, W₁, tr₁, .byHandle hx henv ht, rfl, hrest⟩
    · cases name with
      | none => exact ⟨_, false, W₀, tr₀, .noName hx henv, rfl, hrest⟩
      | some m =>
        obtain ⟨b, n', W₁, tr₁, ht, rfl, hrest⟩ := hrest
        exact ⟨_, b, W₁, tr₁, .byName hx henv ht, rfl, hrest⟩

theorem fpOriginal_runsIn {r : Except Abnormal c.Ret}
    (h : (fpOriginal c).RunsIn World.env W tr r W') :
    ∃ a n, World.env W (.original c) a n W' ∧ tr = [⟨.original c, a, n⟩] ∧ r = .ok a := by
  obtain ⟨a, n, W₁, tr', henv, rfl, rfl, rfl, rfl⟩ := h
  exact ⟨a, n, henv, rfl, rfl⟩

theorem api_runsIn {α : Type} {q : Request} {k : q.Result → Client d.client α}
    {r : Except Abnormal α} (h : (api q >>= k).RunsIn World.env W tr r W') :
    (∃ x n, World.env W (.api q) (.error x) n W' ∧ tr = [⟨.api q, .error x, n⟩] ∧
      r = .error (.thrown x)) ∨
    ∃ a n W₁ tr', World.env W (.api q) (.ok a) n W₁ ∧ tr = ⟨.api q, .ok a, n⟩ :: tr' ∧
      (k a).RunsIn World.env W₁ tr' r W' := by
  obtain ⟨a, n, W₁, tr', henv, rfl, hrest⟩ := h
  cases a with
  | error x =>
    obtain ⟨rfl, rfl, rfl⟩ := hrest
    exact Or.inl ⟨x, n, henv, rfl, rfl⟩
  | ok a => exact Or.inr ⟨a, n, W₁, tr', henv, rfl, hrest⟩

/-- What a detour does with the answer to a request: it is done, and the host gains nothing, or
it tracks the handle that it takes from the answer. -/
def Finishes (c : SpoolCall (HANDLE d.client)) (q : SpoolRequest) (a : q.Result)
    (k : Client d.client c.Ret) : Prop :=
  (q.granted d.client a = none ∧ ∃ r, k = .done r ∧ c.opened r = none) ∨
  ∃ h r, c.handle = none ∧ q.granted d.client a = some h ∧
    k = addBixolonPrinter h >>= (fun _ => .done r) ∧ (c.opened r = some h ∨ c.opened r = none)

theorem request_course {t tr' : Trace d} {W₁ : World d} {q : SpoolRequest}
    {k : q.Result → Client d.client c.Ret} {r : Except Abnormal c.Ret} (ht : Tests W c t true W₁)
    (hq : c.request = some q) (hp : c.proc ≠ .ClosePrinter) (hk : ∀ a, Finishes c q a (k a))
    (h : (api (.spool q) >>= k).RunsIn World.env W₁ tr' r W') : Course W c (t ++ tr') r W' := by
  rcases api_runsIn h with ⟨x, n, ha, rfl, rfl⟩ | ⟨a, n, W₂, tr₂, ha, rfl, hrest⟩
  · exact .failed ht hq hp ha
  · rcases hk a with ⟨hg, o, hka, ho⟩ | ⟨x, o, hc, hg, hka, ho⟩
    · rw [hka] at hrest
      obtain ⟨rfl, rfl, rfl⟩ := hrest
      exact .answered ht hq hp ha hg ho
    · rw [hka] at hrest
      obtain ⟨b, n', W₃, tr₃, hb, rfl, rfl, rfl, rfl⟩ := hrest
      exact .opened ht hq hc ha hg hb ho

/-- Both opens take the answer the same way. -/
theorem openResult_eq (ph : Bool) (ret : StdMap I64) :
    (BOOL.toBool ((THRIFT_SAFE_GET ret kReturn 0).setWidth 32) = false ∧
      ∃ o, openResult (w := d.client) ph ret = .done o ∧ o.ret.toBool = false) ∨
    ∃ o, BOOL.toBool ((THRIFT_SAFE_GET ret kReturn 0).setWidth 32) = true ∧
      openResult (w := d.client) ph ret =
        (addBixolonPrinter (handleOfInt64 d.client (THRIFT_SAFE_GET ret kPhPrinter 0)) >>=
          fun _ => .done o) ∧
      o.ret.toBool = true ∧
      (o.phPrinter = some (handleOfInt64 d.client (THRIFT_SAFE_GET ret kPhPrinter 0)) ∨
        o.phPrinter = none) := by
  unfold openResult
  by_cases hret : BOOL.toBool ((THRIFT_SAFE_GET ret kReturn 0).setWidth 32) = true
  · refine Or.inr ⟨_, hret, if_pos hret, hret, ?_⟩
    cases ph
    · exact Or.inr rfl
    · exact Or.inl rfl
  · have hfalse := Bool.eq_false_iff.mpr hret
    exact Or.inl ⟨hfalse, _, if_neg hret, hfalse⟩

theorem finishes_openA (n : Option Bytes) (ph : Bool) (pd : Option PRINTER_DEFAULTS)
    (name : Bytes) (e : Bool) (dt dm : Bytes) (acc : I32) (ret : StdMap I64) :
    Finishes (d := d) (.OpenPrinterA n ph pd) (.OpenPrinterA name e dt dm acc) ret
      (openResult ph ret) := by
  rcases openResult_eq (d := d) ph ret with ⟨hret, o, ho, hoff⟩ | ⟨o, hret, ho, hon, hph⟩
  · refine Or.inl ⟨?_, o, ho, ?_⟩
    · simp only [SpoolRequest.granted, hret, Bool.false_eq_true, if_false]
    · simp only [SpoolCall.opened, hoff, Bool.false_eq_true, if_false]
  · refine Or.inr ⟨_, o, rfl, by simp only [SpoolRequest.granted, hret, if_true], ho, ?_⟩
    simpa only [SpoolCall.opened, hon, if_true] using hph

theorem finishes_openW (n : Option Bytes) (ph : Bool) (pd : Option PRINTER_DEFAULTS)
    (name : Bytes) (e : Bool) (dt dm : Bytes) (acc : I32) (ret : StdMap I64) :
    Finishes (d := d) (.OpenPrinterW n ph pd) (.OpenPrinterW name e dt dm acc) ret
      (openResult ph ret) := by
  rcases openResult_eq (d := d) ph ret with ⟨hret, o, ho, hoff⟩ | ⟨o, hret, ho, hon, hph⟩
  · refine Or.inl ⟨?_, o, ho, ?_⟩
    · simp only [SpoolRequest.granted, hret, Bool.false_eq_true, if_false]
    · simp only [SpoolCall.opened, hoff, Bool.false_eq_true, if_false]
  · refine Or.inr ⟨_, o, rfl, by simp only [SpoolRequest.granted, hret, if_true], ho, ?_⟩
    simpa only [SpoolCall.opened, hon, if_true] using hph

theorem bypass_course {t tr' : Trace d} {W₁ : World d} {r : Except Abnormal c.Ret}
    (ht : Tests W c t false W₁) (h : (fpOriginal c).RunsIn World.env W₁ tr' r W') :
    Course W c (t ++ tr') r W' := by
  obtain ⟨a, n, henv, rfl, rfl⟩ := fpOriginal_runsIn h
  exact .bypass ht henv

/-- A call through the tests of its detour: only what the detour forwards is left to look at. -/
theorem tests_course {test : Client d.client Bool} {F : Client d.client c.Ret}
    {r : Except Abnormal c.Ret}
    (htest : (∃ h, c.handle = some h ∧ test = isBixolonPrinterByHandle h) ∨
      (c.handle = none ∧ ∃ name, test = isBixolonPrinterByName name))
    (h : Prog.RunsIn World.env
      (do if ← ensure_connection then (if ← test then F else fpOriginal c) else fpOriginal c)
      W tr r W')
    (hF : ∀ {t tr' W₁}, Tests W c t true W₁ → F.RunsIn World.env W₁ tr' r W' →
      Course W c (t ++ tr') r W') : Course W c tr r W' := by
  obtain ⟨t, b, W₁, tr', ht, rfl, hrest⟩ := tests_runsIn htest h
  cases b with
  | false => exact bypass_course ht hrest
  | true => exact hF ht hrest

/-- Every run of a detour is one of the courses. -/
theorem detour_course {r : Except Abnormal c.Ret}
    (h : (detour c).RunsIn World.env W tr r W') : Course W c tr r W' := by
  cases c with
  | OpenPrinterA n ph pd =>
    apply tests_course (c := .OpenPrinterA n ph pd) (Or.inr ⟨rfl, n, rfl⟩) h
    intro t tr' W₁ ht hrest
    cases pd with
    | none => exact request_course ht rfl (by simp) (fun a => finishes_openA ..) hrest
    | some pDefault =>
      cases hdt : pDefault.pDatatype with
      | none =>
        simp only [THRIFT_A_TO_STRING, hdt, Prog.fail_bind] at hrest
        obtain ⟨rfl, rfl, rfl⟩ := hrest
        rw [List.append_nil]
        exact .unread ht (by simp [SpoolCall.request, hdt])
      | some m =>
        simp only [THRIFT_A_TO_STRING, hdt, Prog.pure_eq, Prog.done_bind] at hrest
        exact request_course ht (by simp [SpoolCall.request, hdt]) (by simp)
          (fun a => finishes_openA ..) hrest
  | OpenPrinterW n ph pd =>
    apply tests_course (c := .OpenPrinterW n ph pd) (Or.inr ⟨rfl, _, rfl⟩) h
    intro t tr' W₁ ht hrest
    cases pd with
    | none => exact request_course ht rfl (by simp) (fun a => finishes_openW ..) hrest
    | some pDefault =>
      exact request_course ht rfl (by simp) (fun a => finishes_openW ..) hrest
  | StartPagePrinter x =>
    apply tests_course (c := .StartPagePrinter x) (Or.inl ⟨x, rfl, rfl⟩) h
    intro t tr' W₁ ht hrest
    exact request_course ht rfl (by simp) (fun a => Or.inl ⟨rfl, _, rfl, rfl⟩) hrest
  | EndPagePrinter x =>
    apply tests_course (c := .EndPagePrinter x) (Or.inl ⟨x, rfl, rfl⟩) h
    intro t tr' W₁ ht hrest
    exact request_course ht rfl (by simp) (fun a => Or.inl ⟨rfl, _, rfl, rfl⟩) hrest
  | EndDocPrinter x =>
    apply tests_course (c := .EndDocPrinter x) (Or.inl ⟨x, rfl, rfl⟩) h
    intro t tr' W₁ ht hrest
    exact request_course ht rfl (by simp) (fun a => Or.inl ⟨rfl, _, rfl, rfl⟩) hrest
  | StartDocPrinterW x level di =>
    apply tests_course (c := .StartDocPrinterW x level di) (Or.inl ⟨x, rfl, rfl⟩) h
    intro t tr' W₁ ht hrest
    cases di with
    | none =>
      exact request_course (k := Prog.done) ht rfl (by simp)
        (fun a => Or.inl ⟨rfl, _, rfl, rfl⟩) (by rw [Prog.bind_done]; exact hrest)
    | some doc =>
      exact request_course (k := Prog.done) ht rfl (by simp)
        (fun a => Or.inl ⟨rfl, _, rfl, rfl⟩) (by rw [Prog.bind_done]; exact hrest)
  | WritePrinter x buf n pw =>
    apply tests_course (c := .WritePrinter x buf n pw) (Or.inl ⟨x, rfl, rfl⟩) h
    intro t tr' W₁ ht hrest
    cases buf with
    | none =>
      by_cases hn : n = 0
      · subst hn
        exact request_course ht rfl (by simp) (fun a => Or.inl ⟨rfl, _, rfl, rfl⟩) hrest
      · have hpos : n.toNat ≠ 0 := fun h0 => hn (BitVec.eq_of_toNat_eq h0)
        simp only [std_string_ofNat, hpos, if_false, Prog.fail_bind] at hrest
        obtain ⟨rfl, rfl, rfl⟩ := hrest
        rw [List.append_nil]
        exact .unread ht (if_neg hn)
    | some m =>
      simp only [std_string_ofNat, Prog.done_bind] at hrest
      exact request_course ht rfl (by simp) (fun a => Or.inl ⟨rfl, _, rfl, rfl⟩) hrest
  | ClosePrinter x =>
    apply tests_course (c := .ClosePrinter x) (Or.inl ⟨x, rfl, rfl⟩) h
    rintro t tr' W₁ ht ⟨u, n, W₂, tr₂, hl, rfl, hrest⟩
    rcases api_runsIn hrest with ⟨y, n', ha, rfl, rfl⟩ | ⟨a, n', W₃, tr₃, ha, rfl, rfl, rfl, rfl⟩
    · exact .closing ht rfl hl ha (by simp)
    · exact .closing ht rfl hl ha (by simp)

end

/-! ## Requests and the calls of the server -/

/-- The server makes the call of the host, on the server's handle. -/
theorem request_original {c : SpoolCall (HANDLE d.client)} {q : SpoolRequest}
    (h : c.request = some q) :
    (q.original d.server).proc = c.proc ∧
      (q.original d.server).handle = c.handle.map d.serverHandle := by
  cases c with
  | OpenPrinterA n ph pd =>
    cases pd with
    | none => cases h; exact ⟨rfl, rfl⟩
    | some p =>
      unfold SpoolCall.request at h
      rw [Option.map_eq_some_iff] at h
      obtain ⟨m, -, rfl⟩ := h
      exact ⟨rfl, rfl⟩
  | OpenPrinterW n ph pd => cases pd <;> cases h <;> exact ⟨rfl, rfl⟩
  | StartDocPrinterW x l di => cases di <;> cases h <;> exact ⟨rfl, rfl⟩
  | WritePrinter x b n pw =>
    cases b with
    | none =>
      by_cases hn : n = 0
      · subst hn
        cases h
        exact ⟨rfl, rfl⟩
      · have hnone : (SpoolCall.WritePrinter x none n pw).request = none := if_neg hn
        rw [hnone] at h
        cases h
    | some m => cases h; exact ⟨rfl, rfl⟩
  | StartPagePrinter x | EndPagePrinter x | EndDocPrinter x | ClosePrinter x =>
    cases h
    exact ⟨rfl, rfl⟩

theorem granted_failure (q : SpoolRequest) : q.granted d.client q.failure = none := by
  cases q <;> rfl

theorem granted_packOpen {r : OpenRet (HANDLE d.server)} {ph : Bool}
    {s s' : Spooler (HANDLE d.server)} (h : Spooler.Answers.Opens s ph r s') :
    (if BOOL.toBool ((THRIFT_SAFE_GET (ApiForwardHandler.packOpen r) kReturn 0).setWidth 32) then
      some (handleOfInt64 d.client (THRIFT_SAFE_GET (ApiForwardHandler.packOpen r) kPhPrinter 0))
      else none) =
    (if r.ret.toBool then r.phPrinter else none).map d.clientHandle := by
  rcases h with ⟨h0, -, -⟩ | ⟨x, -, h1, hx, -⟩
  · obtain ⟨ret, p⟩ := r
    cases h0
    rfl
  · have hret : r.ret.toBool = true := by simpa using h1
    rw [if_pos hret, hx]
    unfold ApiForwardHandler.packOpen
    rw [if_pos hret, hx]
    rfl

/-- The client takes the handle that the server's winspool gave out. -/
theorem granted_pack {q : SpoolRequest} {r : (q.original d.server).Ret}
    {s s' : Spooler (HANDLE d.server)} (h : s.Answers (q.original d.server) r s') :
    q.granted d.client (q.pack d.server r) =
      ((q.original d.server).opened r).map d.clientHandle := by
  cases q with
  | OpenPrinterA => exact granted_packOpen h
  | OpenPrinterW => exact granted_packOpen h
  | StartPagePrinter | StartDocPrinterW | WritePrinter | EndPagePrinter | EndDocPrinter
  | ClosePrinter => rfl

/-- An answer with a handle comes from a server that opened just that handle. -/
theorem open_of_granted {q : SpoolRequest} {v : q.Result} {calls : List (ServerCall d)}
    {S S' : ServerProcess d.server} (h : World.Reaches S q (.ok v) calls S')
    {x : HANDLE d.client} (hg : q.granted d.client v = some x)
    (hopen : (q.original d.server).handle = none) :
    ∃ s, d.clientHandle s = x ∧ (∃ c ∈ calls, c.op.opened c.answer = some s) ∧
      s ∉ S.spooler.openHandles ∧
      ∀ y, y ∈ S'.spooler.openHandles ↔ y = s ∨ y ∈ S.spooler.openHandles := by
  cases h with
  | nothing ha =>
    rw [(ha v rfl).2, granted_failure] at hg
    cases hg
  | executed ht hr ha =>
    rw [ha v rfl, granted_pack hr, Option.map_eq_some_iff] at hg
    obtain ⟨s, hs, hsx⟩ := hg
    refine ⟨s, hsx, ⟨_, List.mem_singleton_self _, hs⟩, hr.fresh hs, fun y => ?_⟩
    rw [hr.mem_open, hs, SpoolCall.closed_of_no_handle hopen]
    simp [eq_comm]

/-- Only a request for an open is answered with a handle. -/
theorem handle_of_granted {q : SpoolRequest} {v : q.Result} {x : HANDLE d.client}
    (hg : q.granted d.client v = some x) : (q.original d.server).handle = none := by
  cases q <;> first | rfl | cases hg

/-- A request that closes nothing leaves open what is open. -/
theorem kept_of_reaches {q : SpoolRequest} {a : Except TException q.Result}
    {calls : List (ServerCall d)} {S S' : ServerProcess d.server}
    (h : World.Reaches S q a calls S') (hclose : (q.original d.server).proc ≠ .ClosePrinter)
    {s : HANDLE d.server} (hs : s ∈ S.spooler.openHandles) : s ∈ S'.spooler.openHandles := by
  cases h with
  | nothing ha => exact hs
  | executed ht hr ha =>
    refine (hr.mem_open s).mpr (Or.inr ⟨hs, ?_⟩)
    simp [SpoolCall.closed_eq_none hclose]

/-- A request to close leaves open all other handles. -/
theorem kept_of_close {x : HANDLE d.client} {a : Except TException Bool}
    {calls : List (ServerCall d)} {S S' : ServerProcess d.server}
    (h : World.Reaches S (.ClosePrinter (SAFE_HANDLE x)) a calls S') {s : HANDLE d.server}
    (hs : s ∈ S.spooler.openHandles) (hne : s ≠ d.serverHandle x) :
    s ∈ S'.spooler.openHandles := by
  cases h with
  | nothing ha => exact hs
  | executed ht hr ha =>
    refine (hr.mem_open s).mpr (Or.inr ⟨hs, fun hc => hne ?_⟩)
    simp only [SpoolRequest.original, SpoolCall.closed, Option.ite_none_right_eq_some] at hc
    exact (Option.some.inj hc.2).symm

/-! ## What a call does

Each course, by what it changes in the world and what its operations show. -/

/-- The request of a call was sent, to the server process `S`, which it left as `S'`. -/
structure Sent (W : World d) (c : SpoolCall (HANDLE d.client)) (tr : Trace d) (W' : World d)
    (q : SpoolRequest) (a : Except TException q.Result) (n : Served d)
    (S S' : ServerProcess d.server) : Prop where
  request : c.request = some q
  mem : ⟨.api (.spool q), a, n⟩ ∈ tr
  tracked : ∀ x, c.handle = some x → x ∈ W.bxprinters
  winspool : W'.winspool = W.winspool
  before : W.server.Lives S
  pid : n.pid = S.pid
  pid' : S'.pid = S.pid
  reaches : World.Reaches S q a n.calls S'
  after : S'.Lives W'.server
  requests : requests tr = [q]
  localCalls : localCalls tr = []
  localOpens : localOpens tr = []
  serverCalls : serverCalls tr = n.calls

inductive Effect (W : World d) (c : SpoolCall (HANDLE d.client)) (tr : Trace d)
    (r : Except Abnormal c.Ret) (W' : World d) : Prop
  | bypass (v : c.Ret) (hr : r = .ok v) (hbx : W'.bxprinters = W.bxprinters)
      (hsp : W.winspool.Answers c v W'.winspool) (hserver : W.server.Lives W'.server)
      (hgrants : grants tr = []) (hremovals : removals tr = []) (hrequests : requests tr = [])
      (hlocal : localCalls tr = [c])
      (hopens : localOpens tr = (c.opened v).toList) (hserved : serverCalls tr = [])
      (hwhy : ∀ x, c.handle = some x →
        (∃ n, ⟨.ensure_connection, false, n⟩ ∈ tr) ∨ x ∉ W.bxprinters)
  | unread (hr : r = .error .nullRead) (hq : c.request = none)
      (htracked : ∀ x, c.handle = some x → x ∈ W.bxprinters) (hmeanwhile : W.Meanwhile W')
      (hgrants : grants tr = []) (hremovals : removals tr = []) (hrequests : requests tr = [])
      (hlocal : localCalls tr = [])
      (hopens : localOpens tr = []) (hserved : serverCalls tr = [])
  | asked (q a n S S') (hsent : Sent W c tr W' q a n S S') (hp : c.proc ≠ .ClosePrinter)
      (hbx : W'.bxprinters = W.bxprinters) (hgrants : grants tr = [])
      (hremovals : removals tr = [])
      (hnone : ∀ v, a = .ok v → q.granted d.client v = none) (hgain : gained c r = none)
  | opened (q a n S S' x) (hsent : Sent W c tr W' q (.ok a) n S S') (hc : c.handle = none)
      (hgrant : q.granted d.client a = some x) (hbx : W'.bxprinters = W.bxprinters ++ [x])
      (hgrants : grants tr = [x]) (hremovals : removals tr = [])
      (hgain : gained c r = some x ∨ gained c r = none)
  | closed (x) (a : Except TException Bool) (n S S') (hc : c = .ClosePrinter x)
      (hsent : Sent W c tr W' (.ClosePrinter (SAFE_HANDLE x)) a n S S')
      (hbx : W'.bxprinters = bxprinters.closeBixolonPrinter W.bxprinters x)
      (hgrants : grants tr = []) (hremovals : removals tr = [x]) (hgain : gained c r = none)

/-- A request after the tests, with operations around it that leave the server and the local
winspool alone. -/
theorem Tests.sent {W W₁ W₂ W₃ W' : World d} {c : SpoolCall (HANDLE d.client)} {t : Trace d}
    {q : SpoolRequest} {a : Except TException q.Result} {n : Served d}
    (ht : Tests W c t true W₁) (t' : Trace d) (hq : c.request = some q)
    (hlive : W₁.server.Lives W₂.server) (hwin : W₂.winspool = W₁.winspool)
    (ha : World.env W₂ (.api (.spool q)) a n W₃)
    (hlive' : W₃.server.Lives W'.server) (hwin' : W'.winspool = W₃.winspool)
    (hmem : ⟨.api (.spool q), a, n⟩ ∈ t') (hrq : RemotePrinter.requests t' = [q])
    (hl : localCalls t' = []) (ho : localOpens t' = [])
    (hs : serverCalls t' = n.calls) :
    W₃.bxprinters = W₂.bxprinters ∧ ∃ S S', Sent W c (t ++ t') W' q a n S S' := by
  obtain ⟨hbx, hwin₃, S, hliveS, hpid, hpid', hreach⟩ := World.env_api ha
  obtain ⟨-, -, hreq, hlocal, hopens, hserved⟩ := ht.quiet
  have hm := ht.meanwhile
  refine ⟨hbx, S, W₃.server, ?_⟩
  exact { request := hq
          mem := List.mem_append_right _ hmem
          tracked := fun x hx => ht.tracked hx
          winspool := by rw [hwin', hwin₃, hwin, hm.winspool]
          before := (hm.server.trans hlive).trans hliveS
          pid := hpid
          pid' := hpid'
          reaches := hreach
          after := hlive'
          requests := by rw [requests_append, hreq, hrq]; rfl
          localCalls := by rw [localCalls_append, hlocal, hl]; rfl
          localOpens := by rw [localOpens_append, hopens, ho]; rfl
          serverCalls := by rw [serverCalls_append, hserved, hs]; rfl }

theorem Course.effect {W W' : World d} {c : SpoolCall (HANDLE d.client)} {tr : Trace d}
    {r : Except Abnormal c.Ret} (h : Course W c tr r W') : Effect W c tr r W' := by
  cases h with
  | @bypass t W₁ v n _ ht hc =>
    obtain ⟨hg, hrm, hq', hl, ho, hs⟩ := ht.quiet
    obtain ⟨hbx, hlive, ⟨-, hn⟩, -, hsp⟩ := World.env_original hc
    have hm := ht.meanwhile
    refine .bypass v rfl (hbx.trans hm.bxprinters) (by rw [← hm.winspool]; exact hsp)
      (hm.server.trans hlive) ?_ ?_ ?_ ?_ ?_ ?_ ?_
    · rw [grants_append, hg]
      rfl
    · rw [removals_append, hrm]
      rfl
    · rw [requests_append, hq']
      rfl
    · rw [localCalls_append, hl]
      rfl
    · rw [localOpens_append, ho]
      cases ho' : c.opened v <;> simp [localOpens, localOpenAt, ho']
    · rw [serverCalls_append, hs]
      simp [serverCalls, hn]
    · intro x hx
      refine (ht.untracked hx).imp_left ?_
      rintro ⟨m, hm⟩
      exact ⟨m, List.mem_append_left _ hm⟩
  | unread ht hq =>
    obtain ⟨hg, hrm, hq', hl, ho, hs⟩ := ht.quiet
    exact .unread rfl hq (fun x hx => ht.tracked hx) ht.meanwhile hg hrm hq' hl ho hs
  | failed ht hq hp ha =>
    obtain ⟨hbx, S, S', hsent⟩ := ht.sent _ hq (.refl _) rfl ha (.refl _) rfl
      (List.mem_singleton_self _) rfl rfl rfl (by simp [serverCalls])
    obtain ⟨hg, hrm, -⟩ := ht.quiet
    refine .asked _ _ _ S S' hsent hp (hbx.trans ht.meanwhile.bxprinters) ?_ ?_ (by simp) rfl
    · rw [grants_append, hg]
      rfl
    · rw [removals_append, hrm]
      rfl
  | @answered t W₁ q a n _ v ht hq hp ha hgr hr =>
    obtain ⟨hbx, S, S', hsent⟩ := ht.sent _ hq (.refl _) rfl ha (.refl _) rfl
      (List.mem_singleton_self _) rfl rfl rfl (by simp [serverCalls])
    obtain ⟨hg, hrm, -⟩ := ht.quiet
    refine .asked _ _ _ S S' hsent hp (hbx.trans ht.meanwhile.bxprinters) ?_ ?_ ?_ hr
    · rw [grants_append, hg]
      simp [grants, grantedAt, hgr]
    · rw [removals_append, hrm]
      rfl
    · intro v' hv'
      cases hv'
      exact hgr
  | @opened t W₁ q a n W₂ x b n' _ v ht hq hc ha hgr hb hr =>
    obtain ⟨hadd, hwin, hlive, ⟨-, hn'⟩, -⟩ := World.env_addBixolonPrinter hb
    obtain ⟨hbx, S, S', hsent⟩ := ht.sent [_, ⟨.addBixolonPrinter x, b, n'⟩] hq (.refl _)
      rfl ha hlive hwin List.mem_cons_self rfl rfl rfl (by simp [serverCalls, hn'])
    obtain ⟨hg, hrm, -⟩ := ht.quiet
    refine .opened q a n S S' x hsent hc hgr (by rw [hadd, hbx, ht.meanwhile.bxprinters]) ?_ ?_ hr
    · rw [grants_append, hg]
      simp [grants, grantedAt, hgr]
    · rw [removals_append, hrm]
      rfl
  | @closing t W₁ x u n W₂ a n' _ v ht hc hl ha hr =>
    obtain ⟨hrem, hwin, hlive, ⟨-, hn⟩, -⟩ := World.env_closeBixolonPrinter hl
    obtain ⟨hbx, S, S', hsent⟩ := ht.sent [⟨.closeBixolonPrinter x, u, n⟩,
        ⟨.api (.spool (.ClosePrinter (SAFE_HANDLE x))), a, n'⟩]
      (by rw [hc]; rfl) hlive hwin ha (.refl _) rfl (by simp) rfl rfl rfl
      (by simp [serverCalls, hn])
    obtain ⟨hg, hrm, -⟩ := ht.quiet
    refine .closed x a n' S S' hc hsent (by rw [hbx, hrem, ht.meanwhile.bxprinters]) ?_ ?_ ?_
    · rw [grants_append, hg]
      cases a <;> rfl
    · rw [removals_append, hrm]
      rfl
    · subst hc
      cases r <;> rfl

theorem HostStep.effect {W W' : World d} {rec : CallRecord d} (h : HostStep detour W rec W') :
    Effect W rec.call rec.trace rec.result W' := (detour_course h).effect

/-- The client can hold every handle that the server gives out in a call. -/
def HoldsHandles (rec : CallRecord d) : Prop :=
  ∀ c ∈ serverCalls rec.trace, ∀ s, c.op.opened c.answer = some s → d.Holds s

/-! ## A connection that stays up -/

/-- The server process `pid` runs, there is a connection to it, and it answers. -/
def UpAt (pid : Nat) (o : Observed d) : Prop :=
  o.note.pid = pid ∧
    match o with
    | ⟨.ensure_connection, b, _⟩ => b = true
    | ⟨.api (.spool _), a, _⟩ => ∃ v, a = .ok v
    | _ => True

/-- The connection to the process `pid` stays up for a whole call. -/
def Up (pid : Nat) (rec : CallRecord d) : Prop := ∀ o ∈ rec.trace, UpAt pid o

theorem runsIn_up {α : Type} {p : Client d.client α} {W W' : World d} {tr : Trace d}
    {r : Except Abnormal α} (h : p.RunsIn World.env W tr r W')
    (hup : ∀ o ∈ tr, o.note.pid = W.server.pid) :
    W'.server.pid = W.server.pid ∧ W'.server.fp = W.server.fp := by
  induction p generalizing W tr with
  | done a => obtain ⟨-, -, rfl⟩ := h; exact ⟨rfl, rfl⟩
  | fail x => obtain ⟨-, -, rfl⟩ := h; exact ⟨rfl, rfl⟩
  | call e k ih =>
    obtain ⟨a, n, W₁, tr', henv, rfl, hrest⟩ := h
    have hpid : W₁.server.pid = W.server.pid := by
      rw [← World.env_pid henv]
      exact hup _ List.mem_cons_self
    have hfp : W₁.server.fp = W.server.fp :=
      ((World.env_fp henv).resolve_left (by rw [hpid]; exact Nat.lt_irrefl _)).2
    obtain ⟨hpid', hfp'⟩ := ih a hrest fun o ho => by
      rw [hpid]
      exact hup o (List.mem_cons_of_mem _ ho)
    exact ⟨hpid'.trans hpid, hfp'.trans hfp⟩

section
variable {W W' : World d} {rec : CallRecord d}

/-- With the connection up it is one server process, with its function pointers. -/
theorem HostStep.same_of_up {entry : Entry d.client} (h : HostStep entry W rec W')
    (hup : Up W.server.pid rec) :
    W'.server.pid = W.server.pid ∧ W'.server.fp = W.server.fp :=
  runsIn_up h fun o ho => (hup o ho).1

/-- With the connection up a request goes from the one server process to the same process. -/
theorem Sent.same_server {q : SpoolRequest} {a : Except TException q.Result} {n : Served d}
    {S S' : ServerProcess d.server} (h : Sent W rec.call rec.trace W' q a n S S')
    (hup : Up W.server.pid rec) (hpid : W'.server.pid = W.server.pid) :
    S = W.server ∧ S' = W'.server := by
  have hn : n.pid = W.server.pid := (hup _ h.mem).1
  have hS : S = W.server := h.before.eq_of_pid (h.pid.symm.trans hn)
  refine ⟨hS, (h.after.eq_of_pid ?_).symm⟩
  rw [hpid, h.pid', hS]

theorem Sent.answered {q : SpoolRequest} {a : Except TException q.Result} {n : Served d}
    {S S' : ServerProcess d.server} (h : Sent W rec.call rec.trace W' q a n S S')
    (hup : Up W.server.pid rec) : ∃ v, a = .ok v := (hup _ h.mem).2

end

end RemotePrinter
