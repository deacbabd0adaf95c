-- The arguments of an open and of the start of a document, from the host to the
-- function that the server calls: which of them are NULL, and what strings the
-- others stand for.
import RemotePrinter.Executions
import RemotePrinter.WideStrings

open Interactive Terminated

namespace RemotePrinter

variable {d : Deployment}

/-! ## Optional strings -/

/-- Two pointers stand for the same optional ANSI string. -/
def SameAnsi (p p' : Option Bytes) : Prop := p'.map cString = p.map cString

/-- Two pointers stand for the same optional wide string. -/
def SameWide (p p' : Option Bytes) : Prop := p'.map readWide = p.map readWide

/-- The macro of the client sends no terminator, so the string arrives just if it is not empty. -/
theorem sameAnsi_sent (m : Bytes) :
    SameAnsi (some m) (THRIFT_ZERO_SIZE_STRING_TO_NULL (cString m)) ↔ cString m ≠ [] := by
  have hreceived : (THRIFT_ZERO_SIZE_STRING_TO_NULL (cString m)).map cString =
      receive 0 (cString m) := by
    unfold THRIFT_ZERO_SIZE_STRING_TO_NULL receive
    by_cases hm : cString m = []
    · simp [hm]
    · have htext : cString (cStr (cString m)) = text 0 (cString m) := by
        have hfree : 0 ∉ cString m := not_mem_text m
        rw [text_of_not_mem hfree]
        exact (text_append hfree [0]).trans (by simp)
      rw [if_pos (List.length_pos_iff.mpr hm), if_neg hm, Option.map_some, htext]
  unfold SameAnsi
  rw [hreceived]
  exact receive_units (ofMemory 0 m)

/-! ## `OpenPrinterA` -/

/-- The defaults of the host and of the server: NULL together, with the same data type and the
same access. -/
def SameDefaults : Option PRINTER_DEFAULTS → Option PRINTER_DEFAULTS → Prop
  | none, none => True
  | some p, some p' => SameAnsi p.pDatatype p'.pDatatype ∧ p'.DesiredAccess = p.DesiredAccess
  | _, _ => False

/-- The detour reads through no NULL pointer, and the server makes one call, with the name and the
defaults of the host. -/
def OpenArrives (pPrinterName : Option Bytes) (pDefault : Option PRINTER_DEFAULTS) (tr : Trace d)
    (r : Except Abnormal (OpenRet (HANDLE d.client))) : Prop :=
  r ≠ .error .nullRead ∧
  ∃ name ph pd o, serverCalls tr = [⟨.OpenPrinterA name ph pd, o, ()⟩] ∧
    SameAnsi pPrinterName name ∧ SameDefaults pDefault pd

/-- The name that goes out is that of the host, just if that is not empty. -/
theorem sameAnsi_name (pPrinterName : Option Bytes) :
    SameAnsi pPrinterName
        (THRIFT_ZERO_SIZE_STRING_TO_NULL ((pPrinterName.map cString).getD [])) ↔
      ∀ m ∈ pPrinterName, cString m ≠ [] := by
  cases pPrinterName with
  | none => exact iff_of_true rfl (by simp)
  | some m =>
    have hsent := sameAnsi_sent m
    simpa using hsent

section
variable {W W' : World d} {pPrinterName : Option Bytes} {phPrinter : Bool}
  {pDefault : Option PRINTER_DEFAULTS} {tr : Trace d}
  {r : Except Abnormal (OpenRet (HANDLE d.client))}

/-- An open whose request is answered returns, after the one call of the server. -/
theorem openArrives_iff
    (h : HostStep detour W ⟨.OpenPrinterA pPrinterName phPrinter pDefault, tr, r⟩ W')
    (hup : Up W.server.pid ⟨.OpenPrinterA pPrinterName phPrinter pDefault, tr, r⟩)
    (hpass : Passes tr) (hfp : W.server.fp .OpenPrinterA = true) {n : Bytes} {e : Bool}
    {dt dm : Bytes} {acc : I32}
    (hq : (.OpenPrinterA pPrinterName phPrinter pDefault : SpoolCall (HANDLE d.client)).request =
      some (.OpenPrinterA n e dt dm acc)) :
    OpenArrives pPrinterName pDefault tr r ↔
      SameAnsi pPrinterName (THRIFT_ZERO_SIZE_STRING_TO_NULL n) ∧
        SameDefaults pDefault (ApiForwardHandler.localDefault e dt dm acc) := by
  obtain ⟨o, m, hcalls, hmem⟩ := h.carried hup hpass hq hfp
  have hcalls' : serverCalls tr = [⟨.OpenPrinterA (THRIFT_ZERO_SIZE_STRING_TO_NULL n) true
      (ApiForwardHandler.localDefault e dt dm acc), o, ()⟩] := hcalls
  have hreturns : ∃ v, r = .ok v := ((detour_course h).returns hmem).mpr ⟨_, rfl⟩
  unfold OpenArrives
  rw [hcalls']
  constructor
  · rintro ⟨-, name, ph, pd, o', hone, hname, hdefault⟩
    cases hone
    exact ⟨hname, hdefault⟩
  · rintro ⟨hname, hdefault⟩
    refine ⟨?_, _, _, _, o, rfl, hname, hdefault⟩
    obtain ⟨v, rfl⟩ := hreturns
    simp

/-- The arguments of a forwarded `OpenPrinterA` arrive just if the server has found the function,
the name is not empty and the defaults, if there are any, have a data type that is not empty. -/
theorem opens_arrive_just_if_their_strings_are_not_empty
    (h : HostStep detour W ⟨.OpenPrinterA pPrinterName phPrinter pDefault, tr, r⟩ W')
    (hup : Up W.server.pid ⟨.OpenPrinterA pPrinterName phPrinter pDefault, tr, r⟩)
    (hpass : Passes tr) :
    OpenArrives pPrinterName pDefault tr r ↔
      W.server.fp .OpenPrinterA = true ∧ (∀ m ∈ pPrinterName, cString m ≠ []) ∧
        ∀ p ∈ pDefault, ∃ m, p.pDatatype = some m ∧ cString m ≠ [] := by
  have hrefused {n : Bytes} {e : Bool} {dt dm : Bytes} {acc : I32}
      (hq : (.OpenPrinterA pPrinterName phPrinter pDefault : SpoolCall (HANDLE d.client)).request =
        some (.OpenPrinterA n e dt dm acc))
      (harr : OpenArrives pPrinterName pDefault tr r) : W.server.fp .OpenPrinterA = true := by
    by_contra hfp
    obtain ⟨-, name, ph, pd, o, hcalls, -⟩ := harr
    have hnone : serverCalls tr = [] := h.refused hup hpass hq (Bool.eq_false_iff.mpr hfp)
    rw [hnone] at hcalls
    cases hcalls
  cases pDefault with
  | none =>
    rw [← and_iff_right_of_imp (hrefused rfl)]
    refine and_congr_right fun hfp => ?_
    rw [openArrives_iff h hup hpass hfp rfl, sameAnsi_name]
    simp [SameDefaults, ApiForwardHandler.localDefault]
  | some p =>
    cases hdt : p.pDatatype with
    | none =>
      -- the macro reads through the NULL pointer
      rcases h.forwarded hup hpass with ⟨-, hr, -⟩ | ⟨q, v, n, hq, -⟩
      · exact iff_of_false (fun harr => harr.1 hr) (by simp [hdt])
      · simp [SpoolCall.request, hdt] at hq
    | some m =>
      have hq : (.OpenPrinterA pPrinterName phPrinter (some p) :
          SpoolCall (HANDLE d.client)).request =
            some (.OpenPrinterA ((pPrinterName.map cString).getD []) true (cString m)
              (THRIFT_B_TO_STRING p.pDevMode dmSizeA) p.DesiredAccess) := by
        simp [SpoolCall.request, hdt]
      rw [← and_iff_right_of_imp (hrefused hq)]
      refine and_congr_right fun hfp => ?_
      rw [openArrives_iff h hup hpass hfp hq, sameAnsi_name]
      simp only [SameDefaults, ApiForwardHandler.localDefault, if_true, hdt, sameAnsi_sent,
        and_true, Option.mem_some_iff, forall_eq', Option.some.injEq, exists_eq_left']

end

/-! ### Two opens -/

/-- The names `A` and `RAW`. -/
def nameA : Bytes := [65, 0]

def dataRAW : Bytes := [82, 65, 87, 0]

theorem passes_openARecord (W : World d) (name pDatatype : Bytes) (pDevMode : Option Bytes)
    (acc : DWORD) (h : HANDLE d.server) :
    Passes (openARecord W name pDatatype pDevMode acc h).trace :=
  Or.inl ⟨cString name, W.idle, by simp [openARecord]⟩

/-- An open with the data type `RAW`. -/
theorem an_open_with_a_data_type_arrives :
    OpenArrives (some nameA) (some ⟨some dataRAW, none, 8⟩)
      (openARecord freshWorld nameA dataRAW none 8 remoteHandle).trace
      (openARecord freshWorld nameA dataRAW none 8 remoteHandle).result :=
  (opens_arrive_just_if_their_strings_are_not_empty
    (hostStep_openA nameA dataRAW none 8 rfl rfl (by simp [freshWorld]))
    (up_openARecord freshWorld nameA dataRAW none 8 remoteHandle)
    (passes_openARecord freshWorld nameA dataRAW none 8 remoteHandle)).mpr
    ⟨rfl, by simp [nameA, cString], by simp [dataRAW, cString]⟩

/-- An open with defaults that leave the data type to the printer reads through NULL. -/
def unreadTrace : Trace x86Deployment :=
  [⟨.ensure_connection, true, freshWorld.idle⟩,
    ⟨.isBixolonPrinterByName (cString nameA), true, freshWorld.idle⟩]

theorem an_open_without_a_data_type_reads_null :
    ¬ ∀ (d : Deployment) (W W' : World d) (pPrinterName : Option Bytes) (phPrinter : Bool)
      (pDefault : Option PRINTER_DEFAULTS) (tr : Trace d)
      (r : Except Abnormal (OpenRet (HANDLE d.client))),
      HostStep detour W ⟨.OpenPrinterA pPrinterName phPrinter pDefault, tr, r⟩ W' →
      Up W.server.pid ⟨.OpenPrinterA pPrinterName phPrinter pDefault, tr, r⟩ → Passes tr →
      W.server.fp .OpenPrinterA = true → OpenArrives pPrinterName pDefault tr r := by
  intro law
  have hstep : HostStep detour freshWorld
      ⟨.OpenPrinterA (some nameA) true (some ⟨none, none, 8⟩), unreadTrace, .error .nullRead⟩
      freshWorld := by
    apply Prog.RunsIn.next (World.env_connected (by simp [freshWorld]))
    apply Prog.RunsIn.next (World.env_named freshWorld (cString nameA) true)
    exact ⟨rfl, rfl, rfl⟩
  have harr := law _ _ _ _ _ _ _ _ hstep ?_ ?_ rfl
  · exact harr.1 rfl
  · intro o ho
    simp only [unreadTrace, List.mem_cons, List.not_mem_nil, or_false] at ho
    rcases ho with rfl | rfl
    · exact ⟨rfl, rfl⟩
    · exact ⟨rfl, trivial⟩
  · exact Or.inl ⟨cString nameA, freshWorld.idle, by simp [unreadTrace]⟩

/-! ## `StartDocPrinterW` -/

/-- What Windows admits at a level: a `DOC_INFO_1W` or a `DOC_INFO_3W` with wide strings that end,
or NULL. -/
def Admits (Level : DWORD) (pDocInfo : Option DOC_INFO) : Prop :=
  ∀ doc ∈ pDocInfo, (Level = 1 ∧ doc.dwFlags = none ∨ Level = 3 ∧ doc.dwFlags ≠ none) ∧
    (∀ m ∈ doc.pDocName, EndsWide m) ∧ (∀ m ∈ doc.pOutputFile, EndsWide m) ∧
    ∀ m ∈ doc.pDatatype, EndsWide m

/-- The documents of the host and of the server: NULL together, with the same strings and the same
flags, if they have any. -/
def SameDocument : Option DOC_INFO → Option DOC_INFO → Prop
  | none, none => True
  | some doc, some doc' =>
    SameWide doc.pDocName doc'.pDocName ∧ SameWide doc.pOutputFile doc'.pOutputFile ∧
      SameWide doc.pDatatype doc'.pDatatype ∧ doc'.dwFlags = doc.dwFlags
  | _, _ => False

/-- The server makes one call, with the level and the document of the host, and the host gets the
job that this starts. -/
def DocumentArrives (hPrinter : HANDLE d.client) (Level : DWORD) (pDocInfo : Option DOC_INFO)
    (tr : Trace d) (r : Except Abnormal DWORD) : Prop :=
  ∃ doc job, serverCalls tr =
      [⟨.StartDocPrinterW (d.serverHandle hPrinter) Level doc, job, ()⟩] ∧
    SameDocument pDocInfo doc ∧ r = .ok job

section
variable {W W' : World d} {hPrinter : HANDLE d.client} {Level : DWORD}
  {pDocInfo : Option DOC_INFO} {tr : Trace d} {r : Except Abnormal DWORD}

/-- A start of a document whose request is answered returns the job of the server. -/
theorem documentArrives_iff
    (h : HostStep detour W ⟨.StartDocPrinterW hPrinter Level pDocInfo, tr, r⟩ W')
    (hup : Up W.server.pid ⟨.StartDocPrinterW hPrinter Level pDocInfo, tr, r⟩)
    (hpass : Passes tr) {n o t : Bytes}
    (hq : (.StartDocPrinterW hPrinter Level pDocInfo : SpoolCall (HANDLE d.client)).request =
      some (.StartDocPrinterW (SAFE_HANDLE hPrinter) Level n o t))
    (hrun : Prog.RunsIn World.env
      (forwardOr hPrinter
        (api (.spool (.StartDocPrinterW (SAFE_HANDLE hPrinter) Level n o t)) >>= Prog.done)
        (fpOriginal (.StartDocPrinterW hPrinter Level pDocInfo))) W tr r W') :
    DocumentArrives hPrinter Level pDocInfo tr r ↔
      W.server.fp .StartDocPrinterW = true ∧
        SameDocument pDocInfo (some { pDocName := THRIFT_ZERO_SIZE_STRING_TO_NULL n
                                      pOutputFile := THRIFT_ZERO_SIZE_STRING_TO_NULL o
                                      pDatatype := THRIFT_ZERO_SIZE_STRING_TO_NULL t }) := by
  by_cases hfp : W.server.fp .StartDocPrinterW = true
  · obtain ⟨job, m, hcalls, hmem⟩ := h.carried hup hpass hq hfp
    have hr : r = .ok job := result_of_answer rfl hrun hmem
    have hcalls' : serverCalls tr = [⟨.StartDocPrinterW (d.serverHandle hPrinter) Level
        (some { pDocName := THRIFT_ZERO_SIZE_STRING_TO_NULL n
                pOutputFile := THRIFT_ZERO_SIZE_STRING_TO_NULL o
                pDatatype := THRIFT_ZERO_SIZE_STRING_TO_NULL t }), job, ()⟩] := hcalls
    unfold DocumentArrives
    rw [hcalls', and_iff_right hfp]
    constructor
    · rintro ⟨doc, job', hone, hdoc, -⟩
      cases hone
      exact hdoc
    · intro hdoc
      exact ⟨_, job, rfl, hdoc, hr⟩
  · have hnone : serverCalls tr = [] := h.refused hup hpass hq (Bool.eq_false_iff.mpr hfp)
    unfold DocumentArrives
    rw [hnone]
    simp [hfp]

/-- The document that the server makes of the request is that of the host, just if there is one, of
level 1. -/
theorem sameDocument_sent (hdoc : Admits Level pDocInfo) :
    SameDocument pDocInfo (some
      { pDocName := THRIFT_ZERO_SIZE_STRING_TO_NULL
          (THRIFT_W_TO_STRING (pDocInfo.bind (·.pDocName)))
        pOutputFile := THRIFT_ZERO_SIZE_STRING_TO_NULL
          (THRIFT_W_TO_STRING (pDocInfo.bind (·.pOutputFile)))
        pDatatype := THRIFT_ZERO_SIZE_STRING_TO_NULL
          (THRIFT_W_TO_STRING (pDocInfo.bind (·.pDatatype))) }) ↔
      pDocInfo ≠ none ∧ Level = 1 := by
  cases pDocInfo with
  | none => simp [SameDocument]
  | some doc =>
    obtain ⟨hlevel, hname, hfile, htype⟩ := hdoc doc rfl
    have hflags : none = doc.dwFlags ↔ Level = 1 := by
      rcases hlevel with ⟨rfl, hnone⟩ | ⟨rfl, hsome⟩
      · simp [hnone]
      · exact iff_of_false hsome.symm (by decide)
    simp only [SameDocument, SameWide, Option.bind_some, wide_round_trip hname,
      wide_round_trip hfile, wide_round_trip htype, true_and, hflags, ne_eq, reduceCtorEq,
      not_false_eq_true]

/-- The arguments of a forwarded `StartDocPrinterW` arrive just if the server has found the
function and there is a document of level 1. -/
theorem documents_arrive_just_if_they_are_of_level_1
    (h : HostStep detour W ⟨.StartDocPrinterW hPrinter Level pDocInfo, tr, r⟩ W')
    (hup : Up W.server.pid ⟨.StartDocPrinterW hPrinter Level pDocInfo, tr, r⟩)
    (hpass : Passes tr) (hdoc : Admits Level pDocInfo) :
    DocumentArrives hPrinter Level pDocInfo tr r ↔
      W.server.fp .StartDocPrinterW = true ∧ pDocInfo ≠ none ∧ Level = 1 := by
  rw [← sameDocument_sent hdoc]
  cases pDocInfo with
  | none => exact documentArrives_iff h hup hpass rfl (by rw [Prog.bind_done]; exact h)
  | some doc => exact documentArrives_iff h hup hpass rfl (by rw [Prog.bind_done]; exact h)

end

/-! ### Two documents -/

/-- A world in which the client tracks one handle of the server. -/
def trackingWorld : World x86Deployment := freshWorld.opened remoteHandle

def trackedHandle : HANDLE x86Deployment.client := x86Deployment.clientHandle remoteHandle

theorem mem_trackingWorld : trackedHandle ∈ trackingWorld.bxprinters := by
  simp [trackingWorld, World.opened, trackedHandle]

/-- A document with the name `A` and nothing else, with flags or without. -/
def documentA (dwFlags : Option DWORD) : DOC_INFO where
  pDocName := some (inMemory letterA [])
  pOutputFile := none
  pDatatype := none
  dwFlags := dwFlags

theorem admits_documentA {Level : DWORD} {dwFlags : Option DWORD}
    (h : Level = 1 ∧ dwFlags = none ∨ Level = 3 ∧ dwFlags ≠ none) :
    Admits Level (some (documentA dwFlags)) := by
  rintro doc ⟨⟩
  refine ⟨h, ?_, by simp [documentA], by simp [documentA]⟩
  rintro m ⟨⟩
  exact endsWide_inMemory letterA []

/-- The start of the document, which the server answers with the job 5. -/
def startA (Level : DWORD) (dwFlags : Option DWORD) : CallRecord x86Deployment :=
  startDocRecord trackingWorld trackedHandle Level (documentA dwFlags) 5

theorem startA_step (Level : DWORD) (dwFlags : Option DWORD) :
    HostStep detour trackingWorld (startA Level dwFlags) trackingWorld :=
  hostStep_startDoc Level (documentA dwFlags) 5 rfl rfl mem_trackingWorld

theorem passes_startA (Level : DWORD) (dwFlags : Option DWORD) :
    Passes (startA Level dwFlags).trace :=
  Or.inr ⟨trackedHandle, trackingWorld.idle, by simp [startA, startDocRecord]⟩

theorem a_document_of_level_1_arrives :
    DocumentArrives trackedHandle 1 (some (documentA none)) (startA 1 none).trace (.ok 5) :=
  (documents_arrive_just_if_they_are_of_level_1 (startA_step 1 none)
    (up_startDocRecord trackingWorld trackedHandle 1 (documentA none) 5) (passes_startA 1 none)
    (admits_documentA (Or.inl ⟨rfl, rfl⟩))).mpr ⟨rfl, by simp, rfl⟩

/-- A document of level 3 goes to the server as one of level 3, without its flags. -/
theorem a_document_of_level_3_loses_its_flags :
    ¬ ∀ (d : Deployment) (W W' : World d) (hPrinter : HANDLE d.client) (Level : DWORD)
      (pDocInfo : Option DOC_INFO) (tr : Trace d) (r : Except Abnormal DWORD),
      HostStep detour W ⟨.StartDocPrinterW hPrinter Level pDocInfo, tr, r⟩ W' →
      Up W.server.pid ⟨.StartDocPrinterW hPrinter Level pDocInfo, tr, r⟩ → Passes tr →
      Admits Level pDocInfo → W.server.fp .StartDocPrinterW = true →
      DocumentArrives hPrinter Level pDocInfo tr r := by
  intro law
  have hadmits : Admits 3 (some (documentA (some 1))) :=
    admits_documentA (Or.inr ⟨rfl, by simp⟩)
  obtain ⟨doc, job, hcalls, hdoc, -⟩ := law _ _ _ _ _ _ _ _ (startA_step 3 (some 1))
    (up_startDocRecord trackingWorld trackedHandle 3 (documentA (some 1)) 5)
    (passes_startA 3 (some 1)) hadmits rfl
  cases hcalls
  cases hdoc.2.2.2

end RemotePrinter
