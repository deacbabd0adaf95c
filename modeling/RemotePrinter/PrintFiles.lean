-- A file that the host prints: from the disk of the client, through the
-- request, to the temporary file of the server that the vendor function gets.
import RemotePrinter.TextMode
import RemotePrinter.UsbHandlers
import Mathlib.Data.List.TakeWhile

open Interactive CRuntime

namespace RemotePrinter

/-! ## The path of a file -/

/-- The file that a call of the vendor library prints. -/
def UsbCall.file : UsbCall → Option Bytes
  | PrintBitmap (some m) => some (cString m)
  | PrintPDF417 _ _ _ _ _ _ (some m) => some (cString m)
  | _ => none

/-- An operation on a file that succeeds. -/
def Succeeds {ℓ : Type} (o : Obs UsbOp UsbOp.Answer ℓ) : Prop :=
  match o with
  | ⟨.GetTempPathA, (ret, _), _⟩ => ret ≠ 0 ∧ ret ≤ MAX_PATH
  | ⟨.GetTempFileNameA _, (ret, _), _⟩ => ret ≠ 0
  | ⟨.openFile _, opened, _⟩ => opened = true
  | ⟨.writeFile .., good, _⟩ => good = true
  | ⟨.closeFile _, good, _⟩ => good = true
  | _ => True

/-- What a handler did, with the files before each operation. -/
abbrev Handled := List (Obs UsbOp UsbOp.Answer Disk)

/-- The files of the client and those of the server. -/
structure Disks where
  client : Disk
  server : Disk

/-- What `read_from_file` reads: the stream is opened without `std::ios::binary`. -/
def Disk.read_from_file (D : Disk) (file_path : Bytes) : Option Bytes :=
  (D file_path).map OpenMode.text.read

/-- The detours over the files of both programs. The connection is up, requests and answers
arrive as they were sent, and the file operations succeed. `fp` says which functions the server
has found. -/
def Disks.env {w : PtrWidth} (fp : Proc → Bool) :
    Env (ClientOp w) ClientOp.Answer Handled Disks :=
  fun D op a n D' =>
    match op, a with
    | .ensure_connection, b => b = true ∧ n = [] ∧ D' = D
    | .read_from_file p, data => data = D.client.read_from_file p ∧ n = [] ∧ D' = D
    | .api (.usb q), a =>
      ∃ r disk, (ApiForwardHandler.handleUsb fp q).RunsIn Disk.env D.server n (.ok r) disk ∧
        (∀ o ∈ n, Succeeds o) ∧ a = .ok r ∧ D' = { D with server := disk }
    | _, _ => False

/-- What is in the file whose path a vendor function gets. -/
def arrivalAt (o : Obs UsbOp UsbOp.Answer Disk) : Option (Option Bytes) :=
  match o with
  | ⟨.original c, _, D⟩ => c.file.map D
  | _ => none

/-- The files that the vendor functions were called with, by their contents. -/
def arrivals {w : PtrWidth} (tr : List (Obs (ClientOp w) ClientOp.Answer Handled)) :
    List (Option Bytes) :=
  tr.flatMap fun o => o.note.filterMap arrivalAt

/-! ## What a handler prints -/

theorem cString_cStr (m : Bytes) : cString (cStr (cString m)) = cString m := by
  unfold cStr cString
  rw [List.takeWhile_append_of_pos]
  · simp
  · intro b hb
    have := List.mem_takeWhile_imp hb
    simpa using this

theorem getTempPath_runsIn {D D' : Disk} {tr : Handled} {a : Option Bytes}
    (h : ApiForwardHandler.getTempPath.RunsIn Disk.env D tr (.ok a) D')
    (hs : ∀ o ∈ tr, Succeeds o) :
    tr.filterMap arrivalAt = [] ∧ ∃ name, a = some (cString name) := by
  obtain ⟨⟨ret, dir⟩, n, D₁, tr₁, henv, rfl, h⟩ := h
  obtain ⟨hret, hmax⟩ : ret ≠ 0 ∧ ret ≤ MAX_PATH := hs _ List.mem_cons_self
  have htest : ¬ (ret > MAX_PATH ∨ ret = 0) := by
    rintro (hgt | h0)
    · exact absurd hmax (BitVec.not_le.mpr hgt)
    · exact hret h0
  change Prog.RunsIn Disk.env (if ret > MAX_PATH ∨ ret = 0 then pure none else _) D₁ tr₁ _ D' at h
  rw [if_neg htest] at h
  obtain ⟨⟨ret', name⟩, n', D₂, tr₂, henv', rfl, h⟩ := h
  have hret' : ret' ≠ 0 := hs ⟨.GetTempFileNameA (cString dir), (ret', name), n'⟩
    (by simp)
  change Prog.RunsIn Disk.env (if ret' = 0 then pure none else pure (some (cString name))) D₂ tr₂ _
    D' at h
  rw [if_neg hret'] at h
  obtain ⟨rfl, hr, -⟩ := h
  exact ⟨rfl, name, Except.ok.inj hr⟩

/-- A file that is written without a failure holds the data. -/
theorem write_to_file_runsIn {D D' : Disk} {tr : Handled} {path data : Bytes} {b : Bool}
    (h : (ApiForwardHandler.write_to_file path data).RunsIn Disk.env D tr (.ok b) D')
    (hs : ∀ o ∈ tr, Succeeds o) :
    tr.filterMap arrivalAt = [] ∧ b = true ∧ D' path = some data := by
  obtain ⟨opened, n, D₁, tr₁, henv, rfl, h⟩ := h
  obtain rfl : opened = true := hs _ List.mem_cons_self
  obtain ⟨good, n', D₂, tr₂, ⟨-, k, hall, hwritten⟩, rfl, h⟩ := h
  obtain ⟨closed, n'', D₃, tr₃, ⟨-, k', hkept, -⟩, rfl, h⟩ := h
  obtain ⟨rfl, hr, rfl⟩ := h
  have hgood : good = true := hs ⟨.writeFile path data, good, n'⟩ (by simp)
  have hclosed : closed = true := hs ⟨.closeFile path, closed, n''⟩ (by simp)
  have hempty : D₁ path = some [] := by
    rw [henv.2]
    exact Disk.set_same D path (some [])
  refine ⟨rfl, Except.ok.inj hr, ?_⟩
  rw [hkept hclosed, hwritten, Disk.set_same, hempty, hall hgood]
  simp

/-- With the file operations succeeding, the vendor function gets a file with the data. -/
theorem printFile_runsIn {fp : Proc → Bool} {data : Bytes} {tested : Proc}
    (call : Bytes → UsbCall) {D D' : Disk} {tr : Handled} {r : I32}
    (hproc : ∀ p, (call p).proc = tested)
    (hfile : ∀ m, (call (cString m)).file = some (cString m))
    (h : (ApiForwardHandler.printFile fp data tested call).RunsIn Disk.env D tr (.ok r) D')
    (hs : ∀ o ∈ tr, Succeeds o) :
    tr.filterMap arrivalAt = if fp tested = true ∧ data ≠ [] then [some data] else [] := by
  unfold ApiForwardHandler.printFile at h
  by_cases hfp : fp tested = true
  · by_cases hd : data.length = 0
    · rw [hfp, if_neg (by simp), if_pos hd] at h
      obtain ⟨rfl, -, -⟩ := h
      simp [List.length_eq_zero_iff.mp hd]
    · rw [hfp, if_neg (by simp), if_neg hd] at h
      rcases h.of_bind with ⟨x, -, hx⟩ | ⟨a, tr₁, tr₂, D₁, hpath, rfl, hrest⟩
      · cases hx
      obtain ⟨hnone, name, rfl⟩ := getTempPath_runsIn hpath fun o ho => hs o (by simp [ho])
      rcases Prog.RunsIn.of_bind hrest with ⟨x, -, hx⟩ | ⟨a, tr₃, tr₄, D₂, hwrite, rfl, hlast⟩
      · cases hx
      obtain ⟨hnone', rfl, hcontent⟩ :=
        write_to_file_runsIn hwrite fun o ho => hs o (by simp [ho])
      unfold ApiForwardHandler.callVendor at hlast
      rw [if_neg (by simp), hproc, if_pos hfp] at hlast
      obtain ⟨ret, n, D₃, tr₅, ⟨rfl, -⟩, rfl, b, n', D₄, tr₆, -, rfl, rfl, -, -⟩ := hlast
      rw [List.filterMap_append, List.filterMap_append, hnone, hnone']
      simp [arrivalAt, hfile, hcontent, hfp, List.length_eq_zero_iff.not.mp hd]
  · rw [Bool.not_eq_true] at hfp
    rw [hfp] at h
    obtain ⟨rfl, -, -⟩ := h
    simp [hfp]

/-! ## What the host prints -/

section
variable {w : PtrWidth} {fp : Proc → Bool} {D D' : Disks} {c : UsbCall}
  {tr : List (Obs (ClientOp w) ClientOp.Answer Handled)} {r : Except Abnormal I32}

/-- Both detours that print a file read it and send what they read. -/
theorem detour_runsIn {path content : Bytes} {q : Bytes → UsbRequest}
    (hcontent : D.client path = some content)
    (run : Prog.RunsIn (Disks.env fp)
      (do
        if !(← ensure_connection) then return 0
        match ← read_from_file path with
        | none => return 0
        | some data => (api (.usb (q data)) : Client w I32)) D tr r D') :
    ∃ (h : Handled) (v : I32) (disk : Disk),
      (ApiForwardHandler.handleUsb fp (q (readText content))).RunsIn Disk.env D.server h (.ok v)
        disk ∧ (∀ o ∈ h, Succeeds o) ∧ arrivals tr = h.filterMap arrivalAt := by
  obtain ⟨up, n, D₁, tr₁, ⟨rfl, rfl, rfl⟩, rfl, run⟩ := run
  obtain ⟨data, n', D₂, tr₂, ⟨rfl, rfl, rfl⟩, rfl, run⟩ := run
  have hread : D₂.client.read_from_file path = some (readText content) := by
    unfold Disk.read_from_file
    rw [hcontent]
    rfl
  rw [hread] at run
  obtain ⟨a, h, D₃, tr₃, ⟨v, disk, hrun, hs, rfl, rfl⟩, rfl, rfl, -, -⟩ := run
  refine ⟨h, v, disk, hrun, hs, ?_⟩
  simp [arrivals]

/-- The vendor function gets what a stream in text mode reads of the file, if that is anything. -/
theorem arrivals_eq {path content : Bytes} (hfile : c.file = some path)
    (hcontent : D.client path = some content)
    (run : (usbDetour c).RunsIn (Disks.env fp) D tr r D') :
    arrivals tr =
      if fp c.proc = true ∧ readText content ≠ [] then [some (readText content)] else [] := by
  have hpath : ∀ m, some (cString (cStr (cString m))) = some (cString m) := fun m => by
    rw [cString_cStr]
  cases c with
  | PrintBitmap p =>
    cases p with
    | none => cases hfile
    | some m =>
      cases hfile
      obtain ⟨h, v, disk, hrun, hs, harr⟩ :=
        detour_runsIn (q := .PrintBitmap (cString m)) hcontent run
      rw [harr]
      exact printFile_runsIn (fun p => .PrintBitmap (some (cStr p))) (fun _ => rfl) hpath hrun hs
  | PrintPDF417 co ro wi he ec mo p =>
    cases p with
    | none => cases hfile
    | some m =>
      cases hfile
      obtain ⟨h, v, disk, hrun, hs, harr⟩ :=
        detour_runsIn (q := .PrintPDF417 co ro wi he ec mo (cString m)) hcontent run
      rw [harr]
      exact printFile_runsIn (fun p => .PrintPDF417 co ro wi he ec mo (some (cStr p)))
        (fun _ => rfl) hpath hrun hs
  | OpenUsbPort | CloseUsbPort | WriteUSB | ReadUSB | Print1DBarcode | PrintQRCode => cases hfile

/-- A file that the host prints reaches the vendor function as it is, if the server has found the
function, just if it has no byte that means something else in text mode. -/
theorem a_file_arrives_just_if_it_is_plain {path content : Bytes} (hfile : c.file = some path)
    (hcontent : D.client path = some content) (hne : content ≠ [])
    (run : (usbDetour c).RunsIn (Disks.env fp) D tr r D') :
    arrivals tr = (if fp c.proc = true then [some content] else []) ↔
      fp c.proc = false ∨ Plain content := by
  rw [arrivals_eq hfile hcontent run]
  by_cases hfp : fp c.proc = true
  · rw [← readText_eq_self_iff]
    by_cases hempty : readText content = []
    · simp [hfp, hempty, hne.symm]
    · simp [hfp, hempty]
  · simp [hfp]

end

/-! ### One bitmap -/

def bitmapPath : Bytes := ascii ['a', '.', 'b', 'm', 'p']

def tempName : Bytes := ascii ['a', 'p', 'i', '.', 't', 'm', 'p']

def printBitmap : UsbCall := .PrintBitmap (some bitmapPath)

/-- The client has the one file. -/
def disksWith (content : Bytes) : Disks where
  client := fun p => if p = bitmapPath then some content else none
  server := fun _ => none

theorem getTempPath_run {D : Disk} (hnew : D tempName = none) :
    ∃ tr D', ApiForwardHandler.getTempPath.RunsIn Disk.env D tr (.ok (some tempName)) D' ∧
      ∀ o ∈ tr, Succeeds o := by
  have hdir : Disk.env D .GetTempPathA (1, []) D D := ⟨rfl, rfl⟩
  have hname : Disk.env D (.GetTempFileNameA []) (1, tempName) D (D.set tempName (some [])) :=
    ⟨rfl, hnew, rfl⟩
  refine ⟨_, _, .next hdir (.next hname (.ended _ _)), ?_⟩
  intro o ho
  simp only [List.mem_cons, List.not_mem_nil, or_false] at ho
  rcases ho with rfl | rfl
  · exact ⟨by decide, by decide⟩
  · exact (by decide : (1 : DWORD) ≠ 0)

theorem write_to_file_run (D : Disk) (path data : Bytes) :
    ∃ tr D', (ApiForwardHandler.write_to_file path data).RunsIn Disk.env D tr (.ok true) D' ∧
      ∀ o ∈ tr, Succeeds o := by
  have hopen : Disk.env D (.openFile path) true D (D.set path (some [])) := ⟨rfl, rfl⟩
  have hwrite (D : Disk) : Disk.env D (.writeFile path data) true D
      (D.set path (some ((D path).getD [] ++ data.take data.length))) :=
    ⟨rfl, _, fun _ => rfl, rfl⟩
  have hclose (D : Disk) : Disk.env D (.closeFile path) true D D :=
    ⟨rfl, 0, fun _ => rfl, fun h => by cases h⟩
  refine ⟨_, _, .next hopen (.next (hwrite _) (.next (hclose _) (.ended _ _))), ?_⟩
  intro o ho
  simp only [List.mem_cons, List.not_mem_nil, or_false] at ho
  rcases ho with rfl | rfl | rfl <;> rfl

/-- The server writes the file, has it printed and deletes it. -/
theorem printBitmap_handled {data : Bytes} (hd : data.length ≠ 0) :
    ∃ h v disk, (ApiForwardHandler.handleUsb (fun _ => true) (.PrintBitmap bitmapPath data)).RunsIn
      Disk.env (fun _ => none) h (.ok v) disk ∧ ∀ o ∈ h, Succeeds o := by
  obtain ⟨tr, D₁, hpath, hs⟩ := getTempPath_run (D := fun _ => none) rfl
  obtain ⟨tr', D₂, hwrite, hs'⟩ := write_to_file_run D₁ tempName data
  have hprint : Disk.env D₂ (.original (.PrintBitmap (some (cStr tempName)))) ⟨1, []⟩ D₂ D₂ :=
    ⟨rfl, rfl⟩
  have hdelete : Disk.env D₂ (.DeleteFileA tempName) true D₂ (D₂.set tempName none) := ⟨rfl, rfl⟩
  have hrun : (ApiForwardHandler.handleUsb (fun _ => true) (.PrintBitmap bitmapPath data)).RunsIn
      Disk.env (fun _ => none)
      (tr ++ (tr' ++ [⟨.original (.PrintBitmap (some (cStr tempName))), ⟨1, []⟩, D₂⟩,
        ⟨.DeleteFileA tempName, true, D₂⟩])) (.ok 1) (D₂.set tempName none) := by
    change Prog.RunsIn Disk.env (if data.length = 0 then return 0 else _) _ _ _ _
    rw [if_neg hd]
    exact hpath.bind (hwrite.bind (.next hprint (.next hdelete (.ended _ _))))
  refine ⟨_, _, _, hrun, ?_⟩
  intro o ho
  simp only [List.mem_append, List.mem_cons, List.not_mem_nil, or_false] at ho
  rcases ho with ho | ho | rfl | rfl
  · exact hs o ho
  · exact hs' o ho
  · trivial
  · trivial

theorem printBitmap_run (content : Bytes) (hd : (readText content).length ≠ 0) :
    ∃ tr r D', (usbDetour printBitmap : Client .x86 I32).RunsIn (Disks.env fun _ => true)
      (disksWith content) tr r D' := by
  obtain ⟨h, v, disk, hrun, hs⟩ := printBitmap_handled hd
  refine ⟨_, _, _, .next ⟨rfl, rfl, rfl⟩ (.next ⟨rfl, rfl, rfl⟩
    (.next (a := .ok v) ⟨v, disk, hrun, hs, rfl, rfl⟩ (.ended _ _)))⟩

/-- A line end in a file is shortened on the way. -/
theorem a_line_end_is_lost :
    ¬ ∀ (w : PtrWidth) (fp : Proc → Bool) (D D' : Disks) (c : UsbCall) (path content : Bytes)
      (tr : List (Obs (ClientOp w) ClientOp.Answer Handled)) (r : Except Abnormal I32),
      c.file = some path → D.client path = some content → content ≠ [] →
      (usbDetour c).RunsIn (Disks.env fp) D tr r D' →
      arrivals tr = if fp c.proc = true then [some content] else [] := by
  intro law
  obtain ⟨tr, r, D', run⟩ := printBitmap_run [CR, LF] (by decide)
  have harr := law _ _ _ _ _ _ _ _ _ rfl rfl (by simp) run
  rw [arrivals_eq rfl rfl run] at harr
  revert harr
  decide

theorem a_plain_file_arrives :
    ∃ tr r D', (usbDetour printBitmap : Client .x86 I32).RunsIn (Disks.env fun _ => true)
      (disksWith [0x42, 0x4D]) tr r D' ∧ arrivals tr = [some [0x42, 0x4D]] := by
  obtain ⟨tr, r, D', run⟩ := printBitmap_run [0x42, 0x4D] (by decide)
  refine ⟨tr, r, D', run, ?_⟩
  refine (a_file_arrives_just_if_it_is_plain rfl rfl (by simp) run).mpr ?_
  exact Or.inr ((readText_eq_self_iff _).mp (by decide))

end RemotePrinter
