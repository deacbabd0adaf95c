-- The temporary file of a print: what is in it when the vendor function gets its
-- path, and whether it is still there when the handler returns, whichever of the
-- file operations fail.
import RemotePrinter.PrintFiles

open Interactive

namespace RemotePrinter

/-! ## What is seen of a handler -/

/-- What a handler did, with the files before and after each operation. -/
abbrev FileTrace := List (Obs UsbOp UsbOp.Answer (Disk × Disk))

/-- The files as the environment of the handlers, with those before and after an operation as its
note. -/
def Disk.changes : Env UsbOp UsbOp.Answer (Disk × Disk) Disk :=
  fun D op a n D' => n = (D, D') ∧ D.Acts op a D'

/-- A vendor function is called on the path of a file with just the data. -/
def PrintsExactly (data : Bytes) (tr : FileTrace) : Prop :=
  ∀ o ∈ tr, ∀ c, o.op = .original c → ∃ path, c.file = some path ∧ o.note.1 path = some data

/-- The path of a file that the operation has created. -/
def createdAt (o : Obs UsbOp UsbOp.Answer (Disk × Disk)) : Option Bytes :=
  match o with
  | ⟨.GetTempFileNameA _, (ret, name), _⟩ => if ret = 0 then none else some (cString name)
  | _ => none

/-- Of the files that were created none is there any more. -/
def LeavesNothing (tr : FileTrace) (D' : Disk) : Prop :=
  ∀ path ∈ tr.filterMap createdAt, D' path = none

/-- Every file that is to be deleted is deleted. -/
def Deletes (tr : FileTrace) : Prop := ∀ p deleted n, ⟨.DeleteFileA p, deleted, n⟩ ∈ tr →
  deleted = true

/-- The file is opened, takes all that is written to it, and keeps it when it is closed. -/
def Whole (o : Obs UsbOp UsbOp.Answer (Disk × Disk)) : Prop :=
  match o with
  | ⟨.openFile _, opened, _⟩ => opened = true
  | ⟨.writeFile p data, _, (D, D')⟩ => D' p = some ((D p).getD [] ++ data)
  | ⟨.closeFile p, _, (D, D')⟩ => D' p = D p
  | _ => True

/-- The operation calls no vendor function, and creates no file. -/
def Silent (o : Obs UsbOp UsbOp.Answer (Disk × Disk)) : Prop :=
  (∀ c, o.op ≠ .original c) ∧ createdAt o = none

section
variable {data : Bytes} {tr tr' : FileTrace} {D' : Disk}

theorem printsExactly_append :
    PrintsExactly data (tr ++ tr') ↔ PrintsExactly data tr ∧ PrintsExactly data tr' :=
  List.forall_mem_append

theorem printsExactly_of_silent (h : ∀ o ∈ tr, Silent o) : PrintsExactly data tr :=
  fun o ho c hc => absurd hc ((h o ho).1 c)

theorem filterMap_of_silent (h : ∀ o ∈ tr, Silent o) : tr.filterMap createdAt = [] :=
  List.filterMap_eq_nil_iff.mpr fun o ho => (h o ho).2

end

/-! ## The two helpers -/

/-- No name is found, and no file is there, or a new file is there that is empty. -/
theorem getTempPath_changes {D D' : Disk} {tr : FileTrace} {a : Option Bytes}
    (h : ApiForwardHandler.getTempPath.RunsIn Disk.changes D tr (.ok a) D') :
    (∀ data, PrintsExactly data tr) ∧ (∀ o ∈ tr, Whole o) ∧
      tr.filterMap createdAt = a.toList ∧
      ∀ path ∈ a, D' path = some [] ∧ ∃ m, path = cString m := by
  obtain ⟨⟨ret, dir⟩, n, D₁, tr₁, ⟨rfl, rfl⟩, rfl, h⟩ := h
  change Prog.RunsIn Disk.changes (if ret > MAX_PATH ∨ ret = 0 then pure none else _) D₁ tr₁ _ D'
    at h
  split at h
  · obtain ⟨rfl, hr, rfl⟩ := h
    cases hr
    exact ⟨by simp [PrintsExactly], by simp [Whole], rfl, by simp⟩
  · obtain ⟨⟨ret', name⟩, n', D₂, tr₂, ⟨rfl, hact⟩, rfl, h⟩ := h
    change Prog.RunsIn Disk.changes (if ret' = 0 then pure none else pure (some (cString name)))
      D₂ tr₂ _ D' at h
    by_cases hret : ret' = 0
    · rw [if_pos hret] at h
      obtain ⟨rfl, hr, rfl⟩ := h
      cases hr
      refine ⟨by simp [PrintsExactly], by simp [Whole], ?_, by simp⟩
      simp [createdAt, hret]
    · rw [if_neg hret] at h
      obtain ⟨rfl, hr, rfl⟩ := h
      cases hr
      have hnew : D' = D₁.set (cString name) (some []) := by
        simp only [Disk.Acts, hret, if_false] at hact
        exact hact.2
      have hmade : createdAt ⟨.GetTempFileNameA (cString dir), (ret', name), (D₁, D')⟩ =
          some (cString name) := if_neg hret
      refine ⟨by simp [PrintsExactly], by simp [Whole], ?_, ?_⟩
      · rw [List.filterMap_cons_none rfl, List.filterMap_cons_some hmade]
        rfl
      · rintro path ⟨⟩
        exact ⟨by simp [hnew], name, rfl⟩

/-- What is in the file at the end is the data just if nothing was lost on the way. -/
theorem content_iff {D₁ D₂ D₃ : Disk} {path data : Bytes} {n : Nat} (h₁ : D₁ path = some [])
    (h₂ : D₂ path = some (data.take n))
    (h₃ : D₃ path = D₂ path ∨ ∃ k, D₃ path = some ((data.take n).take k)) :
    D₃ path = some data ↔ D₂ path = some ((D₁ path).getD [] ++ data) ∧ D₃ path = D₂ path := by
  rw [h₁, h₂]
  constructor
  · intro hdata
    have hall : data.take n = data := by
      rcases h₃ with h | ⟨k, h⟩
      · rw [h, h₂] at hdata
        exact Option.some.inj hdata
      · rw [h, List.take_take] at hdata
        have hk := congrArg List.length (Option.some.inj hdata)
        rw [List.length_take] at hk
        exact List.take_of_length_le (by omega)
    rw [hall, hdata]
    exact ⟨rfl, rfl⟩
  · rintro ⟨hall, hkept⟩
    rw [hkept]
    simpa using hall

/-- The file is not opened, or what is in it at the end shows whether anything was lost. -/
theorem write_to_file_changes {D D' : Disk} {tr : FileTrace} {path data : Bytes} {b : Bool}
    (h : (ApiForwardHandler.write_to_file path data).RunsIn Disk.changes D tr (.ok b) D') :
    (∀ o ∈ tr, Silent o) ∧
      (b = false → D' = D ∧ ¬ ∀ o ∈ tr, Whole o) ∧
      (b = true → (D' path = some data ↔ ∀ o ∈ tr, Whole o)) := by
  obtain ⟨opened, n, D₁, tr₁, ⟨rfl, hopen⟩, rfl, h⟩ := h
  cases opened with
  | false =>
    obtain rfl : D₁ = D := hopen
    obtain ⟨rfl, hr, rfl⟩ := h
    cases hr
    exact ⟨by simp [Silent, createdAt], by simp [Whole], by simp⟩
  | true =>
    have hempty : D₁ path = some [] := by
      rw [show D₁ = D.set path (some []) from hopen]
      apply Disk.set_same
    obtain ⟨good, n', D₂, tr₂, ⟨rfl, k, -, hwritten⟩, rfl, h⟩ := h
    obtain ⟨closed, n'', D₃, tr₃, ⟨rfl, k', hkept, hcut⟩, rfl, h⟩ := h
    obtain ⟨rfl, hr, rfl⟩ := h
    cases hr
    have hcontent : D₂ path = some (data.take k) := by
      rw [hwritten, Disk.set_same, hempty]
      rfl
    have hlast : D' path = D₂ path ∨ ∃ m, D' path = some ((data.take k).take m) := by
      cases closed with
      | true =>
        left
        rw [hkept rfl]
      | false =>
        refine Or.inr ⟨k', ?_⟩
        rw [hcut rfl, Disk.set_same, hcontent]
        rfl
    refine ⟨by simp [Silent, createdAt], by simp, fun _ => ?_⟩
    rw [content_iff hempty hcontent hlast]
    simp [Whole]

/-! ## The handlers -/

/-- A handler that prints a file hands on just the data, and leaves nothing behind, just if its
file is opened and nothing of the data is lost. -/
theorem printFile_iff {fp : Proc → Bool} {data : Bytes} {tested : Proc} (call : Bytes → UsbCall)
    {D D' : Disk} {tr : FileTrace} {r : I32} (hproc : ∀ p, (call p).proc = tested)
    (hfile : ∀ m, (call (cString m)).file = some (cString m))
    (h : (ApiForwardHandler.printFile fp data tested call).RunsIn Disk.changes D tr (.ok r) D')
    (hdeletes : Deletes tr) :
    PrintsExactly data tr ∧ LeavesNothing tr D' ↔ ∀ o ∈ tr, Whole o := by
  unfold ApiForwardHandler.printFile at h
  by_cases hfp : fp tested = true
  swap
  · rw [if_pos (by simp [hfp])] at h
    obtain ⟨rfl, -, -⟩ := h
    simp [PrintsExactly, LeavesNothing]
  rw [if_neg (by simp [hfp])] at h
  by_cases hd : data.length = 0
  · rw [if_pos hd] at h
    obtain ⟨rfl, -, -⟩ := h
    simp [PrintsExactly, LeavesNothing]
  rw [if_neg hd] at h
  rcases h.of_bind with ⟨x, -, hx⟩ | ⟨a, tr₁, tr₂, D₁, hpath, rfl, hrest⟩
  · cases hx
  obtain ⟨hprints, hwhole, hcreated, hnew⟩ := getTempPath_changes hpath
  cases a with
  | none =>
    obtain ⟨rfl, -, -⟩ := hrest
    rw [List.append_nil]
    exact iff_of_true ⟨hprints data, by simp [LeavesNothing, hcreated]⟩ hwhole
  | some path =>
    obtain ⟨hempty, m, rfl⟩ := hnew path rfl
    rcases Prog.RunsIn.of_bind hrest with ⟨x, -, hx⟩ | ⟨b, tr₃, tr₄, D₂, hwrite, rfl, hlast⟩
    · cases hx
    obtain ⟨hsilent, hclosed, hwritten⟩ := write_to_file_changes hwrite
    have hpaths : ∀ t : FileTrace, t.filterMap createdAt = [] →
        (LeavesNothing (tr₁ ++ (tr₃ ++ t)) D' ↔ D' (cString m) = none) := by
      intro t ht
      simp [LeavesNothing, hcreated, filterMap_of_silent hsilent, ht]
    cases b with
    | false =>
      -- the file that was created stays
      obtain ⟨rfl, -, rfl⟩ := hlast
      obtain ⟨rfl, hnot⟩ := hclosed rfl
      refine iff_of_false (fun hboth => ?_) (fun hall => hnot fun o ho => hall o (by simp [ho]))
      rw [hpaths [] rfl, hempty] at hboth
      cases hboth.2
    | true =>
      unfold ApiForwardHandler.callVendor at hlast
      rw [if_neg (by simp), hproc, if_pos hfp] at hlast
      obtain ⟨o, l, D₅, tr₅, ⟨rfl, rfl⟩, rfl, hdelete⟩ := hlast
      obtain ⟨deleted, l, D₆, tr₆, ⟨rfl, hgone⟩, rfl, rfl, -, rfl⟩ := hdelete
      have hdeleted : deleted = true := hdeletes (cString m) deleted _
        (List.mem_append_right _ (List.mem_append_right _
          (List.mem_cons_of_mem _ (List.mem_singleton_self _))))
      rw [hdeleted] at hgone
      have hnothing : D' (cString m) = none := by
        rw [show D' = D₅.set (cString m) none from hgone]
        apply Disk.set_same
      rw [hpaths _ rfl, and_iff_left hnothing, printsExactly_append, printsExactly_append,
        and_iff_right (hprints data), and_iff_right (printsExactly_of_silent hsilent),
        List.forall_mem_append, and_iff_right hwhole, List.forall_mem_append, ← hwritten rfl]
      simp [PrintsExactly, Whole, hfile]

/-- Both handlers that print a file call the vendor function on a file with just the data, and
leave no file behind, just if the file is opened, all the data is written to it and it keeps the
data when it is closed. -/
theorem prints_are_exact_just_if_nothing_is_lost {fp : Proc → Bool} {data : Bytes} {D D' : Disk}
    {tr : FileTrace} {r : I32} (hdeletes : Deletes tr) :
    (∀ pbmpDir,
      (ApiForwardHandler.PrintBitmap fp pbmpDir data).RunsIn Disk.changes D tr (.ok r) D' →
      (PrintsExactly data tr ∧ LeavesNothing tr D' ↔ ∀ o ∈ tr, Whole o)) ∧
    ∀ nColumns nRows nWidth nHeight nECLevel nModule pBuffer,
      (ApiForwardHandler.PrintPDF417 fp nColumns nRows nWidth nHeight nECLevel nModule pBuffer
        data).RunsIn Disk.changes D tr (.ok r) D' →
      (PrintsExactly data tr ∧ LeavesNothing tr D' ↔ ∀ o ∈ tr, Whole o) := by
  have hpath : ∀ m, some (cString (cStr (cString m))) = some (cString m) := fun m => by
    rw [cString_cStr]
  refine ⟨fun pbmpDir h => ?_, fun nColumns nRows nWidth nHeight nECLevel nModule pBuffer h => ?_⟩
  · exact printFile_iff (fun p => .PrintBitmap (some (cStr p))) (fun _ => rfl) hpath h hdeletes
  · exact printFile_iff
      (fun p => .PrintPDF417 nColumns nRows nWidth nHeight nECLevel nModule (some (cStr p)))
      (fun _ => rfl) hpath h hdeletes

/-! ### Three prints -/

/-- The one file of the server while it prints. -/
def tempDisk (content : Option Bytes) : Disk := fun p => if p = tempName then content else none

theorem tempDisk_set (content content' : Option Bytes) :
    (tempDisk content).set tempName content' = tempDisk content' := by
  funext p
  by_cases hp : p = tempName <;> simp [Disk.set, tempDisk, hp]

/-- The name of the file is found, and the file is made. -/
def nameTrace : FileTrace :=
  [⟨.GetTempPathA, (1, []), (tempDisk none, tempDisk none)⟩,
    ⟨.GetTempFileNameA [], (1, tempName), (tempDisk none, tempDisk (some []))⟩]

theorem nameTrace_run :
    ApiForwardHandler.getTempPath.RunsIn Disk.changes (tempDisk none) nameTrace
      (.ok (some tempName)) (tempDisk (some [])) := by
  have hdir : Disk.changes (tempDisk none) .GetTempPathA (1, []) (tempDisk none, tempDisk none)
    (tempDisk none) := ⟨rfl, rfl⟩
  have hname : Disk.changes (tempDisk none) (.GetTempFileNameA []) (1, tempName)
      (tempDisk none, tempDisk (some [])) (tempDisk (some [])) :=
    ⟨rfl, rfl, (tempDisk_set none (some [])).symm⟩
  exact .next hdir (.next hname (.ended _ _))

/-- A print of some data, of which the disk has room for `n` bytes. -/
def printTrace (data : Bytes) (n : Nat) : FileTrace :=
  nameTrace ++
    ([⟨.openFile tempName, true, (tempDisk (some []), tempDisk (some []))⟩,
      ⟨.writeFile tempName data, decide (n = data.length),
        (tempDisk (some []), tempDisk (some (data.take n)))⟩,
      ⟨.closeFile tempName, true,
        (tempDisk (some (data.take n)), tempDisk (some (data.take n)))⟩] ++
    [⟨.original (.PrintBitmap (some (cStr tempName))), { ret := 1 },
        (tempDisk (some (data.take n)), tempDisk (some (data.take n)))⟩,
      ⟨.DeleteFileA tempName, true, (tempDisk (some (data.take n)), tempDisk none)⟩])

theorem printTrace_run {data : Bytes} (hd : data.length ≠ 0) (n : Nat) :
    (ApiForwardHandler.PrintBitmap (fun _ => true) bitmapPath data).RunsIn Disk.changes
      (tempDisk none) (printTrace data n) (.ok 1) (tempDisk none) := by
  have hopen : Disk.changes (tempDisk (some [])) (.openFile tempName) true
      (tempDisk (some []), tempDisk (some [])) (tempDisk (some [])) :=
    ⟨rfl, (tempDisk_set (some []) (some [])).symm⟩
  have hwrite : Disk.changes (tempDisk (some [])) (.writeFile tempName data)
      (decide (n = data.length)) (tempDisk (some []), tempDisk (some (data.take n)))
      (tempDisk (some (data.take n))) :=
    ⟨rfl, n, of_decide_eq_true, (tempDisk_set (some []) (some (data.take n))).symm⟩
  have hclose (D : Disk) : Disk.changes D (.closeFile tempName) true (D, D) D :=
    ⟨rfl, 0, fun _ => rfl, fun h => by cases h⟩
  have hprint (D : Disk) : Disk.changes D (.original (.PrintBitmap (some (cStr tempName))))
      { ret := 1 } (D, D) D := ⟨rfl, rfl⟩
  have hdelete (content : Option Bytes) : Disk.changes (tempDisk content) (.DeleteFileA tempName)
      true (tempDisk content, tempDisk none) (tempDisk none) :=
    ⟨rfl, (tempDisk_set content none).symm⟩
  change Prog.RunsIn Disk.changes (if data.length = 0 then return 0 else _) _ _ _ _
  rw [if_neg hd]
  apply nameTrace_run.bind
  have hfile : (ApiForwardHandler.write_to_file tempName data).RunsIn Disk.changes
      (tempDisk (some [])) _ (.ok true) (tempDisk (some (data.take n))) :=
    .next hopen (.next hwrite (.next (hclose _) (.ended _ _)))
  exact hfile.bind (.next (hprint _) (.next (hdelete _) (.ended _ _)))

theorem printTrace_deletes (data : Bytes) (n : Nat) : Deletes (printTrace data n) := by
  intro p deleted l hmem
  simp only [printTrace, nameTrace, List.cons_append, List.nil_append, List.mem_cons,
    List.not_mem_nil, or_false] at hmem
  rcases hmem with h | h | h | h | h | h | h <;> cases h
  rfl

theorem a_print_without_a_loss_is_exact :
    PrintsExactly [0x42, 0x4D] (printTrace [0x42, 0x4D] 2) ∧
      LeavesNothing (printTrace [0x42, 0x4D] 2) (tempDisk none) := by
  apply ((prints_are_exact_just_if_nothing_is_lost (printTrace_deletes [0x42, 0x4D] 2)).1 bitmapPath
    (printTrace_run (by simp) 2)).mpr
  simp [printTrace, nameTrace, Whole, tempDisk]

/-- The file was made, and cannot be opened. -/
def unopenedTrace : FileTrace :=
  nameTrace ++ [⟨.openFile tempName, false, (tempDisk (some []), tempDisk (some []))⟩]

theorem unopenedTrace_run {data : Bytes} (hd : data.length ≠ 0) :
    (ApiForwardHandler.PrintBitmap (fun _ => true) bitmapPath data).RunsIn Disk.changes
      (tempDisk none) unopenedTrace (.ok 0) (tempDisk (some [])) := by
  have hopen : Disk.changes (tempDisk (some [])) (.openFile tempName) false
      (tempDisk (some []), tempDisk (some [])) (tempDisk (some [])) := ⟨rfl, rfl⟩
  change Prog.RunsIn Disk.changes (if data.length = 0 then return 0 else _) _ _ _ _
  rw [if_neg hd]
  exact nameTrace_run.bind (.next hopen (.ended _ _))

/-- Of two bytes the disk takes one, and that is printed; and a file that cannot be opened stays. -/
theorem prints_go_on_without_their_file :
    (¬ ∀ (fp : Proc → Bool) (pbmpDir data : Bytes) (D D' : Disk) (tr : FileTrace) (r : I32),
      (ApiForwardHandler.PrintBitmap fp pbmpDir data).RunsIn Disk.changes D tr (.ok r) D' →
      Deletes tr → PrintsExactly data tr) ∧
    ¬ ∀ (fp : Proc → Bool) (pbmpDir data : Bytes) (D D' : Disk) (tr : FileTrace) (r : I32),
      (ApiForwardHandler.PrintBitmap fp pbmpDir data).RunsIn Disk.changes D tr (.ok r) D' →
      Deletes tr → LeavesNothing tr D' := by
  constructor
  · intro law
    have hexact := law _ _ [0x42, 0x4D] _ _ _ _ (printTrace_run (by simp) 1)
      (printTrace_deletes _ 1)
    obtain ⟨path, hpath, hcontent⟩ := hexact
      ⟨.original (.PrintBitmap (some (cStr tempName))), { ret := 1 },
        (tempDisk (some [0x42]), tempDisk (some [0x42]))⟩ (by simp [printTrace]) _ rfl
    have hname : path = tempName := by
      cases hpath
      decide
    rw [hname] at hcontent
    simp [tempDisk] at hcontent
  · intro law
    have hnothing := law _ _ [0x42] _ _ _ _ (unopenedTrace_run (by simp)) ?_
    · have hcreated : unopenedTrace.filterMap createdAt = [tempName] := rfl
      have hgone := hnothing tempName (by rw [hcreated]; exact List.mem_singleton_self _)
      simp [tempDisk] at hgone
    · intro p deleted l hmem
      simp only [unopenedTrace, nameTrace, List.cons_append, List.nil_append, List.mem_cons,
        List.not_mem_nil, or_false] at hmem
      rcases hmem with h | h | h <;> cases h

end RemotePrinter
