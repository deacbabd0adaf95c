-- The choice of the processes to hook: `IsHookProcess` and `IsHostProcess` look
-- for the name of a process in a table. The name comes by a buffer on the stack,
-- which not every way through `GetProcessNameByProcessId` writes.
import RemotePrinter.StaleBytes

open Interactive Terminated

namespace RemotePrinter

namespace apifwrd

/-! ## The programs -/

abbrev HANDLE := Nat

abbrev HMODULE := Nat

/-- A `char *` that is not NULL, as an entry of a table. -/
abbrev CStr := Str (0 : UInt8)

/-- `sizeof(processName)`, which is `MAX_PATH`. -/
def sizeofProcessName : Nat := 260

def PROCESS_VM_READ : DWORD := 0x0010

def PROCESS_QUERY_INFORMATION : DWORD := 0x0400

inductive Op where
  | OpenProcess (dwDesiredAccess : DWORD) (bInheritHandle : BOOL) (dwProcessId : DWORD)
  | EnumProcessModules (hProcess : HANDLE)
  | GetModuleBaseNameA (hProcess : HANDLE) (hModule : HMODULE) (nSize : Nat)
  | CloseHandle (hObject : HANDLE)

/-- A handle or NULL, the first module if the call succeeds, and the return value of the query
with the bytes that it stored. -/
@[reducible] def Op.Answer : Op → Type
  | OpenProcess .. => Option HANDLE
  | EnumProcessModules _ => Option HMODULE
  | GetModuleBaseNameA .. => DWORD × Bytes
  | CloseHandle _ => BOOL

abbrev Selecting (α : Type) := Prog Op Op.Answer Empty α

/-- The result, and the buffer `szProcessName` as the function leaves it. -/
def GetProcessNameByProcessId (processID : DWORD) (szProcessName : Bytes) (ProcessNameSize : Nat) :
    Selecting (Bool × Bytes) := do
  match ← Prog.perform
      (Op.OpenProcess (PROCESS_QUERY_INFORMATION ||| PROCESS_VM_READ) 0 processID) with
  | none => return (false, szProcessName)
  | some hProcess =>
    match ← Prog.perform (Op.EnumProcessModules hProcess) with
    | some hMod =>
      let (length, stored) ←
        Prog.perform (Op.GetModuleBaseNameA hProcess hMod ProcessNameSize)
      if length = 0 then return (false, stored ++ szProcessName.drop stored.length)
      let _ ← Prog.perform (Op.CloseHandle hProcess)
      return (true, stored ++ szProcessName.drop stored.length)
    | none =>
      -- Nothing has written the buffer.
      let _ ← Prog.perform (Op.CloseHandle hProcess)
      return (true, szProcessName)

/-- `_strnicmp` in the C locale. -/
def _strnicmp : Nat → Bytes → Bytes → Int
  | 0, _, _ => 0
  | n + 1, string1, string2 =>
    let c1 := tolower (string1.headD 0)
    let c2 := tolower (string2.headD 0)
    if c1 ≠ c2 then (c1.toNat : Int) - c2.toNat
    else if c1 = 0 then 0
    else _strnicmp n string1.tail string2.tail

/-- The loop over a table, up to its NULL. -/
def search (processName : Bytes) : List CStr → Bool
  | [] => false
  | entry :: rest =>
    if _strnicmp sizeofProcessName (entry.memory []) processName = 0 then true
    else search processName rest

/-- The body of both functions. `processName` is what their local buffer holds before. -/
def isProcessOf (table : List CStr) (pid : DWORD) (processName : Bytes) : Selecting Bool := do
  let (ok, name) ← GetProcessNameByProcessId pid processName sizeofProcessName
  if !ok then return false
  return search name table

def IsHookProcess (_with_hook : List CStr) (pid : DWORD) (processName : Bytes) : Selecting Bool :=
  isProcessOf _with_hook pid processName

def IsHostProcess (_host_process : List CStr) (pid : DWORD) (processName : Bytes) :
    Selecting Bool :=
  isProcessOf _host_process pid processName

/-! ## What the calls can answer -/

/-- What each call answers if it is made. -/
structure Outcome where
  OpenProcess : Option HANDLE
  EnumProcessModules : Option HMODULE
  GetModuleBaseNameA : DWORD × Bytes
  CloseHandle : BOOL

def Outcome.answer (o : Outcome) : (op : Op) → op.Answer
  | .OpenProcess .. => o.OpenProcess
  | .EnumProcessModules _ => o.EnumProcessModules
  | .GetModuleBaseNameA .. => o.GetModuleBaseNameA
  | .CloseHandle _ => o.CloseHandle

/-- Each call is answered, and noted. -/
def Outcome.act (o : Outcome) (op : Op) (calls : List Op) : Option op.Answer × List Op :=
  (some (o.answer op), calls ++ [op])

def Outcome.result (o : Outcome) (p : Selecting Bool) : Option (Except Empty Bool) :=
  (p.exec o.act []).1

def Outcome.calls (o : Outcome) (p : Selecting Bool) : List Op := (p.exec o.act []).2

/-- What a query stores of a base name: all of it with its terminator if that fits. Else the name
is cut off, and may go without a terminator. -/
def Stores (name : CStr) (nSize : Nat) (stored : Bytes) : Prop :=
  if name.units.length < nSize then stored = name.memory []
  else stored = name.units.take (nSize - 1) ++ [0] ∨ stored = name.units.take nSize

/-- The answers are those for a process with the base name. -/
def Outcome.Of (o : Outcome) (name : CStr) : Prop :=
  o.GetModuleBaseNameA.1 ≠ 0 → Stores name sizeofProcessName o.GetModuleBaseNameA.2

/-! ## The law -/

/-- The base name was obtained, as a whole. -/
def Outcome.Obtained (o : Outcome) (name : CStr) : Prop :=
  o.OpenProcess.isSome ∧ o.EnumProcessModules.isSome ∧ o.GetModuleBaseNameA.1 ≠ 0 ∧
    name.units.length < sizeofProcessName

/-- The names are the same but for the case of their letters. -/
def SameName (name name' : Bytes) : Prop := name.map tolower = name'.map tolower

def closedHandle : Op → Option HANDLE
  | .CloseHandle hObject => some hObject
  | _ => none

/-- The process is chosen by its base name alone, whatever the buffer holds, and its handle is
closed once. -/
structure ChosenByName (isProcess : Bytes → Selecting Bool) (table : List CStr) (name : CStr)
    (o : Outcome) : Prop where
  chosen : ∀ buf, buf.length = sizeofProcessName →
    (o.result (isProcess buf) = some (.ok true) ↔
      o.Obtained name ∧ ∃ entry ∈ table, SameName entry.units name.units)
  independent : ∀ buf buf', buf.length = sizeofProcessName → buf'.length = sizeofProcessName →
    o.result (isProcess buf) = o.result (isProcess buf')
  closed : ∀ buf hProcess, buf.length = sizeofProcessName → o.OpenProcess = some hProcess →
    (o.calls (isProcess buf)).filterMap closedHandle = [hProcess]

/-- The process cannot be opened. Or its modules cannot be listed and there is no name to look
for. Or a name is stored, which is the base name or is cut off and agrees with no entry. -/
def Decided (table : List CStr) (name : CStr) (o : Outcome) : Prop :=
  o.OpenProcess = none ∨
  (o.EnumProcessModules = none ∧ table = []) ∨
  (o.EnumProcessModules.isSome ∧ o.GetModuleBaseNameA.1 ≠ 0 ∧
    (name.units.length < sizeofProcessName ∨
      ∀ entry ∈ table,
        ¬ SameName (entry.units.take sizeofProcessName) (cString o.GetModuleBaseNameA.2)))

/-! ## Comparing names -/

theorem tolower_eq_zero {b : UInt8} : tolower b = 0 ↔ b = 0 := by
  unfold tolower
  split
  · rename_i h
    rw [← UInt8.toNat_inj, ← UInt8.toNat_inj, UInt8.toNat_add]
    have h1 : 65 ≤ b.toNat := h.1
    have h2 : b.toNat ≤ 90 := h.2
    simp
    omega
  · exact Iff.rfl

theorem sameName_cons {a b : UInt8} {s t : Bytes} :
    SameName (a :: s) (b :: t) ↔ tolower a = tolower b ∧ SameName s t := by
  simp [SameName]

/-- One turn of the comparison. -/
theorem strnicmp_succ (n : Nat) (s t : Bytes) :
    _strnicmp (n + 1) s t = 0 ↔
      tolower (s.headD 0) = tolower (t.headD 0) ∧
        (tolower (s.headD 0) = 0 ∨ _strnicmp n s.tail t.tail = 0) := by
  rw [_strnicmp]
  by_cases hc : tolower (s.headD 0) = tolower (t.headD 0)
  · simp only [ne_eq, hc, not_true_eq_false, if_false, true_and]
    by_cases h0 : tolower (t.headD 0) = 0
    · simp only [h0, if_true, true_or]
    · simp only [h0, if_false, false_or]
  · have hne : (tolower (s.headD 0)).toNat ≠ (tolower (t.headD 0)).toNat :=
      fun h => hc (UInt8.toNat_inj.mp h)
    simp only [ne_eq, hc, not_false_eq_true, if_true, false_and, iff_false]
    omega

theorem cString_cons {b : UInt8} (hb : b ≠ 0) (m : Bytes) :
    cString (b :: m) = b :: cString m := by
  simp [cString, hb]

/-- The comparison sees of an entry what is within the bound, and of a memory what is before its
terminator too. -/
theorem strnicmp_eq_zero (n : Nat) (entry : CStr) (after m : Bytes) :
    _strnicmp n (entry.memory after) m = 0 ↔
      SameName (entry.units.take n) (cString (m.take n)) := by
  obtain ⟨s, hs⟩ := entry
  unfold Str.memory
  simp only
  induction n generalizing s m with
  | zero => simp [_strnicmp, SameName, cString]
  | succ n ih =>
    rw [strnicmp_succ]
    cases s with
    | nil =>
      -- The entry ends, so the memory has to end here too.
      have h0 : tolower 0 = 0 := tolower_eq_zero.mpr rfl
      cases m with
      | nil => simp [h0, SameName, cString]
      | cons b m =>
        by_cases hb : b = 0
        · simp [hb, h0, SameName, cString]
        · have hne : tolower b ≠ 0 := fun h => hb (tolower_eq_zero.mp h)
          rw [List.take_succ_cons, cString_cons hb]
          simp [h0, hne.symm, SameName]
    | cons a s =>
      obtain ⟨ha, hs'⟩ := not_or.mp (List.mem_cons.not.mp hs)
      have hne : tolower a ≠ 0 := fun h => ha (tolower_eq_zero.mp h).symm
      cases m with
      | nil =>
        have h0 : tolower 0 = 0 := tolower_eq_zero.mpr rfl
        simp [h0, hne, SameName, cString]
      | cons b m =>
        by_cases hb : b = 0
        · have h0 : tolower 0 = 0 := tolower_eq_zero.mpr rfl
          simp [hb, h0, hne, SameName, cString]
        · rw [List.take_succ_cons, List.take_succ_cons, cString_cons hb, sameName_cons,
            ← ih m s hs']
          simp [hne]

theorem search_eq_true {processName : Bytes} {table : List CStr} :
    search processName table = true ↔
      ∃ entry ∈ table, SameName (entry.units.take sizeofProcessName)
        (cString (processName.take sizeofProcessName)) := by
  induction table with
  | nil => simp [search]
  | cons entry rest ih =>
    unfold search
    by_cases h : _strnicmp sizeofProcessName (entry.memory []) processName = 0
    · rw [if_pos h]
      rw [strnicmp_eq_zero] at h
      simp [h]
    · rw [if_neg h, ih]
      rw [strnicmp_eq_zero] at h
      simp [h]

/-! ## The ways through the functions -/

section
variable {o : Outcome} {table : List CStr} {pid : DWORD} {buf : Bytes} {hProcess : HANDLE}
  {hMod : HMODULE}

theorem run_unopened (ho : o.OpenProcess = none) :
    o.result (isProcessOf table pid buf) = some (.ok false) := by
  simp [isProcessOf, GetProcessNameByProcessId, Outcome.result, Prog.exec, Outcome.act,
    Outcome.answer, ho]

theorem run_unlisted (ho : o.OpenProcess = some hProcess) (he : o.EnumProcessModules = none) :
    o.result (isProcessOf table pid buf) = some (.ok (search buf table)) ∧
      (o.calls (isProcessOf table pid buf)).filterMap closedHandle = [hProcess] := by
  simp [isProcessOf, GetProcessNameByProcessId, Outcome.result, Outcome.calls, Prog.exec,
    Outcome.act, Outcome.answer, List.filterMap_cons, closedHandle, ho, he]

theorem run_unnamed (ho : o.OpenProcess = some hProcess) (he : o.EnumProcessModules = some hMod)
    (hret : o.GetModuleBaseNameA.1 = 0) :
    (o.calls (isProcessOf table pid buf)).filterMap closedHandle = [] := by
  simp [isProcessOf, GetProcessNameByProcessId, Outcome.calls, Prog.exec, Outcome.act,
    Outcome.answer, List.filterMap_cons, closedHandle, ho, he, hret]

theorem run_named (ho : o.OpenProcess = some hProcess) (he : o.EnumProcessModules = some hMod)
    (hret : o.GetModuleBaseNameA.1 ≠ 0) :
    o.result (isProcessOf table pid buf) = some (.ok (search
        (o.GetModuleBaseNameA.2 ++ buf.drop o.GetModuleBaseNameA.2.length) table)) ∧
      (o.calls (isProcessOf table pid buf)).filterMap closedHandle = [hProcess] := by
  have hlength : ¬ o.GetModuleBaseNameA.1 = 0#32 := hret
  simp [isProcessOf, GetProcessNameByProcessId, Outcome.result, Outcome.calls, Prog.exec,
    Outcome.act, Outcome.answer, List.filterMap_cons, closedHandle, ho, he, hlength]

end

/-! ## What the search finds -/

/-- A query writes a terminator, or the whole buffer. -/
theorem Stores.written {name : CStr} {nSize : Nat} {stored : Bytes} (hsize : 0 < nSize)
    (h : Stores name nSize stored) :
    stored.length ≤ nSize ∧ (0 ∈ stored ∨ stored.length = nSize) := by
  unfold Stores at h
  split at h
  · rename_i hfit
    subst h
    refine ⟨?_, Or.inl (by simp [Str.memory])⟩
    simp only [Str.memory, List.length_append, List.length_singleton]
    omega
  · rename_i hlong
    rcases h with rfl | rfl
    · refine ⟨?_, Or.inl (by simp)⟩
      simp only [List.length_append, List.length_take, List.length_singleton]
      omega
    · have hlength : (name.units.take nSize).length = nSize := by
        simp [Nat.le_of_not_lt hlong]
      exact ⟨Nat.le_of_eq hlength, Or.inr hlength⟩

/-- So what was in the buffer before is not looked at. -/
theorem search_stored {name : CStr} {stored : Bytes} {table : List CStr}
    (hs : Stores name sizeofProcessName stored) (rest : Bytes) :
    search (stored ++ rest) table = true ↔
      ∃ entry ∈ table, SameName (entry.units.take sizeofProcessName) (cString stored) := by
  obtain ⟨hlength, hwritten⟩ := hs.written (by decide)
  have htext : cString ((stored ++ rest).take sizeofProcessName) = cString stored := by
    rw [List.take_append, List.take_of_length_le hlength]
    rcases hwritten with hzero | hfull
    · exact cString_append_of_mem hzero _
    · simp [hfull]
  rw [search_eq_true, htext]

theorem SameName.length_eq {name name' : Bytes} (h : SameName name name') :
    name.length = name'.length := by
  have hlength := congrArg List.length h
  simpa using hlength

/-- A name that fits is found just if it is in the table. -/
theorem sameName_take {entry name : Bytes} (h : name.length < sizeofProcessName) :
    SameName (entry.take sizeofProcessName) name ↔ SameName entry name := by
  have htake (hle : entry.length ≤ sizeofProcessName) :
      entry.take sizeofProcessName = entry := List.take_of_length_le hle
  constructor
  · intro hsame
    have hlength := hsame.length_eq
    rw [List.length_take] at hlength
    rwa [htake (by omega)] at hsame
  · intro hsame
    have hlength := hsame.length_eq
    rwa [htake (by omega)]

/-- Every entry is found in a buffer that happens to hold it. -/
theorem exists_found {entry : CStr} {table : List CStr} (h : entry ∈ table) :
    ∃ buf : Bytes, buf.length = sizeofProcessName ∧ search buf table = true := by
  let zeros : Bytes := List.replicate sizeofProcessName 0
  refine ⟨(entry.units ++ zeros).take sizeofProcessName, by simp [zeros], ?_⟩
  rw [search_eq_true]
  refine ⟨entry, h, ?_⟩
  have hfree : 0 ∉ entry.units.take sizeofProcessName :=
    fun hmem => entry.free (List.mem_of_mem_take hmem)
  have htext : cString ((entry.units ++ zeros).take sizeofProcessName) =
      entry.units.take sizeofProcessName := by
    rw [List.take_append]
    refine (text_append hfree _).trans ?_
    simp [zeros, text]
  rw [List.take_take, Nat.min_self, htext]
  rfl

/-! ## The law -/

section
variable {o : Outcome} {name : CStr} {table : List CStr} {pid : DWORD}

/-- A process that is not opened is not chosen. -/
theorem chosen_of_unopened (ho : o.OpenProcess = none) :
    ChosenByName (isProcessOf table pid) table name o := by
  constructor
  · intro buf hbuf
    rw [run_unopened ho]
    simp [Outcome.Obtained, ho]
  · intro buf buf' hbuf hbuf'
    rw [run_unopened ho, run_unopened ho]
  · intro buf hProcess hbuf hopen
    rw [ho] at hopen
    cases hopen

/-- Where the handle is closed it is left to show what the search finds. -/
theorem chosenByName_iff {isProcess : Bytes → Selecting Bool} {found : Bytes → Bool}
    {hProcess : HANDLE} (ho : o.OpenProcess = some hProcess)
    (hrun : ∀ buf, o.result (isProcess buf) = some (.ok (found buf)) ∧
      (o.calls (isProcess buf)).filterMap closedHandle = [hProcess]) :
    ChosenByName isProcess table name o ↔
      ∀ buf, buf.length = sizeofProcessName → (found buf = true ↔
        o.Obtained name ∧ ∃ entry ∈ table, SameName entry.units name.units) := by
  have hresult (buf) : o.result (isProcess buf) = some (.ok true) ↔ found buf = true := by
    simp [(hrun buf).1]
  constructor
  · intro h buf hbuf
    rw [← hresult]
    exact h.chosen buf hbuf
  · intro h
    constructor
    · intro buf hbuf
      rw [hresult]
      exact h buf hbuf
    · intro buf buf' hbuf hbuf'
      have hsame : found buf = found buf' := by
        rw [Bool.eq_iff_iff, h buf hbuf, h buf' hbuf']
      rw [(hrun buf).1, (hrun buf').1, hsame]
    · intro buf h' hbuf hopen
      rw [ho] at hopen
      cases hopen
      exact (hrun buf).2

/-- Without a list of the modules the buffer decides, if there is an entry to look for. -/
theorem chosen_of_unlisted {hProcess : HANDLE} (ho : o.OpenProcess = some hProcess)
    (he : o.EnumProcessModules = none) :
    ChosenByName (isProcessOf table pid) table name o ↔ table = [] := by
  rw [chosenByName_iff ho fun buf => run_unlisted ho he]
  have hnot : ¬ o.Obtained name := by simp [Outcome.Obtained, he]
  constructor
  · intro h
    by_contra hne
    obtain ⟨entry, hentry⟩ := List.exists_mem_of_ne_nil table hne
    obtain ⟨buf, hbuf, hfound⟩ := exists_found hentry
    exact hnot ((h buf hbuf).mp hfound).1
  · rintro rfl buf -
    simp [search]

/-- A name that is cut off must not be found. -/
theorem chosen_of_named {hProcess : HANDLE} {hMod : HMODULE} (hof : o.Of name)
    (ho : o.OpenProcess = some hProcess) (he : o.EnumProcessModules = some hMod)
    (hret : o.GetModuleBaseNameA.1 ≠ 0) :
    ChosenByName (isProcessOf table pid) table name o ↔
      (name.units.length < sizeofProcessName ∨ ∀ entry ∈ table,
        ¬ SameName (entry.units.take sizeofProcessName) (cString o.GetModuleBaseNameA.2)) := by
  rw [chosenByName_iff ho fun buf => run_named ho he hret]
  have hstores := hof hret
  simp only [search_stored hstores]
  by_cases hfit : name.units.length < sizeofProcessName
  · have hname : o.GetModuleBaseNameA.2 = name.memory [] := by
      simpa [Stores, hfit] using hstores
    have htext : cString (name.memory []) = name.units := name.text_memory []
    refine iff_of_true (fun buf hbuf => ?_) (Or.inl hfit)
    rw [hname, htext]
    have hobtained : o.Obtained name := ⟨by simp [ho], by simp [he], hret, hfit⟩
    simp only [sameName_take hfit, hobtained, true_and]
  · have hnot : ¬ o.Obtained name := fun h => hfit h.2.2.2
    simp only [hnot, false_and, iff_false, hfit, false_or, not_exists, not_and]
    constructor
    · intro h
      exact h (List.replicate sizeofProcessName 0) (by simp)
    · intro h buf hbuf
      exact h

theorem chosenByName_iff_decided (hof : o.Of name) :
    ChosenByName (isProcessOf table pid) table name o ↔ Decided table name o := by
  unfold Decided
  cases ho : o.OpenProcess with
  | none => exact iff_of_true (chosen_of_unopened ho) (Or.inl rfl)
  | some hProcess =>
    cases he : o.EnumProcessModules with
    | none => simp [chosen_of_unlisted ho he]
    | some hMod =>
      by_cases hret : o.GetModuleBaseNameA.1 = 0
      · -- The handle stays open.
        refine iff_of_false (fun h => ?_) (by simp [hret])
        have hclosed := h.closed (List.replicate sizeofProcessName 0) hProcess (by simp) ho
        rw [run_unnamed ho he hret] at hclosed
        cases hclosed
      · rw [chosen_of_named hof ho he hret]
        constructor
        · intro h
          exact Or.inr (Or.inr ⟨rfl, hret, h⟩)
        · rintro (h | ⟨h, -⟩ | ⟨-, -, h⟩)
          · cases h
          · cases h
          · exact h

/-- A process is hooked, or taken for the host, by its base name alone just if it cannot be opened,
or its modules cannot be listed and the table is empty, or a name is stored that is whole or agrees
with no entry. -/
theorem processes_are_chosen_by_name_just_if_decided {hooks hosts : List CStr} (hof : o.Of name) :
    (ChosenByName (IsHookProcess hooks pid) hooks name o ↔ Decided hooks name o) ∧
    (ChosenByName (IsHostProcess hosts pid) hosts name o ↔ Decided hosts name o) :=
  ⟨chosenByName_iff_decided hof, chosenByName_iff_decided hof⟩

end

/-! ### A name that was in the buffer -/

/-- The table of the processes that are hooked. `debug` is whether `_DEBUG` is defined. -/
def _with_hook (debug : Bool) : List CStr :=
  [⟨ascii ['P', 'O', 'S', '_', 'M', 'a', 'i', 'n', '.', 'e', 'x', 'e'], by decide⟩,
    ⟨ascii ['i', 'e', 'x', 'p', 'l', 'o', 'r', 'e', '.', 'e', 'x', 'e'], by decide⟩] ++
  if debug then [⟨ascii ['n', 'o', 't', 'e', 'p', 'a', 'd', '.', 'e', 'x', 'e'], by decide⟩] else []

def _host_process : List CStr :=
  [⟨ascii ['s', 'a', 'm', 'p', 'l', 'e', '.', 'e', 'x', 'e'], by decide⟩]

/-- `"Sample.exe"`. -/
def sampleName : CStr :=
  ⟨ascii ['S', 'a', 'm', 'p', 'l', 'e', '.', 'e', 'x', 'e'], by decide⟩

def named : Outcome where
  OpenProcess := some 4
  EnumProcessModules := some 1
  GetModuleBaseNameA := (10, sampleName.memory [])
  CloseHandle := 1

/-- The modules of the process cannot be listed. -/
def unlisted : Outcome := { named with EnumProcessModules := none }

theorem a_named_process_is_chosen_by_name :
    ChosenByName (IsHookProcess (_with_hook false) 7) (_with_hook false) sampleName named ∧
      ChosenByName (IsHostProcess _host_process 7) _host_process sampleName named := by
  have hdecided (table : List CStr) : Decided table sampleName named :=
    Or.inr (Or.inr ⟨rfl, by decide, Or.inl (by decide)⟩)
  obtain ⟨hhook, hhost⟩ := @processes_are_chosen_by_name_just_if_decided named sampleName 7
    (_with_hook false) _host_process fun _ => rfl
  exact ⟨hhook.mpr (hdecided _), hhost.mpr (hdecided _)⟩

example : named.result (IsHostProcess _host_process 7 (List.replicate 260 0)) =
    some (.ok true) := by
  decide

/-- A process whose modules cannot be listed is hooked if the buffer happens to hold an entry. -/
theorem an_unlisted_process_can_be_chosen :
    ¬ ∀ (hooks hosts : List CStr) (pid : DWORD) (name : CStr) (o : Outcome), o.Of name →
      ChosenByName (IsHookProcess hooks pid) hooks name o ∧
        ChosenByName (IsHostProcess hosts pid) hosts name o := by
  intro h
  have hchosen := (h (_with_hook false) _host_process 7 sampleName unlisted fun _ => rfl).1
  obtain ⟨buf, hbuf, hfound⟩ := @exists_found _ (_with_hook false) List.mem_cons_self
  have hyes : unlisted.result (isProcessOf (_with_hook false) 7 buf) =
      some (.ok (search buf (_with_hook false))) := (run_unlisted rfl rfl).1
  rw [hfound] at hyes
  have hname := (hchosen.chosen buf hbuf).mp hyes
  simp [Outcome.Obtained, unlisted] at hname

end apifwrd

end RemotePrinter
