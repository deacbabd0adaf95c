-- `isBixolonPrinterByName`: the test of a printer name against the registry of
-- the client. The registry is read through its ANSI functions, which take the
-- bytes of a key's name in the active ANSI code page.
import RemotePrinter.Detours

open Interactive

namespace RemotePrinter

/-! ## The test as a program -/

abbrev LONG := BitVec 32

def ERROR_SUCCESS : LONG := 0

def ERROR_FILE_NOT_FOUND : LONG := 2

def ERROR_MORE_DATA : LONG := 234

/-- `HKEY_LOCAL_MACHINE`, `KEY_QUERY_VALUE` and the name `"Printer Driver"` of the value are the
same in every call. -/
inductive RegOp where
  | RegOpenKeyExA (lpSubKey : Bytes)
  | RegQueryValueExA (hKey : Nat) (cbData : Nat)
  | RegCloseKey (hKey : Nat)

/-- An open answers with a handle, and a query with the bytes that it stored. -/
@[reducible] def RegOp.Answer : RegOp → Type
  | RegOpenKeyExA _ => LONG × Nat
  | RegQueryValueExA .. => LONG × Bytes
  | RegCloseKey _ => LONG

/-- `"SYSTEM\\CurrentControlSet\\Control\\Print\\Printers\\"`. -/
def printersKey : Bytes :=
  ascii ['S', 'Y', 'S', 'T', 'E', 'M', '\\', 'C', 'u', 'r', 'r', 'e', 'n', 't', 'C', 'o', 'n', 't',
    'r', 'o', 'l', 'S', 'e', 't', '\\', 'C', 'o', 'n', 't', 'r', 'o', 'l', '\\', 'P', 'r', 'i',
    'n', 't', '\\', 'P', 'r', 'i', 'n', 't', 'e', 'r', 's', '\\']

/-- `"bixolon"`. -/
def bixolon : Bytes := ascii ['b', 'i', 'x', 'o', 'l', 'o', 'n']

/-- `tolower` in the C locale. -/
def tolower (b : UInt8) : UInt8 := if 65 ≤ b ∧ b ≤ 90 then b + 32 else b

/-- The size of `buf`, which is `MAX_PATH`. -/
def sizeofBuf : Nat := 260

/-- `boost::algorithm::contains(lower, "bixolon")`, where `buf` is the memory of the buffer. -/
def namesBixolon (buf : Bytes) : Bool := decide (bixolon <:+: (cString buf).map tolower)

/-- `isBixolonPrinterByName`, for a name that is not NULL. `buf` is the memory of the buffer
before the call. -/
def regTest (buf printerName : Bytes) : Prog RegOp RegOp.Answer Empty Bool := do
  let subkey := printersKey ++ printerName
  let (result, hKey) ← Prog.perform (RegOp.RegOpenKeyExA subkey)
  if result ≠ ERROR_SUCCESS then return false
  let (result', data) ← Prog.perform (RegOp.RegQueryValueExA hKey sizeofBuf)
  if result' ≠ ERROR_SUCCESS then
    let _ ← Prog.perform (RegOp.RegCloseKey hKey)
    return false
  if !namesBixolon (data ++ buf.drop data.length) then
    let _ ← Prog.perform (RegOp.RegCloseKey hKey)
    return false
  let _ ← Prog.perform (RegOp.RegCloseKey hKey)
  return true

/-! ## The registry -/

/-- The active ANSI code page, which makes UTF-16 units of bytes, and the upper case in which the
registry compares the names of keys. -/
structure AnsiPage where
  decode : Bytes → List Nat
  upcase : List Nat → List Nat

/-- The name under which the registry finds a key that is opened by its ANSI name. -/
def AnsiPage.key (page : AnsiPage) (lpSubKey : Bytes) : List Nat :=
  page.upcase (page.decode lpSubKey)

/-- The keys that can be opened, by their names, each with its value `"Printer Driver"`, if any. -/
abbrev Registry := List Nat → Option (Option Bytes)

/-- The handles of open keys, each with the value of its key. -/
abbrev OpenKeys := List (Nat × Option Bytes)

/-- The registry as the environment of the test. A query of a value that does not fit fails. -/
def Registry.env (R : Registry) (page : AnsiPage) : Env RegOp RegOp.Answer Unit OpenKeys :=
  fun s op a _ s' =>
    match op, a with
    | .RegOpenKeyExA k, (result, h) =>
      match R (page.key k) with
      | none => result ≠ ERROR_SUCCESS ∧ s' = s
      | some v => result = ERROR_SUCCESS ∧ s.lookup h = none ∧ s' = (h, v) :: s
    | .RegQueryValueExA h n, (result, data) =>
      s' = s ∧
        match s.lookup h with
        | some (some v) =>
          if v.length ≤ n then result = ERROR_SUCCESS ∧ data = v else result ≠ ERROR_SUCCESS
        | _ => result ≠ ERROR_SUCCESS
    | .RegCloseKey h, _ => s' = s.filter fun e => e.1 ≠ h

/-- The printer has a driver with `bixolon` in its name. -/
def Registry.hasDriver (R : Registry) (page : AnsiPage) (buf printerName : Bytes) : Bool :=
  match R (page.key (printersKey ++ printerName)) with
  | some (some v) => decide (v.length ≤ sizeofBuf) && namesBixolon (v ++ buf.drop v.length)
  | _ => false

/-- Every run of the test ends with what the registry says of the printer. -/
theorem regTest_runsIn {R : Registry} {page : AnsiPage} {buf printerName : Bytes} {s s' : OpenKeys}
    {tr} {r : Except Empty Bool}
    (h : (regTest buf printerName).RunsIn (R.env page) s tr r s') :
    r = .ok (R.hasDriver page buf printerName) := by
  unfold Registry.hasDriver
  cases hR : R (page.key (printersKey ++ printerName)) with
  | none =>
    obtain ⟨⟨result, hKey⟩, u, s₁, tr₁, hopen, rfl, h⟩ := h
    simp only [Registry.env, hR] at hopen
    change Prog.RunsIn _ (if result ≠ ERROR_SUCCESS then _ else _) _ _ _ _ at h
    rw [if_pos hopen.1] at h
    exact h.2.1
  | some v =>
    obtain ⟨⟨result, hKey⟩, u, s₁, tr₁, hopen, rfl, h⟩ := h
    simp only [Registry.env, hR] at hopen
    obtain ⟨hok, hfresh, rfl⟩ := hopen
    change Prog.RunsIn _ (if result ≠ ERROR_SUCCESS then _ else _) _ _ _ _ at h
    rw [if_neg (not_not.mpr hok)] at h
    obtain ⟨⟨result', data⟩, u', s₂, tr₂, ⟨-, hquery⟩, rfl, h⟩ := h
    change Prog.RunsIn _ (if result' ≠ ERROR_SUCCESS then _ else _) _ _ _ _ at h
    rw [List.lookup_cons_self] at hquery
    cases v with
    | none =>
      rw [if_pos hquery] at h
      obtain ⟨-, -, -, -, -, -, -, hr, -⟩ := h
      exact hr
    | some v =>
      by_cases hv : v.length ≤ sizeofBuf
      · simp only [if_pos hv] at hquery
        obtain ⟨hok', rfl⟩ := hquery
        rw [if_neg (not_not.mpr hok')] at h
        cases hn : namesBixolon (data ++ buf.drop data.length) with
        | true =>
          rw [hn] at h
          obtain ⟨-, -, -, -, -, -, -, hr, -⟩ := h
          simp [hr, hv, hn]
        | false =>
          rw [hn] at h
          obtain ⟨-, -, -, -, -, -, -, hr, -⟩ := h
          simp [hr, hn]
      · simp only [if_neg hv] at hquery
        rw [if_pos hquery] at h
        obtain ⟨-, -, -, -, -, -, -, hr, -⟩ := h
        simp [hr, hv]

/-- The test can always run. -/
theorem regTest_run (R : Registry) (page : AnsiPage) (buf printerName : Bytes) :
    ∃ tr r s', (regTest buf printerName).RunsIn (R.env page) [] tr r s' := by
  have hopen (v) (hR : R (page.key (printersKey ++ printerName)) = some v) :
      R.env page [] (.RegOpenKeyExA (printersKey ++ printerName)) (ERROR_SUCCESS, 0) ()
        [(0, v)] := by
    simp [Registry.env, hR]
  have hclose (v) : R.env page [(0, v)] (.RegCloseKey 0) ERROR_SUCCESS () [] := by
    simp [Registry.env]
  have hfail (v : Option Bytes) (hv : ∀ data, v = some data → ¬ data.length ≤ sizeofBuf) :
      R.env page [(0, v)] (.RegQueryValueExA 0 sizeofBuf) (ERROR_MORE_DATA, []) () [(0, v)] := by
    refine ⟨rfl, ?_⟩
    rw [List.lookup_cons_self]
    cases v with
    | none => decide
    | some data =>
      simp only [if_neg (hv data rfl)]
      decide
  cases hR : R (page.key (printersKey ++ printerName)) with
  | none =>
    have hnone : R.env page [] (.RegOpenKeyExA (printersKey ++ printerName))
        (ERROR_FILE_NOT_FOUND, 0) () [] := by
      simp only [Registry.env, hR]
      exact ⟨by decide, trivial⟩
    exact ⟨_, _, _, .next hnone (.ended _ _)⟩
  | some v =>
    by_cases hv : ∃ data, v = some data ∧ data.length ≤ sizeofBuf
    · obtain ⟨data, rfl, hlen⟩ := hv
      have hquery : R.env page [(0, some data)] (.RegQueryValueExA 0 sizeofBuf)
          (ERROR_SUCCESS, data) () [(0, some data)] := by
        refine ⟨rfl, ?_⟩
        rw [List.lookup_cons_self]
        simp only [if_pos hlen, and_self]
      have hlast : ∀ b : Bool, ∃ tr r s', Prog.RunsIn (R.env page)
          (if !b then .call (.RegCloseKey 0) fun _ => .done false
            else .call (.RegCloseKey 0) fun _ => .done true : Prog RegOp RegOp.Answer Empty Bool)
          [(0, some data)] tr r s' := by
        intro b
        cases b
        · exact ⟨_, _, _, .next (hclose _) (.ended _ _)⟩
        · exact ⟨_, _, _, .next (hclose _) (.ended _ _)⟩
      obtain ⟨tr, r, s', hrun⟩ := hlast (namesBixolon (data ++ buf.drop data.length))
      exact ⟨_, _, _, .next (hopen _ hR) (.next hquery hrun)⟩
    · have hmore := hfail v fun data hd hlen => hv ⟨data, hd, hlen⟩
      exact ⟨_, _, _, .next (hopen v hR) (.next hmore (.next (hclose v) (.ended _ _)))⟩

end RemotePrinter
