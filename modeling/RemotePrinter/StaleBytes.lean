-- The test of a printer name and the bytes that were in its buffer before: which of
-- them the test reads, and what becomes of the key that it opens.
import RemotePrinter.RegistryTest
import RemotePrinter.Terminated

open Interactive Terminated

namespace RemotePrinter

/-! ## The keys of the test -/

section
variable {ℓ : Type}

/-- The handle that an open has given out. -/
def openedKeyAt (o : Obs RegOp RegOp.Answer ℓ) : Option Nat :=
  match o with
  | ⟨.RegOpenKeyExA _, (result, hKey), _⟩ => if result = ERROR_SUCCESS then some hKey else none
  | _ => none

def closedKeyAt (o : Obs RegOp RegOp.Answer ℓ) : Option Nat :=
  match o with
  | ⟨.RegCloseKey hKey, _, _⟩ => some hKey
  | _ => none

def openedKeys (tr : List (Obs RegOp RegOp.Answer ℓ)) : List Nat := tr.filterMap openedKeyAt

def closedKeys (tr : List (Obs RegOp RegOp.Answer ℓ)) : List Nat := tr.filterMap closedKeyAt

variable {σ : Type} {env : Env RegOp RegOp.Answer ℓ σ} {buf printerName : Bytes} {s s' : σ}
  {tr : List (Obs RegOp RegOp.Answer ℓ)} {r : Except Empty Bool}

/-- Whatever the test is answered, it opens no key, or it opens one, queries it and closes it. -/
theorem regTest_trace (h : (regTest buf printerName).RunsIn env s tr r s') :
    ∃ result hKey u s₁, env s (.RegOpenKeyExA (printersKey ++ printerName)) (result, hKey) u s₁ ∧
      (result ≠ ERROR_SUCCESS ∧
        tr = [⟨.RegOpenKeyExA (printersKey ++ printerName), (result, hKey), u⟩] ∨
      result = ERROR_SUCCESS ∧ ∃ result' data u' s₂ c u'',
        env s₁ (.RegQueryValueExA hKey sizeofBuf) (result', data) u' s₂ ∧
        tr = [⟨.RegOpenKeyExA (printersKey ++ printerName), (result, hKey), u⟩,
          ⟨.RegQueryValueExA hKey sizeofBuf, (result', data), u'⟩,
          ⟨.RegCloseKey hKey, c, u''⟩]) := by
  obtain ⟨⟨result, hKey⟩, u, s₁, tr₁, hopen, rfl, h⟩ := h
  refine ⟨result, hKey, u, s₁, hopen, ?_⟩
  change Prog.RunsIn _ (if result ≠ ERROR_SUCCESS then _ else _) _ _ _ _ at h
  by_cases hok : result = ERROR_SUCCESS
  · rw [if_neg (not_not.mpr hok)] at h
    obtain ⟨⟨result', data⟩, u', s₂, tr₂, hquery, rfl, h⟩ := h
    change Prog.RunsIn _ (if result' ≠ ERROR_SUCCESS then _ else _) _ _ _ _ at h
    have hlast : ∃ c u'', tr₂ = [⟨.RegCloseKey hKey, c, u''⟩] := by
      split at h
      · obtain ⟨c, u'', s₃, tr₃, -, rfl, rfl, -⟩ := h
        exact ⟨c, u'', rfl⟩
      · split at h
        · obtain ⟨c, u'', s₃, tr₃, -, rfl, rfl, -⟩ := h
          exact ⟨c, u'', rfl⟩
        · obtain ⟨c, u'', s₃, tr₃, -, rfl, rfl, -⟩ := h
          exact ⟨c, u'', rfl⟩
    obtain ⟨c, u'', rfl⟩ := hlast
    exact Or.inr ⟨hok, result', data, u', s₂, c, u'', hquery, rfl⟩
  · rw [if_pos hok] at h
    obtain ⟨rfl, -, -⟩ := h
    exact Or.inl ⟨hok, rfl⟩

/-- So it closes the key that it has opened, and no other. -/
theorem regTest_closes (h : (regTest buf printerName).RunsIn env s tr r s') :
    closedKeys tr = openedKeys tr ∧ (openedKeys tr).length ≤ 1 := by
  obtain ⟨result, hKey, u, s₁, -, ⟨hfail, rfl⟩ | ⟨rfl, result', data, u', s₂, c, u'', -, rfl⟩⟩ :=
    regTest_trace h
  · have hnone : openedKeyAt ⟨.RegOpenKeyExA (printersKey ++ printerName), (result, hKey), u⟩ =
        none := if_neg hfail
    simp [closedKeys, openedKeys, hnone, closedKeyAt]
  · exact ⟨rfl, Nat.le_refl 1⟩

end

/-! ## The bytes of the buffer -/

/-- The bytes that `std::string(buf)` reads: the text and its terminator. -/
def readLength (buf : Bytes) : Nat := (cString buf).length + 1

/-- After a query that succeeded the test reads only what that has written. -/
def ReadsWritten (buf : Bytes) (o : Obs RegOp RegOp.Answer Unit) : Prop :=
  match o with
  | ⟨.RegQueryValueExA .., (result, data), _⟩ =>
    result = ERROR_SUCCESS → readLength (data ++ buf.drop data.length) ≤ data.length
  | _ => True

/-- The test answers by the value of the registry, reads no byte that was in the buffer before, and
closes the key that it opens, once. -/
structure TestsValue (buf value : Bytes) (tr : List (Obs RegOp RegOp.Answer Unit))
    (r : Except Empty Bool) : Prop where
  answer : r = .ok (namesBixolon value)
  reads : ∀ o ∈ tr, ReadsWritten buf o
  closes : closedKeys tr = openedKeys tr
  once : (openedKeys tr).length ≤ 1

/-- Behind a terminator nothing is read. -/
theorem cString_append_of_mem {m : Bytes} (hm : 0 ∈ m) (rest : Bytes) :
    cString (m ++ rest) = cString m := by
  obtain ⟨after, hafter⟩ := eq_text_append hm
  have hfree : 0 ∉ text 0 m := not_mem_text m
  change text 0 (m ++ rest) = text 0 m
  conv_lhs => rw [hafter, List.append_assoc, text_append hfree, List.cons_append, text_cons_self]
  exact List.append_nil _

/-- The test reads only what the query has written just if that has a terminator in it. -/
theorem readLength_le_iff {value rest : Bytes} :
    readLength (value ++ rest) ≤ value.length ↔ 0 ∈ value := by
  unfold readLength
  constructor
  · intro h
    by_contra hnot
    have hall : cString (value ++ rest) = value ++ text 0 rest := text_append hnot rest
    rw [hall, List.length_append] at h
    omega
  · intro h
    rw [cString_append_of_mem h]
    exact text_length_lt h

/-! ## The test of a value -/

section
variable {R : Registry} {page : AnsiPage} {buf printerName value : Bytes} {s s' : OpenKeys}
  {tr : List (Obs RegOp RegOp.Answer Unit)} {r : Except Empty Bool}

/-- The query of a value that fits the buffer writes it there. -/
theorem regTest_queries (hR : R (page.key (printersKey ++ printerName)) = some (some value))
    (hvalue : value.length ≤ sizeofBuf)
    (run : (regTest buf printerName).RunsIn (R.env page) s tr r s') :
    (∃ hKey, ⟨.RegQueryValueExA hKey sizeofBuf, (ERROR_SUCCESS, value), ()⟩ ∈ tr) ∧
    ∀ hKey n result data, ⟨.RegQueryValueExA hKey n, (result, data), ()⟩ ∈ tr → data = value := by
  obtain ⟨result, hKey, u, s₁, hopen, hrest⟩ := regTest_trace run
  simp only [Registry.env, hR] at hopen
  obtain ⟨rfl, -, rfl⟩ := hopen
  rcases hrest with ⟨hfail, -⟩ | ⟨-, result', data, u', s₂, c, u'', ⟨-, hquery⟩, rfl⟩
  · exact absurd rfl hfail
  · rw [List.lookup_cons_self] at hquery
    simp only [if_pos hvalue] at hquery
    obtain ⟨rfl, rfl⟩ := hquery
    refine ⟨⟨hKey, by simp⟩, fun hKey' n result data' hmem => ?_⟩
    simp only [List.mem_cons, List.not_mem_nil, or_false] at hmem
    rcases hmem with hmem | hmem | hmem <;> cases hmem
    rfl

/-- The test depends on the registry only, for a value that fits the buffer, just if the value has
a terminator in it. -/
theorem the_test_reads_the_registry_just_if_the_value_ends
    (hR : R (page.key (printersKey ++ printerName)) = some (some value))
    (hvalue : value.length ≤ sizeofBuf)
    (run : (regTest buf printerName).RunsIn (R.env page) s tr r s') :
    TestsValue buf value tr r ↔ 0 ∈ value := by
  obtain ⟨⟨hKey, hmem⟩, hdata⟩ := regTest_queries hR hvalue run
  obtain ⟨hcloses, honce⟩ := regTest_closes run
  constructor
  · intro h
    exact readLength_le_iff.mp (h.reads _ hmem rfl)
  · intro hend
    refine ⟨?_, ?_, hcloses, honce⟩
    · have hsame : namesBixolon (value ++ buf.drop value.length) = namesBixolon value := by
        unfold namesBixolon
        rw [cString_append_of_mem hend]
      rw [regTest_runsIn run]
      unfold Registry.hasDriver
      rw [hR]
      simp [hvalue, hsame]
    · rintro ⟨op, a, u⟩ ho
      cases op with
      | RegQueryValueExA hKey n =>
        obtain ⟨result, data⟩ := a
        obtain rfl := hdata _ _ _ _ ho
        exact fun _ => readLength_le_iff.mpr hend
      | RegOpenKeyExA | RegCloseKey => trivial

end

/-! ### Two values -/

/-- A registry in which every printer has the driver of that name. -/
def driverRegistry (value : Bytes) : Registry := fun _ => some (some value)

/-- A code page of which each byte is one character. -/
def bytePage : AnsiPage where
  decode := List.map UInt8.toNat
  upcase := id

/-- A buffer that is full of bytes of other values. -/
def fullBuffer : Bytes := List.replicate sizeofBuf 110

theorem a_value_that_ends_is_tested :
    ∃ tr r s', (regTest fullBuffer [65]).RunsIn ((driverRegistry (bixolon ++ [0])).env bytePage) []
        tr r s' ∧ TestsValue fullBuffer (bixolon ++ [0]) tr r := by
  obtain ⟨tr, r, s', run⟩ := regTest_run (driverRegistry (bixolon ++ [0])) bytePage fullBuffer [65]
  refine ⟨tr, r, s', run, ?_⟩
  exact (the_test_reads_the_registry_just_if_the_value_ends rfl (by decide) run).mpr (by simp)

/-- `"Bixo"` without a terminator. -/
def unendedValue : Bytes := ascii ['B', 'i', 'x', 'o']

/-- A buffer with the end of another name in it. -/
def usedBuffer : Bytes := [0, 0, 0, 0] ++ ascii ['l', 'o', 'n'] ++ [0]

/-- The value and the bytes behind it in the buffer make a name. -/
theorem stale_bytes_make_a_name :
    ¬ ∀ (R : Registry) (page : AnsiPage) (buf printerName value : Bytes) (s s' : OpenKeys)
      (tr : List (Obs RegOp RegOp.Answer Unit)) (r : Except Empty Bool),
      R (page.key (printersKey ++ printerName)) = some (some value) → value.length ≤ sizeofBuf →
      (regTest buf printerName).RunsIn (R.env page) s tr r s' → TestsValue buf value tr r := by
  intro law
  obtain ⟨tr, r, s', run⟩ := regTest_run (driverRegistry unendedValue) bytePage usedBuffer [65]
  have htested := law _ _ _ _ unendedValue _ _ _ _ rfl (by decide) run
  have hanswer := htested.answer
  rw [regTest_runsIn run] at hanswer
  revert hanswer
  decide

end RemotePrinter
