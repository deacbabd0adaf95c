-- Files as the streams of the Windows C runtime read them. In text mode a CR LF
-- is read as LF, and the byte 0x1A is the end of the file.
import Mathlib.Data.List.Infix

namespace CRuntime

def CR : UInt8 := 0x0D

def LF : UInt8 := 0x0A

def CTRLZ : UInt8 := 0x1A

/-- What a stream in text mode reads of a file. -/
def readText : List UInt8 → List UInt8
  | [] => []
  | b :: rest =>
    if b = CTRLZ then []
    else if b = CR ∧ rest.head? = some LF then readText rest
    else b :: readText rest

/-- The mode of a stream: with `std::ios::binary` or without. -/
inductive OpenMode where
  | text
  | binary

/-- What a stream reads of a file. -/
def OpenMode.read : OpenMode → List UInt8 → List UInt8
  | text, content => readText content
  | binary, content => content

/-- No byte of the file means anything but itself in text mode. -/
structure Plain (content : List UInt8) : Prop where
  noEnd : CTRLZ ∉ content
  noLine : ¬ [CR, LF] <:+: content

theorem length_readText_le (content : List UInt8) :
    (readText content).length ≤ content.length := by
  induction content with
  | nil => exact Nat.le_refl 0
  | cons b rest ih =>
    unfold readText
    split
    · exact Nat.zero_le _
    · split
      · exact Nat.le_succ_of_le ih
      · exact Nat.succ_le_succ ih

theorem plain_cons {b : UInt8} {rest : List UInt8} :
    Plain (b :: rest) ↔ b ≠ CTRLZ ∧ ¬ (b = CR ∧ rest.head? = some LF) ∧ Plain rest := by
  have hline : [CR, LF] <:+: b :: rest ↔
      (b = CR ∧ rest.head? = some LF) ∨ [CR, LF] <:+: rest := by
    rw [List.infix_cons_iff, List.cons_prefix_cons]
    cases rest with
    | nil => simp
    | cons b' rest => simp [List.cons_prefix_cons, eq_comm]
  constructor
  · rintro ⟨hend, hno⟩
    rw [hline, not_or] at hno
    rw [List.mem_cons, not_or] at hend
    exact ⟨Ne.symm hend.1, hno.1, hend.2, hno.2⟩
  · rintro ⟨hb, hpair, hend, hno⟩
    refine ⟨?_, ?_⟩
    · rw [List.mem_cons, not_or]
      exact ⟨Ne.symm hb, hend⟩
    · rw [hline, not_or]
      exact ⟨hpair, hno⟩

/-- A stream in text mode reads the bytes of a file just if the file is plain. -/
theorem readText_eq_self_iff (content : List UInt8) :
    readText content = content ↔ Plain content := by
  induction content with
  | nil => exact iff_of_true rfl ⟨by simp, by simp⟩
  | cons b rest ih =>
    rw [plain_cons, ← ih, readText]
    by_cases hb : b = CTRLZ
    · simp [hb]
    · rw [if_neg hb]
      by_cases hpair : b = CR ∧ rest.head? = some LF
      · -- the text is shorter than the file
        rw [if_pos hpair]
        refine iff_of_false (fun he => ?_) (fun h => h.2.1 hpair)
        have hlen := length_readText_le rest
        rw [he, List.length_cons] at hlen
        omega
      · rw [if_neg hpair]
        simp [hb, hpair]

end CRuntime
