-- Strings that end at a terminator: what a reader takes of a memory, and how a
-- string that may be absent is sent as a list, with its terminator.
import Mathlib.Data.List.TakeWhile

namespace Terminated

variable {α : Type} {z : α}

/-- A string has no terminator in it. -/
@[ext]
structure Str (z : α) where
  units : List α
  free : z ∉ units

/-- A string in memory, with its terminator and whatever lies behind. -/
def Str.memory (s : Str z) (after : List α) : List α := s.units ++ z :: after

/-- An optional string as a list: the terminator tells the empty string from none. -/
def send : Option (Str z) → List α
  | none => []
  | some s => s.memory []

theorem send_eq_nil {s : Option (Str z)} : send s = [] ↔ s = none := by
  cases s <;> simp [send, Str.memory]

/-! ## What a reader takes -/

variable [DecidableEq α]

/-- What a reader takes of a memory: everything before the first terminator. -/
def text (z : α) (m : List α) : List α := m.takeWhile (· ≠ z)

@[simp] theorem text_cons_self (m : List α) : text z (z :: m) = [] := by
  simp [text]

theorem not_mem_text (m : List α) : z ∉ text z m := by
  intro hz
  have := List.mem_takeWhile_imp hz
  simp at this

theorem text_append {s : List α} (hs : z ∉ s) (m : List α) : text z (s ++ m) = s ++ text z m := by
  unfold text
  apply List.takeWhile_append_of_pos
  intro a ha
  have hne : a ≠ z := fun h => hs (h ▸ ha)
  simpa using hne

theorem text_of_not_mem {s : List α} (hs : z ∉ s) : text z s = s := by
  have h := text_append hs []
  simpa [text] using h

/-- A reader of the memory takes the string. -/
@[simp] theorem Str.text_memory (s : Str z) (after : List α) :
    text z (s.memory after) = s.units := by
  unfold Str.memory
  rw [text_append s.free, text_cons_self, List.append_nil]

/-- A memory with a terminator in it is the text, the terminator and the rest. -/
theorem eq_text_append {m : List α} (hm : z ∈ m) : ∃ after, m = text z m ++ z :: after := by
  induction m with
  | nil => cases hm
  | cons a m ih =>
    by_cases ha : a = z
    · subst ha
      exact ⟨m, by simp⟩
    · have hcons : text z (a :: m) = a :: text z m := by simp [text, ha]
      obtain ⟨after, hafter⟩ := ih (List.mem_of_ne_of_mem (Ne.symm ha) hm)
      refine ⟨after, ?_⟩
      rw [hcons, List.cons_append, ← hafter]

/-- The text of a memory, as a string. -/
def ofMemory (z : α) (m : List α) : Str z := ⟨text z m, not_mem_text m⟩

theorem text_length_lt {m : List α} (hm : z ∈ m) : (text z m).length < m.length := by
  obtain ⟨after, hafter⟩ := eq_text_append hm
  have hlength := congrArg List.length hafter
  rw [List.length_append, List.length_cons] at hlength
  omega

/-- One unit more than the text is the text with its terminator. -/
theorem take_text_length {m : List α} (hm : z ∈ m) :
    m.take ((text z m).length + 1) = text z m ++ [z] := by
  obtain ⟨after, hafter⟩ := eq_text_append hm
  have htake : (text z m ++ z :: after).take ((text z m).length + 1) = text z m ++ [z] := by
    rw [List.take_length_add_append]
    simp
  rwa [← hafter] at htake

/-! ## Strings that may be absent -/

/-- The empty list stands for none. -/
def receive (z : α) (l : List α) : Option (List α) := if l = [] then none else some (text z l)

theorem receive_send (s : Option (Str z)) : receive z (send s) = s.map Str.units := by
  cases s with
  | none => rfl
  | some s =>
    unfold receive
    rw [if_neg (send_eq_nil.not.mpr (by simp))]
    exact congrArg some (s.text_memory [])

theorem send_injective {s s' : Option (Str z)} (h : send s = send s') : s = s' := by
  have hunits : s.map Str.units = s'.map Str.units := by
    rw [← receive_send, ← receive_send, h]
  exact Option.map_injective (fun _ _ h => Str.ext h) hunits

/-! ## Without the terminator -/

/-- What is sent without its terminator comes back just if it is not empty. -/
theorem receive_units (s : Str z) : receive z s.units = some s.units ↔ s.units ≠ [] := by
  unfold receive
  by_cases hs : s.units = []
  · simp [hs]
  · simp [hs, text_of_not_mem s.free]

end Terminated
