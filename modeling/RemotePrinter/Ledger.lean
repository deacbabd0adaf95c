-- The ledger of resources that are acquired, used and released: what is held
-- at the end, and that nothing is used or released that is not held.
import Mathlib.Data.List.Basic

namespace Ledger

inductive Entry (α : Type) where
  | acquire (a : α)
  | use (a : α)
  | release (a : α)

variable {α : Type}

/-- What must be held for the entry. -/
def Entry.needs : Entry α → Option α
  | acquire _ => none
  | use a => some a
  | release a => some a

variable [DecidableEq α]

/-- A resource that is acquired twice is held twice. -/
def Entry.post (h : List α) : Entry α → List α
  | acquire a => a :: h
  | use _ => h
  | release a => h.erase a

/-- What is held after the entries, of what was held before. -/
def held (h : List α) (es : List (Entry α)) : List α := es.foldl Entry.post h

/-- Each entry finds held what it needs. -/
def Sound (h : List α) : List (Entry α) → Prop
  | [] => True
  | e :: es => (∀ a, e.needs = some a → a ∈ h) ∧ Sound (e.post h) es

@[simp] theorem held_nil (h : List α) : held h [] = h := rfl

@[simp] theorem held_cons (h : List α) (e : Entry α) (es : List (Entry α)) :
    held h (e :: es) = held (e.post h) es := rfl

theorem held_append (h : List α) (es fs : List (Entry α)) :
    held h (es ++ fs) = held (held h es) fs := by
  simp [held, List.foldl_append]

theorem sound_append {h : List α} {es fs : List (Entry α)} :
    Sound h (es ++ fs) ↔ Sound h es ∧ Sound (held h es) fs := by
  induction es generalizing h with
  | nil => simp [Sound]
  | cons e es ih => simp [Sound, ih, and_assoc]

end Ledger
