-- Programs that read a stream: each operation asks for the next items. What
-- such a program does is said by its reading of a list. A source that hands
-- out the items of a list, in pieces of any size, gives the same result.
import RemotePrinter.Program

namespace Interactive

/-- A program that reads. The operation `n` asks for the next `n` items. -/
abbrev Reader (B X α : Type) := Prog Nat (fun _ => List B) X α

/-- How a reading of a list ends: with a value, with a failure, or with too few items. -/
inductive Reading (B X α : Type) where
  | done (a : α) (rest : List B)
  | failed (x : X) (rest : List B)
  | short

namespace Prog

section
variable {B X α β : Type}

def reads : Reader B X α → List B → Reading B X α
  | done a, s => .done a s
  | fail x, s => .failed x s
  | call n k, s => if n ≤ s.length then (k (s.take n)).reads (s.drop n) else .short

theorem reads_call (n : Nat) (k : List B → Reader B X α) (s : List B) :
    (call n k : Reader B X α).reads s =
      if n ≤ s.length then (k (s.take n)).reads (s.drop n) else .short := rfl

theorem reads_bind (p : Reader B X α) (f : α → Reader B X β) (s : List B) :
    (p >>= f).reads s =
      match p.reads s with
      | .done a rest => (f a).reads rest
      | .failed x rest => .failed x rest
      | .short => .short := by
  induction p generalizing s with
  | done a => rfl
  | fail x => rfl
  | call n k ih =>
    rw [call_bind, reads_call, reads_call]
    by_cases hn : n ≤ s.length
    · rw [if_pos hn, if_pos hn]
      exact ih _ _
    · rw [if_neg hn, if_neg hn]

/-- A reading uses up a part of the list, or nothing. -/
theorem rest_length_le {p : Reader B X α} {s rest : List B} {a : α}
    (h : p.reads s = .done a rest) : rest.length ≤ s.length := by
  induction p generalizing s with
  | done b =>
    cases h
    exact Nat.le_refl _
  | fail x => cases h
  | call n k ih =>
    rw [reads_call] at h
    by_cases hn : n ≤ s.length
    · rw [if_pos hn] at h
      have hrest := ih _ h
      rw [List.length_drop] at hrest
      omega
    · rw [if_neg hn] at h
      cases h

end

/-! ## Reading from a source -/

section
variable {B X E σ α : Type}

/-- The program, with each operation carried out by `get`. -/
def readFrom (get : Nat → σ → Except E (List B) × σ) (fault : X → E) :
    Reader B X α → σ → Except E α × σ
  | done a, s => (.ok a, s)
  | fail x, s => (.error (fault x), s)
  | call n k, s =>
    match get n s with
    | (.ok b, s') => (k b).readFrom get fault s'
    | (.error e, s') => (.error e, s')

/-- In the states of `I`, `get` hands out the items of the list `view`, and fails when there are
too few. -/
structure Source (get : Nat → σ → Except E (List B) × σ) (view : σ → List B) (I : σ → Prop) :
    Prop where
  enough : ∀ s n, I s → n ≤ (view s).length →
    ∃ s', get n s = (.ok ((view s).take n), s') ∧ view s' = (view s).drop n ∧ I s'
  short : ∀ s n, I s → (view s).length < n → ∃ e s', get n s = (.error e, s')

variable {get : Nat → σ → Except E (List B) × σ} {view : σ → List B} {I : σ → Prop}
  {fault : X → E}

/-- A program gets its value from a source just if it reads it from the list. -/
theorem readFrom_ok_iff (h : Source get view I) {p : Reader B X α} {s : σ} (hs : I s) (a : α) :
    (p.readFrom get fault s).1 = .ok a ↔ ∃ rest, p.reads (view s) = .done a rest := by
  induction p generalizing s with
  | done b =>
    constructor
    · intro hb
      cases hb
      exact ⟨_, rfl⟩
    · rintro ⟨rest, hb⟩
      cases hb
      rfl
  | fail x =>
    constructor
    · intro hx
      cases hx
    · rintro ⟨rest, hx⟩
      cases hx
  | call n k ih =>
    rw [reads_call]
    unfold readFrom
    by_cases hn : n ≤ (view s).length
    · obtain ⟨s', hget, hview, hs'⟩ := h.enough s n hs hn
      rw [hget, if_pos hn, ← hview]
      exact ih _ hs'
    · obtain ⟨e, s', hget⟩ := h.short s n hs (Nat.lt_of_not_le hn)
      rw [hget, if_neg hn]
      constructor
      · intro he
        cases he
      · rintro ⟨rest, he⟩
        cases he

/-- What `get` keeps, the program keeps, and it ends as `get` ends or as a failure of its own. -/
theorem readFrom_ends {J : σ → Prop} {Q : E → σ → Prop}
    (hok : ∀ n s b s', J s → get n s = (.ok b, s') → J s')
    (herr : ∀ n s e s', J s → get n s = (.error e, s') → Q e s')
    (hfail : ∀ x s, J s → Q (fault x) s) {p : Reader B X α} {s : σ} (hs : J s) :
    (∃ a s', p.readFrom get fault s = (.ok a, s') ∧ J s') ∨
      ∃ e s', p.readFrom get fault s = (.error e, s') ∧ Q e s' := by
  induction p generalizing s with
  | done a => exact Or.inl ⟨a, s, rfl, hs⟩
  | fail x => exact Or.inr ⟨_, s, rfl, hfail x s hs⟩
  | call n k ih =>
    unfold readFrom
    cases hget : get n s with
    | mk r s' =>
      cases r with
      | ok b => exact ih b (hok n s b s' hs hget)
      | error e => exact Or.inr ⟨e, s', rfl, herr n s e s' hs hget⟩

end

end Prog

end Interactive
