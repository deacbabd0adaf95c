-- Programs that run in several threads over one state. A thread makes one
-- call at a time; each step is one operation of one thread, or a step of the
-- world outside. What a program may do next is said by a discipline.
import RemotePrinter.Program
import RemotePrinter.Runs
import Mathlib.Logic.Function.Basic

namespace Interactive

/-! ## Disciplines -/

/-- What a program may do in a stage, which answers it has to expect, and the stage after one. -/
structure Discipline (E : Type) (A : E → Type) (S : Type) where
  allowed : S → E → Prop
  possible : (e : E) → A e → Prop
  next : S → (e : E) → A e → S

section
variable {E : Type} {A : E → Type} {X α β S : Type} {D : Discipline E A S}

/-- From the stage `s` on, the program does what it may and ends as `Q` says. -/
def Prog.Follows (D : Discipline E A S) (Q : S → Except X α → Prop) : S → Prog E A X α → Prop
  | s, .done a => Q s (.ok a)
  | s, .fail x => Q s (.error x)
  | s, .call e k => D.allowed s e ∧ ∀ a, D.possible e a → (k a).Follows D Q (D.next s e a)

theorem Prog.Follows.bind {Q : S → Except X α → Prop} {Q' : S → Except X β → Prop} {s : S}
    {p : Prog E A X α} {f : α → Prog E A X β} (hp : p.Follows D Q s)
    (hok : ∀ s a, Q s (.ok a) → (f a).Follows D Q' s)
    (herror : ∀ s x, Q s (.error x) → Q' s (.error x)) : (p >>= f).Follows D Q' s := by
  induction p generalizing s with
  | done a => exact hok s a hp
  | fail x => exact herror s x hp
  | call e k ih => exact ⟨hp.1, fun a ha => ih a (hp.2 a ha)⟩

/-- A program whose operations each end in the stage they start in. -/
theorem Prog.Follows.subst {E' : Type} {A' : E' → Type} {D : Discipline E' A' S} {s : S}
    {f : (e : E) → Prog E' A' X (A e)}
    (hf : ∀ e, (f e).Follows D (fun s' _ => s' = s) s) (p : Prog E A X α) :
    (p.subst f).Follows D (fun s' _ => s' = s) s := by
  induction p with
  | done a => rfl
  | fail x => rfl
  | call e k ih =>
    refine (hf e).bind ?_ (fun s' x hs => hs)
    rintro s' a rfl
    exact ih a

end

/-! ## Threads -/

/-- A call that a thread is at, and what is left of its program. -/
structure Thread (E : Type) (A : E → Type) (X C : Type) (R : C → Type) where
  call : C
  rest : Prog E A X (R call)

/-- The shared state and the threads. A thread that is `none` makes no call. -/
structure Pool (ι E : Type) (A : E → Type) (X C : Type) (R : C → Type) (σ : Type) where
  shared : σ
  threads : ι → Option (Thread E A X C R)

inductive Event (ι E : Type) (A : E → Type) (X C : Type) (R : C → Type) (ℓ τ : Type) where
  | started (i : ι) (c : C)
  | acted (i : ι) (o : Obs E A ℓ)
  | finished (i : ι) (c : C) (r : Except X (R c))
  | outside (n : τ)

namespace Pool

section
variable {ι E : Type} {A : E → Type} {X C : Type} {R : C → Type} {σ ℓ τ : Type}

/-- No thread makes a call. -/
def idle (s : σ) : Pool ι E A X C R σ := { shared := s, threads := fun _ => none }

variable [DecidableEq ι]

def set (P : Pool ι E A X C R σ) (i : ι) (t : Option (Thread E A X C R)) :
    Pool ι E A X C R σ :=
  { P with threads := Function.update P.threads i t }

@[simp] theorem set_threads_self (P : Pool ι E A X C R σ) (i : ι)
    (t : Option (Thread E A X C R)) : (P.set i t).threads i = t := by
  simp [set]

theorem set_threads_ne (P : Pool ι E A X C R σ) {i j : ι} (t : Option (Thread E A X C R))
    (h : j ≠ i) : (P.set i t).threads j = P.threads j := by
  simp [set, h]

/-- One step of the pool. `tick` says what the world outside does by itself. -/
inductive Step (env : Env E A ℓ σ) (tick : σ → τ → σ → Prop) (entry : (c : C) → Prog E A X (R c)) :
    Pool ι E A X C R σ → Event ι E A X C R ℓ τ → Pool ι E A X C R σ → Prop
  | start {P : Pool ι E A X C R σ} {i : ι} (c : C) (h : P.threads i = none) :
      Step env tick entry P (.started i c) (P.set i (some ⟨c, entry c⟩))
  | act {P : Pool ι E A X C R σ} {i : ι} {c : C} {e : E} {k : A e → Prog E A X (R c)} {a : A e}
      {l : ℓ} {s : σ} (h : P.threads i = some ⟨c, .call e k⟩) (henv : env P.shared e a l s) :
      Step env tick entry P (.acted i ⟨e, a, l⟩)
        (Pool.set { P with shared := s } i (some ⟨c, k a⟩))
  | done {P : Pool ι E A X C R σ} {i : ι} {c : C} {a : R c}
      (h : P.threads i = some ⟨c, .done a⟩) :
      Step env tick entry P (.finished i c (.ok a)) (P.set i none)
  | fail {P : Pool ι E A X C R σ} {i : ι} {c : C} {x : X}
      (h : P.threads i = some ⟨c, .fail x⟩) :
      Step env tick entry P (.finished i c (.error x)) (P.set i none)
  | tick {P : Pool ι E A X C R σ} {n : τ} {s : σ} (h : tick P.shared n s) :
      Step env tick entry P (.outside n) { P with shared := s }

variable {env : Env E A ℓ σ} {tick : σ → τ → σ → Prop} {entry : (c : C) → Prog E A X (R c)}

/-- What is left of a call, run by one thread while the others wait. -/
theorem run_rest {P : Pool ι E A X C R σ} {i : ι} {c : C} {p : Prog E A X (R c)} {s' : σ}
    {tr : List (Obs E A ℓ)} {r : Except X (R c)} (hi : P.threads i = some ⟨c, p⟩)
    (h : p.RunsIn env P.shared tr r s') :
    Run (Step env tick entry) P (tr.map (Event.acted i) ++ [.finished i c r])
      (Pool.set { P with shared := s' } i none) := by
  induction p generalizing P tr with
  | done a =>
    obtain ⟨rfl, rfl, rfl⟩ := h
    exact .cons (.done hi) (.nil _)
  | fail x =>
    obtain ⟨rfl, rfl, rfl⟩ := h
    exact .cons (.fail hi) (.nil _)
  | call e k ih =>
    obtain ⟨a, l, s₁, tr', henv, rfl, hrest⟩ := h
    have hrun := ih a (P := Pool.set { P with shared := s₁ } i (some ⟨c, k a⟩))
      (set_threads_self _ i _) hrest
    have hset : Pool.set { Pool.set { P with shared := s₁ } i (some ⟨c, k a⟩) with shared := s' }
        i none = Pool.set { P with shared := s' } i none := by
      simp [set]
    rw [hset] at hrun
    exact .cons (.act hi henv) hrun

/-- A call that one thread makes while the others wait is a run of its program. -/
theorem run_alone {P : Pool ι E A X C R σ} {i : ι} {c : C} {s' : σ} {tr : List (Obs E A ℓ)}
    {r : Except X (R c)} (hi : P.threads i = none) (h : (entry c).RunsIn env P.shared tr r s') :
    Run (Step env tick entry) P (.started i c :: tr.map (Event.acted i) ++ [.finished i c r])
      { P with shared := s' } := by
  have hrun : Run (Step env tick entry) (P.set i (some ⟨c, entry c⟩))
      (tr.map (Event.acted i) ++ [.finished i c r])
      (Pool.set { P.set i (some ⟨c, entry c⟩) with shared := s' } i none) :=
    run_rest (set_threads_self _ i _) h
  have hset : Pool.set { P.set i (some ⟨c, entry c⟩) with shared := s' } i none =
      { P with shared := s' } := by
    simp [set, ← hi]
  rw [hset] at hrun
  exact .cons (.start c hi) hrun

/-! ### The stages of the threads -/

variable {S : Type} {D : Discipline E A S} {Q : (c : C) → S → Except X (R c) → Prop} {s₀ : S}

/-- Each thread follows the discipline from its stage on, and is in the stage `s₀` between two
calls. -/
structure Staged (D : Discipline E A S) (Q : (c : C) → S → Except X (R c) → Prop) (s₀ : S)
    (P : Pool ι E A X C R σ) (st : ι → S) : Prop where
  busy : ∀ i t, P.threads i = some t → t.rest.Follows D (Q t.call) (st i)
  idle : ∀ i, P.threads i = none → st i = s₀

omit [DecidableEq ι] in
theorem staged_idle (s : σ) :
    Staged D Q s₀ (Pool.idle s : Pool ι E A X C R σ) (fun _ => s₀) := by
  constructor
  · intro i t h
    cases h
  · intro i h
    rfl

omit [DecidableEq ι] in
/-- The shared state has no part in it. -/
theorem Staged.share {P : Pool ι E A X C R σ} {st : ι → S} (h : Staged D Q s₀ P st) (s : σ) :
    Staged D Q s₀ { P with shared := s } st := ⟨h.busy, h.idle⟩

/-- One thread has gone on, and the others are where they were. -/
theorem Staged.set {P : Pool ι E A X C R σ} {st : ι → S} (h : Staged D Q s₀ P st) {i : ι}
    {t : Option (Thread E A X C R)} {s : S}
    (ht : ∀ t', t = some t' → t'.rest.Follows D (Q t'.call) s) (hs : t = none → s = s₀) :
    Staged D Q s₀ (P.set i t) (Function.update st i s) := by
  constructor
  · intro j t' hj
    by_cases hji : j = i
    · subst hji
      rw [set_threads_self] at hj
      rw [Function.update_self]
      exact ht t' hj
    · rw [set_threads_ne P t hji] at hj
      rw [Function.update_of_ne hji]
      exact h.busy j t' hj
  · intro j hj
    by_cases hji : j = i
    · subst hji
      rw [set_threads_self] at hj
      rw [Function.update_self]
      exact hs hj
    · rw [set_threads_ne P t hji] at hj
      rw [Function.update_of_ne hji]
      exact h.idle j hj

end

end Pool

end Interactive
