-- Runs that have not ended yet: what a program has done when it has come to
-- some point between two of its operations. A property of every such point
-- holds at every moment of the program's run.
import RemotePrinter.Program

namespace Interactive

namespace Prog

variable {E : Type} {A : E → Type} {X α β ℓ σ : Type} {env : Env E A ℓ σ}

/-- The program gets from `s` to `s'` by the operations of the list. It can have more to do. -/
def RunsTo (env : Env E A ℓ σ) : Prog E A X α → σ → List (Obs E A ℓ) → σ → Prop
  | done _, s, tr, s' => tr = [] ∧ s' = s
  | fail _, s, tr, s' => tr = [] ∧ s' = s
  | call e k, s, tr, s' =>
    tr = [] ∧ s' = s ∨
      ∃ a l s₁ tr', env s e a l s₁ ∧ tr = ⟨e, a, l⟩ :: tr' ∧ (k a).RunsTo env s₁ tr' s'

/-- Before its first operation a program has done nothing. -/
theorem RunsTo.start (p : Prog E A X α) (s : σ) : p.RunsTo env s [] s := by
  cases p with
  | done a => exact ⟨rfl, rfl⟩
  | fail x => exact ⟨rfl, rfl⟩
  | call e k => exact Or.inl ⟨rfl, rfl⟩

/-- One operation, and then some of the rest. -/
theorem RunsTo.next {e : E} {k : A e → Prog E A X α} {a : A e} {l : ℓ} {s s₁ s' : σ}
    {tr : List (Obs E A ℓ)} (h : env s e a l s₁) (hrest : (k a).RunsTo env s₁ tr s') :
    (call e k).RunsTo env s (⟨e, a, l⟩ :: tr) s' :=
  Or.inr ⟨a, l, s₁, tr, h, rfl, hrest⟩

/-- A run that has ended gets to its last state. -/
theorem RunsIn.runsTo {p : Prog E A X α} {s s' : σ} {tr : List (Obs E A ℓ)} {r : Except X α}
    (h : p.RunsIn env s tr r s') : p.RunsTo env s tr s' := by
  induction p generalizing s tr with
  | done a =>
    obtain ⟨htr, -, hs⟩ := h
    exact ⟨htr, hs⟩
  | fail x =>
    obtain ⟨htr, -, hs⟩ := h
    exact ⟨htr, hs⟩
  | call e k ih =>
    obtain ⟨a, l, s₁, tr', henv, rfl, hrest⟩ := h
    exact .next henv (ih a hrest)

/-- A sequence is still in its first part, or has run it to its end and is in the rest. -/
theorem RunsTo.of_bind {p : Prog E A X α} {f : α → Prog E A X β} {s s' : σ}
    {tr : List (Obs E A ℓ)} (h : (p >>= f).RunsTo env s tr s') :
    p.RunsTo env s tr s' ∨
    ∃ a tr₁ tr₂ s₁, p.RunsIn env s tr₁ (.ok a) s₁ ∧ tr = tr₁ ++ tr₂ ∧
      (f a).RunsTo env s₁ tr₂ s' := by
  induction p generalizing s tr with
  | done a => exact Or.inr ⟨a, [], tr, s, .ended a s, rfl, h⟩
  | fail x => exact Or.inl h
  | call e k ih =>
    rcases h with ⟨rfl, rfl⟩ | ⟨a, l, s₁, tr', henv, rfl, hrest⟩
    · exact Or.inl (.start _ _)
    · rcases ih a hrest with hp | ⟨b, tr₁, tr₂, s₂, hb, rfl, hf⟩
      · exact Or.inl (.next henv hp)
      · exact Or.inr ⟨b, _, tr₂, s₂, .next henv hb, rfl, hf⟩

/-- What every operation of the environment keeps holds at every moment of a run. -/
theorem RunsTo.invariant {I : σ → Prop} (hstep : ∀ s e a l s', env s e a l s' → I s → I s')
    {p : Prog E A X α} {s s' : σ} {tr : List (Obs E A ℓ)} (h : p.RunsTo env s tr s') (hs : I s) :
    I s' := by
  induction p generalizing s tr with
  | done a =>
    obtain ⟨-, rfl⟩ := h
    exact hs
  | fail x =>
    obtain ⟨-, rfl⟩ := h
    exact hs
  | call e k ih =>
    rcases h with ⟨-, rfl⟩ | ⟨a, l, s₁, tr', henv, -, hrest⟩
    · exact hs
    · exact ih a hrest (hstep s e a l s₁ henv hs)

/-! ## What holds at every moment -/

/-- From the state `s`, with the operations `h` behind it, the program keeps `I` at every moment,
and `Q` holds of its result. Both can speak of all operations so far. -/
def Always (env : Env E A ℓ σ) (I : List (Obs E A ℓ) → σ → Prop) :
    Prog E A X α → (α → List (Obs E A ℓ) → σ → Prop) → List (Obs E A ℓ) → σ → Prop
  | done a, Q, h, s => I h s ∧ Q a h s
  | fail _, _, h, s => I h s
  | call e k, Q, h, s =>
    I h s ∧ ∀ a l s₁, env s e a l s₁ → (k a).Always env I Q (h ++ [⟨e, a, l⟩]) s₁

section
variable {I : List (Obs E A ℓ) → σ → Prop} {Q : α → List (Obs E A ℓ) → σ → Prop}

theorem Always.now {p : Prog E A X α} {h : List (Obs E A ℓ)} {s : σ}
    (hp : p.Always env I Q h s) : I h s := by
  cases p with
  | done a => exact hp.1
  | fail x => exact hp
  | call e k => exact hp.1

/-- At a moment of the run. -/
theorem Always.of_runsTo {p : Prog E A X α} {h tr : List (Obs E A ℓ)} {s s' : σ}
    (hp : p.Always env I Q h s) (hrun : p.RunsTo env s tr s') : I (h ++ tr) s' := by
  induction p generalizing h s tr with
  | done a =>
    obtain ⟨rfl, rfl⟩ := hrun
    simpa using hp.now
  | fail x =>
    obtain ⟨rfl, rfl⟩ := hrun
    simpa using hp.now
  | call e k ih =>
    rcases hrun with ⟨rfl, rfl⟩ | ⟨a, l, s₁, tr', henv, rfl, hrest⟩
    · simpa using hp.now
    · simpa using ih a (hp.2 a l s₁ henv) hrest

/-- At its end. -/
theorem Always.of_runsIn {p : Prog E A X α} {h tr : List (Obs E A ℓ)} {s s' : σ} {a : α}
    (hp : p.Always env I Q h s) (hrun : p.RunsIn env s tr (.ok a) s') : Q a (h ++ tr) s' := by
  induction p generalizing h s tr with
  | done b =>
    obtain ⟨rfl, hb, rfl⟩ := hrun
    cases hb
    simpa using hp.2
  | fail x =>
    obtain ⟨-, hx, -⟩ := hrun
    cases hx
  | call e k ih =>
    obtain ⟨b, l, s₁, tr', henv, rfl, hrest⟩ := hrun
    simpa using ih b (hp.2 b l s₁ henv) hrest

theorem Always.mono {Q' : α → List (Obs E A ℓ) → σ → Prop} {p : Prog E A X α}
    {h : List (Obs E A ℓ)} {s : σ} (hp : p.Always env I Q h s)
    (hQ : ∀ a h s, Q a h s → Q' a h s) : p.Always env I Q' h s := by
  induction p generalizing h s with
  | done a => exact ⟨hp.1, hQ a h s hp.2⟩
  | fail x => exact hp
  | call e k ih => exact ⟨hp.1, fun a l s₁ henv => ih a (hp.2 a l s₁ henv)⟩

/-- A sequence, with `R` between its parts. -/
theorem Always.bind {R : β → List (Obs E A ℓ) → σ → Prop} {p : Prog E A X α}
    {f : α → Prog E A X β} {h : List (Obs E A ℓ)} {s : σ} (hp : p.Always env I Q h s)
    (hf : ∀ a h s, Q a h s → (f a).Always env I R h s) : (p >>= f).Always env I R h s := by
  induction p generalizing h s with
  | done a => exact hf a h s hp.2
  | fail x => exact hp
  | call e k ih => exact ⟨hp.1, fun a l s₁ henv => ih a (hp.2 a l s₁ henv)⟩

end

end Prog

end Interactive
