-- Programs that act on the world by single operations, and the runs they
-- have in an environment that decides what each operation answers. A
-- program is a tree: an operation, and for each answer the program that
-- goes on. So a run can stop after any operation, and programs of several
-- threads can take turns between operations.
import Mathlib.Logic.Basic

namespace Interactive

/-- A program over the operations `E`: it is done, it fails, or it performs
one operation and goes on with the answer. -/
inductive Prog (E : Type) (A : E → Type) (X α : Type) where
  | done (a : α)
  | fail (x : X)
  | call (e : E) (k : A e → Prog E A X α)

/-- One performed operation, its answer, and what the environment noted of it. -/
structure Obs (E : Type) (A : E → Type) (ℓ : Type) where
  op : E
  answer : A op
  note : ℓ

/-- The same operation and answer, with a note made of the old one. -/
def Obs.relabel {E : Type} {A : E → Type} {ℓ ℓ' : Type} (f : ℓ → ℓ') (o : Obs E A ℓ) : Obs E A ℓ' :=
  ⟨o.op, o.answer, f o.note⟩

/-- An environment: in which state an operation can get which answer, with
which note, and the state it leaves. -/
abbrev Env (E : Type) (A : E → Type) (ℓ σ : Type) := σ → (e : E) → A e → ℓ → σ → Prop

namespace Prog

section
variable {E : Type} {A : E → Type} {X α β : Type}

def bind : Prog E A X α → (α → Prog E A X β) → Prog E A X β
  | done a, f => f a
  | fail x, _ => fail x
  | call e k, f => call e (fun a => (k a).bind f)

instance : Monad (Prog E A X) where
  pure := done
  bind := bind

/-- The program that performs one operation and is done with its answer. -/
def perform (e : E) : Prog E A X (A e) := call e done

@[simp] theorem pure_eq (a : α) : (pure a : Prog E A X α) = done a := rfl

@[simp] theorem done_bind (a : α) (f : α → Prog E A X β) : (done a >>= f) = f a := rfl

@[simp] theorem fail_bind (x : X) (f : α → Prog E A X β) : (fail x >>= f) = fail x := rfl

@[simp] theorem call_bind (e : E) (k : A e → Prog E A X α) (f : α → Prog E A X β) :
    (call e k >>= f) = call e (fun a => k a >>= f) := rfl

@[simp] theorem perform_bind (e : E) (f : A e → Prog E A X β) :
    (perform e >>= f) = call e f := rfl

theorem bind_done (p : Prog E A X α) : (p >>= done) = p := by
  induction p with
  | done a => rfl
  | fail x => rfl
  | call e k ih => simp [ih]

theorem bind_assoc {γ : Type} (p : Prog E A X α) (f : α → Prog E A X β) (g : β → Prog E A X γ) :
    (p >>= f) >>= g = p >>= fun a => f a >>= g := by
  induction p with
  | done a => rfl
  | fail x => rfl
  | call e k ih => simp [ih]

end

/-! ## Programs with determined answers -/

section
variable {E : Type} {A : E → Type} {X α β σ : Type}

/-- The program with each operation carried out by `act`. An operation that waits for ever has no
answer, and then the program has no result. -/
def exec (act : (e : E) → σ → Option (A e) × σ) : Prog E A X α → σ → Option (Except X α) × σ
  | done a, s => (some (.ok a), s)
  | fail x, s => (some (.error x), s)
  | call e k, s =>
    match act e s with
    | (some a, s') => (k a).exec act s'
    | (none, s') => (none, s')

theorem exec_call (act : (e : E) → σ → Option (A e) × σ) (e : E) (k : A e → Prog E A X α)
    (s : σ) :
    (call e k).exec act s =
      match act e s with
      | (some a, s') => (k a).exec act s'
      | (none, s') => (none, s') := by
  rw [exec]

theorem exec_bind_of_ok {act : (e : E) → σ → Option (A e) × σ} {p : Prog E A X α} {s s' : σ}
    {a : α} (h : p.exec act s = (some (.ok a), s')) (f : α → Prog E A X β) :
    (p >>= f).exec act s = (f a).exec act s' := by
  induction p generalizing s with
  | done b =>
    cases h
    rfl
  | fail x => cases h
  | call e k ih =>
    rw [exec_call] at h
    rw [call_bind, exec_call]
    split at h
    · exact ih _ h
    · cases h

end

/-! ## Programs over smaller operations -/

section
variable {E E' : Type} {A : E → Type} {A' : E' → Type} {X α : Type}

/-- The program with a program in the place of each operation. -/
def subst (f : (e : E) → Prog E' A' X (A e)) : Prog E A X α → Prog E' A' X α
  | done a => done a
  | fail x => fail x
  | call e k => f e >>= fun a => (k a).subst f

end

/-! ## Runs in an environment -/

section
variable {E : Type} {A : E → Type} {X α β ℓ σ : Type} {env : Env E A ℓ σ}

/-- The program runs from `s` to `s'`, performs the operations of the list in
order, and ends with the given result. -/
def RunsIn (env : Env E A ℓ σ) :
    Prog E A X α → σ → List (Obs E A ℓ) → Except X α → σ → Prop
  | done a, s, tr, r, s' => tr = [] ∧ r = .ok a ∧ s' = s
  | fail x, s, tr, r, s' => tr = [] ∧ r = .error x ∧ s' = s
  | call e k, s, tr, r, s' =>
    ∃ a l s₁ tr', env s e a l s₁ ∧ tr = ⟨e, a, l⟩ :: tr' ∧ (k a).RunsIn env s₁ tr' r s'

/-- A program that is done runs no further. -/
theorem RunsIn.ended (a : α) (s : σ) : (done a : Prog E A X α).RunsIn env s [] (.ok a) s :=
  ⟨rfl, rfl, rfl⟩

/-- One operation, and then a run of the rest. -/
theorem RunsIn.next {e : E} {k : A e → Prog E A X α} {a : A e} {l : ℓ} {s s₁ s' : σ}
    {tr : List (Obs E A ℓ)} {r : Except X α} (h : env s e a l s₁)
    (hrest : (k a).RunsIn env s₁ tr r s') :
    (call e k).RunsIn env s (⟨e, a, l⟩ :: tr) r s' :=
  ⟨a, l, s₁, tr, h, rfl, hrest⟩

/-- A run is one of another environment that allows the same with other notes. -/
theorem RunsIn.relabel {ℓ' : Type} {env' : Env E A ℓ' σ} {f : ℓ → ℓ'}
    (hsub : ∀ s e a l s', env s e a l s' → env' s e a (f l) s') {p : Prog E A X α} {s s' : σ}
    {tr : List (Obs E A ℓ)} {r : Except X α} (h : p.RunsIn env s tr r s') :
    p.RunsIn env' s (tr.map (Obs.relabel f)) r s' := by
  induction p generalizing s tr with
  | done a =>
    obtain ⟨rfl, rfl, rfl⟩ := h
    exact .ended a s'
  | fail x =>
    obtain ⟨rfl, rfl, rfl⟩ := h
    exact ⟨rfl, rfl, rfl⟩
  | call e k ih =>
    obtain ⟨a, l, s₁, tr', henv, rfl, hrest⟩ := h
    exact .next (hsub _ _ _ _ _ henv) (ih a hrest)

/-- A run is one of an environment that allows more. -/
theorem RunsIn.mono {env' : Env E A ℓ σ}
    (hsub : ∀ s e a l s', env s e a l s' → env' s e a l s') {p : Prog E A X α} {s s' : σ}
    {tr : List (Obs E A ℓ)} {r : Except X α} (h : p.RunsIn env s tr r s') :
    p.RunsIn env' s tr r s' := by
  induction p generalizing s tr with
  | done a => exact h
  | fail x => exact h
  | call e k ih =>
    obtain ⟨a, l, s₁, tr', henv, rfl, hrest⟩ := h
    exact .next (hsub _ _ _ _ _ henv) (ih a hrest)

/-- What every operation of the environment shows, all operations of a run show. -/
theorem RunsIn.forall_obs {P : Obs E A ℓ → Prop}
    (hop : ∀ s e a l s', env s e a l s' → P ⟨e, a, l⟩) {p : Prog E A X α} {s s' : σ}
    {tr : List (Obs E A ℓ)} {r : Except X α} (h : p.RunsIn env s tr r s') : ∀ o ∈ tr, P o := by
  induction p generalizing s tr with
  | done a =>
    obtain ⟨rfl, -, -⟩ := h
    simp
  | fail x =>
    obtain ⟨rfl, -, -⟩ := h
    simp
  | call e k ih =>
    obtain ⟨a, l, s₁, tr', henv, rfl, hrest⟩ := h
    intro o ho
    rcases List.mem_cons.mp ho with rfl | ho
    · exact hop _ _ _ _ _ henv
    · exact ih a hrest o ho

/-- A run of a sequence fails in its first part, or is a run of the first part and one of the
rest. -/
theorem RunsIn.of_bind {p : Prog E A X α} {f : α → Prog E A X β} {s s' : σ}
    {tr : List (Obs E A ℓ)} {r : Except X β} (h : (p >>= f).RunsIn env s tr r s') :
    (∃ x, p.RunsIn env s tr (.error x) s' ∧ r = .error x) ∨
    ∃ a tr₁ tr₂ s₁, p.RunsIn env s tr₁ (.ok a) s₁ ∧ tr = tr₁ ++ tr₂ ∧
      (f a).RunsIn env s₁ tr₂ r s' := by
  induction p generalizing s tr with
  | done a => exact Or.inr ⟨a, [], tr, s, .ended a s, rfl, h⟩
  | fail x =>
    obtain ⟨rfl, rfl, rfl⟩ := h
    exact Or.inl ⟨x, ⟨rfl, rfl, rfl⟩, rfl⟩
  | call e k ih =>
    obtain ⟨a, l, s₁, tr', henv, rfl, hrest⟩ := h
    rcases ih a hrest with ⟨x, hx, rfl⟩ | ⟨b, tr₁, tr₂, s₂, hb, rfl, hf⟩
    · exact Or.inl ⟨x, .next henv hx, rfl⟩
    · exact Or.inr ⟨b, _, tr₂, s₂, .next henv hb, rfl, hf⟩

theorem RunsIn.bind {p : Prog E A X α} {f : α → Prog E A X β} {s s₁ s' : σ}
    {tr₁ tr₂ : List (Obs E A ℓ)} {a : α} {r : Except X β}
    (hp : p.RunsIn env s tr₁ (.ok a) s₁) (hf : (f a).RunsIn env s₁ tr₂ r s') :
    (p >>= f).RunsIn env s (tr₁ ++ tr₂) r s' := by
  induction p generalizing s tr₁ with
  | done b =>
    obtain ⟨rfl, hb, rfl⟩ := hp
    cases hb
    exact hf
  | fail x =>
    obtain ⟨-, hx, -⟩ := hp
    cases hx
  | call e k ih =>
    obtain ⟨b, l, s₂, tr', henv, rfl, hrest⟩ := hp
    exact .next henv (ih b hrest)

end

/-! ## Runs that are computed -/

section
variable {E : Type} {A : E → Type} {X α σ : Type}

/-- The program with operations that always answer: what it performs, and how it ends. -/
def trace (act : (e : E) → σ → A e × σ) :
    Prog E A X α → σ → List (Obs E A Unit) × Except X α × σ
  | done a, s => ([], .ok a, s)
  | fail x, s => ([], .error x, s)
  | call e k, s =>
    let out := (k (act e s).1).trace act (act e s).2
    (⟨e, (act e s).1, ()⟩ :: out.1, out.2)

/-- It is a run in an environment that allows the operations that were performed. -/
theorem trace_runsIn {act : (e : E) → σ → A e × σ} {env : Env E A Unit σ} {ok : E → Bool}
    (hact : ∀ e s, ok e = true → env s e (act e s).1 () (act e s).2) (p : Prog E A X α) (s : σ)
    (hok : ((p.trace act s).1.all fun o => ok o.op) = true) :
    p.RunsIn env s (p.trace act s).1 (p.trace act s).2.1 (p.trace act s).2.2 := by
  induction p generalizing s with
  | done a => exact ⟨rfl, rfl, rfl⟩
  | fail x => exact ⟨rfl, rfl, rfl⟩
  | call e k ih =>
    unfold trace at hok ⊢
    rw [List.all_cons, Bool.and_eq_true] at hok
    exact .next (hact e s hok.1) (ih _ _ hok.2)

end

/-! ## What a program can come to -/

section
variable {E : Type} {A : E → Type} {X α β : Type}

/-- The environment of all answers with `Q`. -/
def possible (Q : (e : E) → A e → Prop) : Env E A Unit Unit := fun _ e a _ _ => Q e a

/-- Whatever a program is answered, it performs operations with `P` only. -/
def Only (Q : (e : E) → A e → Prop) (P : E → Prop) (p : Prog E A X α) : Prop :=
  ∀ tr r, p.RunsIn (possible Q) () tr r () → ∀ o ∈ tr, P o.op

variable {Q : (e : E) → A e → Prop} {P : E → Prop}

theorem only_done (a : α) : (done a : Prog E A X α).Only Q P := by
  rintro tr r ⟨rfl, -, -⟩
  simp

theorem only_fail (x : X) : (fail x : Prog E A X α).Only Q P := by
  rintro tr r ⟨rfl, -, -⟩
  simp

/-- With a possible answer to each operation a program runs to an end. -/
theorem exists_runsIn (hQ : ∀ e, ∃ a, Q e a) (p : Prog E A X α) :
    ∃ tr r, p.RunsIn (possible Q) () tr r () := by
  induction p with
  | done a => exact ⟨[], .ok a, .ended a ()⟩
  | fail x => exact ⟨[], .error x, rfl, rfl, rfl⟩
  | call e k ih =>
    obtain ⟨a, ha⟩ := hQ e
    obtain ⟨tr, r, hrun⟩ := ih a
    exact ⟨⟨e, a, ()⟩ :: tr, r, .next ha hrun⟩

theorem only_call (hQ : ∀ e, ∃ a, Q e a) {e : E} {k : A e → Prog E A X α} :
    (call e k).Only Q P ↔ P e ∧ ∀ a, Q e a → (k a).Only Q P := by
  constructor
  · intro h
    constructor
    · obtain ⟨a, ha⟩ := hQ e
      obtain ⟨tr, r, hrun⟩ := exists_runsIn hQ (k a)
      exact h (⟨e, a, ()⟩ :: tr) r (.next ha hrun) _ List.mem_cons_self
    · intro a ha tr r hrun o ho
      exact h (⟨e, a, ()⟩ :: tr) r (.next ha hrun) o (List.mem_cons_of_mem _ ho)
  · rintro ⟨he, hk⟩ tr r ⟨a, l, s₁, tr', ha, rfl, hrest⟩ o ho
    rcases List.mem_cons.mp ho with rfl | ho
    · exact he
    · exact hk a ha tr' r hrest o ho

end

end Prog

end Interactive
