-- Threads that are started one after the other, each with a state of its own
-- beside the one that all share. What a thread has done, in whatever order the
-- threads have taken turns, is a run of its program alone, with a shared state
-- that others may have changed in between.
import RemotePrinter.Program
import RemotePrinter.Runs
import Mathlib.Logic.Function.Basic

namespace Interactive

/-! ## A run up to some operation -/

namespace Prog

section
variable {E : Type} {A : E → Type} {X α ℓ σ : Type} {env : Env E A ℓ σ}

/-- The program gets from `s` to `s'` by the operations of the list, and `p'` is left of it. -/
inductive GetsTo (env : Env E A ℓ σ) (p : Prog E A X α) (s : σ) :
    List (Obs E A ℓ) → Prog E A X α → σ → Prop
  | start : GetsTo env p s [] p s
  | next {tr : List (Obs E A ℓ)} {e : E} {k : A e → Prog E A X α} {a : A e} {l : ℓ} {s₁ s₂ : σ}
      (h : GetsTo env p s tr (.call e k) s₁) (henv : env s₁ e a l s₂) :
      GetsTo env p s (tr ++ [⟨e, a, l⟩]) (k a) s₂

theorem GetsTo.runsIn {p p' : Prog E A X α} {s s₁ s' : σ} {tr tr' : List (Obs E A ℓ)}
    {r : Except X α} (h : p.GetsTo env s tr p' s₁) (hrest : p'.RunsIn env s₁ tr' r s') :
    p.RunsIn env s (tr ++ tr') r s' := by
  induction h generalizing tr' with
  | start => exact hrest
  | next _ henv ih =>
    rw [List.append_assoc]
    exact ih (.next henv hrest)

end

/-- How a program that has no operation left ends. -/
def ended {E : Type} {A : E → Type} {X α : Type} : Prog E A X α → Option (Except X α)
  | done a => some (.ok a)
  | fail x => some (.error x)
  | call .. => none

theorem runsIn_of_ended {E : Type} {A : E → Type} {X α ℓ σ : Type} {env : Env E A ℓ σ}
    {p : Prog E A X α} {r : Except X α} (h : p.ended = some r) (s : σ) :
    p.RunsIn env s [] r s := by
  cases p with
  | done a =>
    cases h
    exact ⟨rfl, rfl, rfl⟩
  | fail x =>
    cases h
    exact ⟨rfl, rfl, rfl⟩
  | call e k => cases h

end Prog

/-! ## Lanes -/

/-- The shared state, and for each thread that was started its own state and what is left of its
program. -/
structure Lanes (ι E : Type) (A : E → Type) (X α κ σ : Type) where
  shared : σ
  lanes : ι → Option (κ × Prog E A X α)

inductive LaneEvent (ι E : Type) (A : E → Type) (X α κ ℓ : Type) where
  | started (i : ι) (k : κ) (p : Prog E A X α)
  | acted (i : ι) (o : Obs E A ℓ)

namespace Lanes

section
variable {ι E : Type} {A : E → Type} {X α κ ℓ σ : Type}

/-- No thread was started. -/
def Idle (L : Lanes ι E A X α κ σ) : Prop := ∀ i, L.lanes i = none

/-- The operations of a thread. -/
def ops [DecidableEq ι] (i : ι) (es : List (LaneEvent ι E A X α κ ℓ)) : List (Obs E A ℓ) :=
  es.filterMap fun
    | .acted j o => if j = i then some o else none
    | .started .. => none

variable [DecidableEq ι]

/-- A thread is started with a state and a program of `starts`, or one of them performs an
operation. No thread takes a step if one has ended as `stops` says. -/
inductive Step (env : Env E A ℓ (κ × σ)) (starts : κ → Prog E A X α → Prop) (stops : X → Prop) :
    Lanes ι E A X α κ σ → LaneEvent ι E A X α κ ℓ → Lanes ι E A X α κ σ → Prop
  | start {L : Lanes ι E A X α κ σ} {i : ι} {k : κ} {p : Prog E A X α} (h : L.lanes i = none)
      (hstarts : starts k p) (hgoes : ∀ j k' x, L.lanes j = some (k', .fail x) → ¬ stops x) :
      Step env starts stops L (.started i k p)
        { L with lanes := Function.update L.lanes i (some (k, p)) }
  | act {L : Lanes ι E A X α κ σ} {i : ι} {k k' : κ} {e : E} {f : A e → Prog E A X α} {a : A e}
      {l : ℓ} {w : σ} (h : L.lanes i = some (k, .call e f))
      (henv : env (k, L.shared) e a l (k', w))
      (hgoes : ∀ j k' x, L.lanes j = some (k', .fail x) → ¬ stops x) :
      Step env starts stops L (.acted i ⟨e, a, l⟩)
        { shared := w, lanes := Function.update L.lanes i (some (k', f a)) }

/-- What one thread sees of the shared state: nothing. -/
def alone (env : Env E A ℓ (κ × σ)) : Env E A ℓ (κ × Unit)
  | (k, ()), e, a, l, (k', ()) => ∃ w w', env (k, w) e a l (k', w')

variable {env : Env E A ℓ (κ × σ)} {starts : κ → Prog E A X α → Prop} {stops : X → Prop}

theorem ops_snoc (i : ι) (es : List (LaneEvent ι E A X α κ ℓ)) (e : LaneEvent ι E A X α κ ℓ) :
    ops i (es ++ [e]) = ops i es ++ ops i [e] := List.filterMap_append

/-- A thread that was started has done a part of its program, by its own operations. -/
def Underway (env : Env E A ℓ (κ × σ)) (starts : κ → Prog E A X α → Prop)
    (es : List (LaneEvent ι E A X α κ ℓ)) (i : ι) (k' : κ) (p' : Prog E A X α) : Prop :=
  ∃ k p, .started i k p ∈ es ∧ starts k p ∧
    p.GetsTo (alone env) (k, ()) (ops i es) p' (k', ())

/-- What the steps of a thread are part of. -/
theorem lanes_underway {L₀ L : Lanes ι E A X α κ σ} {es : List (LaneEvent ι E A X α κ ℓ)}
    (hidle : L₀.Idle) (run : Run (Step env starts stops) L₀ es L) :
    ∀ i, (L.lanes i = none → ops i es = []) ∧
      ∀ k' p', L.lanes i = some (k', p') → Underway env starts es i k' p' := by
  refine run.history (J := fun es L => ∀ i, (L.lanes i = none → ops i es = []) ∧
    ∀ k' p', L.lanes i = some (k', p') → Underway env starts es i k' p')
    (Q := fun _ _ => True) ?_ ?_ (along_of_forall fun _ _ => trivial)
  · intro i
    refine ⟨fun _ => rfl, fun k' p' h => ?_⟩
    rw [hidle i] at h
    cases h
  · rintro es L e L' hJ - hstep i
    cases hstep with
    | @start j k p h hstarts hgoes =>
      have hops : ops i (es ++ [.started j k p]) = ops i es := by
        rw [ops_snoc]
        exact List.append_nil _
      by_cases hij : i = j
      · subst hij
        refine ⟨fun hnone => ?_, fun k' p' hsome => ⟨k, p, by simp, hstarts, ?_⟩⟩
        · simp at hnone
        · rw [hops, (hJ i).1 h]
          simp only [Function.update_self, Option.some.injEq, Prod.mk.injEq] at hsome
          obtain ⟨rfl, rfl⟩ := hsome
          exact .start
      · simp only [Function.update_of_ne hij]
        rw [hops]
        refine ⟨(hJ i).1, fun k' p' hsome => ?_⟩
        obtain ⟨k₀, p₀, hmem, hst, hgets⟩ := (hJ i).2 k' p' hsome
        exact ⟨k₀, p₀, List.mem_append_left _ hmem, hst, hops.symm ▸ hgets⟩
    | @act j k k₁ e f a l w h henv hgoes =>
      by_cases hij : i = j
      · subst hij
        refine ⟨fun hnone => ?_, fun k' p' hsome => ?_⟩
        · simp at hnone
        · simp only [Function.update_self, Option.some.injEq, Prod.mk.injEq] at hsome
          obtain ⟨rfl, rfl⟩ := hsome
          obtain ⟨k₀, p₀, hmem, hst, hgets⟩ := (hJ i).2 _ _ h
          refine ⟨k₀, p₀, List.mem_append_left _ hmem, hst, ?_⟩
          have hops : ops i (es ++ [.acted i ⟨e, a, l⟩]) = ops i es ++ [⟨e, a, l⟩] := by
            rw [ops_snoc]
            simp [ops]
          rw [hops]
          exact hgets.next ⟨_, _, henv⟩
      · have hops : ops i (es ++ [.acted j ⟨e, a, l⟩]) = ops i es := by
          rw [ops_snoc]
          simp [ops, Ne.symm hij]
        simp only [Function.update_of_ne hij]
        rw [hops]
        refine ⟨(hJ i).1, fun k' p' hsome => ?_⟩
        obtain ⟨k₀, p₀, hmem, hst, hgets⟩ := (hJ i).2 k' p' hsome
        exact ⟨k₀, p₀, List.mem_append_left _ hmem, hst, hops.symm ▸ hgets⟩

/-- The operations of a thread that has ended are a run of its program. -/
theorem ops_runsIn {L₀ L : Lanes ι E A X α κ σ} {es : List (LaneEvent ι E A X α κ ℓ)}
    (hidle : L₀.Idle) (run : Run (Step env starts stops) L₀ es L) {i : ι} {k' : κ}
    {p' : Prog E A X α} (hi : L.lanes i = some (k', p')) {r : Except X α}
    (hended : p'.ended = some r) :
    ∃ k p, .started i k p ∈ es ∧ starts k p ∧
      p.RunsIn (alone env) (k, ()) (ops i es) r (k', ()) := by
  obtain ⟨k, p, hmem, hstarts, hgets⟩ := (lanes_underway hidle run i).2 k' p' hi
  have hrun := hgets.runsIn (Prog.runsIn_of_ended hended (k', ()))
  rw [List.append_nil] at hrun
  exact ⟨k, p, hmem, hstarts, hrun⟩

/-- What is left of a thread, run while the others wait. -/
theorem run_rest {L : Lanes ι E A X α κ σ} {i : ι} {k k' : κ} {p : Prog E A X α} {w' : σ}
    {tr : List (Obs E A ℓ)} {r : Except X α} (hi : L.lanes i = some (k, p))
    (hgoes : ∀ j, j ≠ i → ∀ k' x, L.lanes j = some (k', .fail x) → ¬ stops x)
    (h : p.RunsIn env (k, L.shared) tr r (k', w')) :
    ∃ L' p', Run (Step env starts stops) L (tr.map (.acted i)) L' ∧ L'.shared = w' ∧
      L'.lanes = Function.update L.lanes i (some (k', p')) ∧ p'.ended = some r := by
  induction p generalizing L k tr with
  | done a =>
    obtain ⟨rfl, rfl, hs⟩ := h
    cases hs
    exact ⟨L, _, .nil _, rfl, by rw [← hi, Function.update_eq_self], rfl⟩
  | fail x =>
    obtain ⟨rfl, rfl, hs⟩ := h
    cases hs
    exact ⟨L, _, .nil _, rfl, by rw [← hi, Function.update_eq_self], rfl⟩
  | call e f ih =>
    obtain ⟨a, l, ⟨k₁, w₁⟩, tr', henv, rfl, hrest⟩ := h
    have hnone : ∀ j k' x, L.lanes j = some (k', .fail x) → ¬ stops x := by
      intro j k' x hj
      by_cases hji : j = i
      · subst hji
        rw [hi] at hj
        cases hj
      · exact hgoes j hji k' x hj
    obtain ⟨L', p', hrun, hshared, hlanes, hended⟩ := ih a
      (L := { shared := w₁, lanes := Function.update L.lanes i (some (k₁, f a)) })
      (by simp) (fun j hji k' x hj => hgoes j hji k' x (by simpa [hji] using hj)) hrest
    rw [Function.update_idem] at hlanes
    exact ⟨L', p', .cons (.act hi henv hnone) hrun, hshared, hlanes, hended⟩

/-- A thread that does not stop the others. -/
theorem goes_update {f : ι → Option (κ × Prog E A X α)}
    (h : ∀ j k x, f j = some (k, .fail x) → ¬ stops x) (i : ι) (k : κ) {p : Prog E A X α}
    (hp : ∀ x, p = .fail x → ¬ stops x) :
    ∀ j k' x, Function.update f i (some (k, p)) j = some (k', .fail x) → ¬ stops x := by
  intro j k' x hj
  by_cases hji : j = i
  · subst hji
    rw [Function.update_self] at hj
    cases hj
    exact hp x rfl
  · rw [Function.update_of_ne hji] at hj
    exact h j k' x hj

/-- Two threads that are started in an idle system. The second waits until the first has ended. -/
theorem run_two {L : Lanes ι E A X α κ σ} (hidle : L.Idle) {i j : ι} (hij : i ≠ j)
    {k₁ k₁' k₂ k₂' : κ} {p₁ p₂ : Prog E A X α} (hstarts₁ : starts k₁ p₁) (hstarts₂ : starts k₂ p₂)
    {w₁ w₂ : σ} {tr₁ tr₂ : List (Obs E A ℓ)} {r₁ r₂ : Except X α}
    (h₁ : p₁.RunsIn env (k₁, L.shared) tr₁ r₁ (k₁', w₁)) (hr₁ : ∀ x, r₁ = .error x → ¬ stops x)
    (h₂ : p₂.RunsIn env (k₂, w₁) tr₂ r₂ (k₂', w₂)) (hr₂ : ∀ x, r₂ = .error x → ¬ stops x) :
    ∃ L' p₁' p₂', Run (Step env starts stops) L
        (.started i k₁ p₁ :: .started j k₂ p₂ :: (tr₁.map (.acted i) ++ tr₂.map (.acted j))) L' ∧
      (L'.lanes i = some (k₁', p₁') ∧ p₁'.ended = some r₁) ∧
      L'.lanes j = some (k₂', p₂') ∧ p₂'.ended = some r₂ := by
  have hp₁ : ∀ x, p₁ = .fail x → ¬ stops x := by
    rintro x rfl
    exact hr₁ x h₁.2.1
  have hp₂ : ∀ x, p₂ = .fail x → ¬ stops x := by
    rintro x rfl
    exact hr₂ x h₂.2.1
  have hgoes : ∀ j k x, L.lanes j = some (k, .fail x) → ¬ stops x := by
    intro j k x hj
    rw [hidle j] at hj
    cases hj
  have hgoes₁ := goes_update hgoes i k₁ hp₁
  have hgoes₂ := goes_update hgoes₁ j k₂ hp₂
  let L₁ : Lanes ι E A X α κ σ := { L with lanes := Function.update L.lanes i (some (k₁, p₁)) }
  let L₂ : Lanes ι E A X α κ σ := { L with lanes := Function.update L₁.lanes j (some (k₂, p₂)) }
  have hstart₁ : Step env starts stops L (.started i k₁ p₁) L₁ := .start (hidle i) hstarts₁ hgoes
  have hstart₂ : Step env starts stops L₁ (.started j k₂ p₂) L₂ := by
    refine .start ?_ hstarts₂ hgoes₁
    exact (Function.update_of_ne hij.symm ..).trans (hidle j)
  have hi : L₂.lanes i = some (k₁, p₁) :=
    (Function.update_of_ne hij ..).trans (Function.update_self ..)
  obtain ⟨L₃, p₁', hrun₁, rfl, hlanes₃, hended₁⟩ : ∃ L₃ p₁',
      Run (Step env starts stops) L₂ (tr₁.map (.acted i)) L₃ ∧ L₃.shared = w₁ ∧
      L₃.lanes = Function.update L₂.lanes i (some (k₁', p₁')) ∧ p₁'.ended = some r₁ :=
    run_rest hi (fun j _ => hgoes₂ j) h₁
  have hj : L₃.lanes j = some (k₂, p₂) := by
    rw [hlanes₃, Function.update_of_ne hij.symm]
    exact Function.update_self ..
  have hp₁' : ∀ x, p₁' = .fail x → ¬ stops x := by
    rintro x rfl
    exact hr₁ x (Option.some.inj hended₁).symm
  have hgoes₃ := goes_update hgoes₂ i k₁' hp₁'
  rw [← hlanes₃] at hgoes₃
  obtain ⟨L₄, p₂', hrun₂, -, hlanes₄, hended₂⟩ : ∃ L₄ p₂',
      Run (Step env starts stops) L₃ (tr₂.map (.acted j)) L₄ ∧ L₄.shared = w₂ ∧
      L₄.lanes = Function.update L₃.lanes j (some (k₂', p₂')) ∧ p₂'.ended = some r₂ :=
    run_rest hj (fun j _ => hgoes₃ j) h₂
  refine ⟨L₄, p₁', p₂', .cons hstart₁ (.cons hstart₂ (hrun₁.append hrun₂)), ⟨?_, hended₁⟩, ?_,
    hended₂⟩
  · rw [hlanes₄, Function.update_of_ne hij, hlanes₃, Function.update_self]
  · rw [hlanes₄, Function.update_self]

end

end Lanes

end Interactive
