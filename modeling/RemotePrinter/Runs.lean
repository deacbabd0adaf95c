-- Runs of a labelled step relation, and the rules that take what one step
-- keeps to what a whole run keeps. A rule may look at the labels that came
-- before a step, so a law can speak about the history of a run.
import Mathlib.Data.List.Induction

namespace Interactive

variable {σ ℓ : Type}

/-- A run of `step`, with the labels of its steps in order. -/
inductive Run (step : σ → ℓ → σ → Prop) : σ → List ℓ → σ → Prop
  | nil (s : σ) : Run step s [] s
  | cons {s s' s'' : σ} {l : ℓ} {ls : List ℓ} :
      step s l s' → Run step s' ls s'' → Run step s (l :: ls) s''

/-- `Q` holds of each label of the list, given the labels before it. -/
def Along (Q : List ℓ → ℓ → Prop) (ls : List ℓ) : Prop :=
  ∀ pre l post, ls = pre ++ l :: post → Q pre l

theorem along_nil (Q : List ℓ → ℓ → Prop) : Along Q [] := by
  intro pre l post h
  simp at h

theorem along_cons {Q : List ℓ → ℓ → Prop} {l : ℓ} {ls : List ℓ} :
    Along Q (l :: ls) ↔ Q [] l ∧ Along (fun pre x => Q (l :: pre) x) ls := by
  constructor
  · intro h
    exact ⟨h [] l ls rfl, fun pre x post hx => h (l :: pre) x post (by rw [hx]; rfl)⟩
  · rintro ⟨hl, h⟩ pre x post hx
    cases pre with
    | nil => cases hx; exact hl
    | cons y pre =>
      obtain ⟨rfl, hx'⟩ := List.cons.inj hx
      exact h pre x post hx'

theorem along_snoc {Q : List ℓ → ℓ → Prop} {ls : List ℓ} {l : ℓ} :
    Along Q (ls ++ [l]) ↔ Along Q ls ∧ Q ls l := by
  constructor
  · intro h
    refine ⟨fun pre x post hx => h pre x (post ++ [l]) (by simp [hx]), h ls l [] rfl⟩
  · rintro ⟨h, hl⟩ pre x post hx
    rcases List.eq_nil_or_concat post with rfl | ⟨post', y, rfl⟩
    · obtain ⟨rfl, hxl⟩ := List.append_inj' hx rfl
      cases hxl
      exact hl
    · have hx' : ls ++ [l] = (pre ++ x :: post') ++ [y] := by simpa using hx
      exact h pre x post' (List.append_inj_left' hx' rfl)

theorem along_append {Q : List ℓ → ℓ → Prop} {ls ls' : List ℓ} :
    Along Q (ls ++ ls') ↔ Along Q ls ∧ Along (fun pre l => Q (ls ++ pre) l) ls' := by
  induction ls generalizing Q with
  | nil => exact (and_iff_right (along_nil Q)).symm
  | cons l ls ih => rw [List.cons_append, along_cons, along_cons, ih, and_assoc]; rfl

theorem Along.mono {Q Q' : List ℓ → ℓ → Prop} {ls : List ℓ} (h : Along Q ls)
    (hq : ∀ pre l, Q pre l → Q' pre l) : Along Q' ls :=
  fun pre l post he => hq pre l (h pre l post he)

theorem Along.and {Q Q' : List ℓ → ℓ → Prop} {ls : List ℓ} (h : Along Q ls)
    (h' : Along Q' ls) : Along (fun pre l => Q pre l ∧ Q' pre l) ls :=
  fun pre l post he => ⟨h pre l post he, h' pre l post he⟩

/-- A rule that each label keeps, whatever came before it. -/
theorem along_of_mem {Q : List ℓ → ℓ → Prop} {ls : List ℓ} (h : ∀ l ∈ ls, ∀ pre, Q pre l) :
    Along Q ls := by
  rintro pre l post rfl
  exact h l (by simp) pre

/-- A rule that looks at one label only. -/
theorem along_of_forall {P : ℓ → Prop} {ls : List ℓ} (h : ∀ l ∈ ls, P l) :
    Along (fun _ l => P l) ls := along_of_mem fun l hl _ => h l hl

/-- A law about some of the labels, each by what is seen of it. -/
theorem along_filterMap {κ : Type} {Q : List κ → κ → Prop} {f : ℓ → Option κ} {ls : List ℓ} :
    Along Q (ls.filterMap f) ↔
      Along (fun pre l => ∀ x, f l = some x → Q (pre.filterMap f) x) ls := by
  induction ls using List.reverseRecOn with
  | nil => exact iff_of_true (along_nil _) (along_nil _)
  | append_singleton ls l ih =>
    rw [along_snoc, List.filterMap_append]
    cases hl : f l with
    | none => simp [hl, ih]
    | some x =>
      have hx : List.filterMap f [l] = [x] := by simp [hl]
      rw [hx, along_snoc, ih]
      simp

/-! ## What has happened since -/

/-- A label with `P` came, and each label after it has `Q`. -/
def Since (P Q : ℓ → Prop) (ls : List ℓ) : Prop :=
  ∃ pre l post, ls = pre ++ l :: post ∧ P l ∧ ∀ x ∈ post, Q x

theorem since_nil (P Q : ℓ → Prop) : ¬ Since P Q [] := by
  rintro ⟨pre, l, post, h, -⟩
  simp at h

theorem since_snoc {P Q : ℓ → Prop} {ls : List ℓ} {l : ℓ} :
    Since P Q (ls ++ [l]) ↔ P l ∨ Since P Q ls ∧ Q l := by
  constructor
  · rintro ⟨pre, y, post, h, hy, hpost⟩
    rcases List.eq_nil_or_concat post with rfl | ⟨post', z, rfl⟩
    · obtain ⟨-, hly⟩ := List.append_inj' h rfl
      cases hly
      exact Or.inl hy
    · have h' : ls ++ [l] = (pre ++ y :: post') ++ [z] := by simpa using h
      obtain ⟨hls, hlz⟩ := List.append_inj' h' rfl
      cases hlz
      refine Or.inr ⟨⟨pre, y, post', hls, hy, fun x hx => hpost x (by simp [hx])⟩, ?_⟩
      exact hpost l (by simp)
  · rintro (hl | ⟨⟨pre, y, post, rfl, hy, hpost⟩, hl⟩)
    · exact ⟨ls, l, [], rfl, hl, by simp⟩
    · refine ⟨pre, y, post ++ [l], by simp, hy, fun x hx => ?_⟩
      rw [List.mem_append, List.mem_singleton] at hx
      rcases hx with hx | rfl
      · exact hpost x hx
      · exact hl

theorem Since.append {P Q : ℓ → Prop} {ls ls' : List ℓ} (h : Since P Q ls)
    (hq : ∀ l ∈ ls', Q l) : Since P Q (ls ++ ls') := by
  obtain ⟨pre, l, post, rfl, hl, hpost⟩ := h
  refine ⟨pre, l, post ++ ls', by simp, hl, fun x hx => ?_⟩
  exact (List.mem_append.mp hx).elim (hpost x) (hq x)

/-! ## The rules -/

/-- `P` holds of every state between two steps of the run. -/
def Throughout (step : σ → ℓ → σ → Prop) (P : σ → Prop) (s : σ) (ls : List ℓ) (s' : σ) : Prop :=
  ∀ pre post m, ls = pre ++ post → Run step s pre m → Run step m post s' → P m

namespace Run

variable {step : σ → ℓ → σ → Prop}

theorem append {s s' s'' : σ} {ls ls' : List ℓ} (h : Run step s ls s')
    (h' : Run step s' ls' s'') : Run step s (ls ++ ls') s'' := by
  induction h with
  | nil s => exact h'
  | cons hstep _ ih => exact .cons hstep (ih h')

theorem snoc_inv {s s'' : σ} {ls : List ℓ} {l : ℓ} (h : Run step s (ls ++ [l]) s'') :
    ∃ s', Run step s ls s' ∧ step s' l s'' := by
  induction ls generalizing s with
  | nil =>
    cases h with
    | cons hstep hrest => cases hrest; exact ⟨s, .nil s, hstep⟩
  | cons x xs ih =>
    cases h with
    | cons hstep hrest =>
      obtain ⟨s', hrun, hlast⟩ := ih hrest
      exact ⟨s', .cons hstep hrun, hlast⟩

theorem append_inv {s s'' : σ} {ls ls' : List ℓ} (h : Run step s (ls ++ ls') s'') :
    ∃ s', Run step s ls s' ∧ Run step s' ls' s'' := by
  induction ls generalizing s with
  | nil => exact ⟨s, .nil s, h⟩
  | cons x xs ih =>
    cases h with
    | cons hstep hrest =>
      obtain ⟨s', hrun, hrun'⟩ := ih hrest
      exact ⟨s', .cons hstep hrun, hrun'⟩

/-- What holds of the start and is kept by each allowed step holds of every
state that a run with allowed steps reaches. `J` may look at the history. -/
theorem history {J : List ℓ → σ → Prop} {Q : List ℓ → ℓ → Prop} {s₀ s : σ} {ls : List ℓ}
    (h₀ : J [] s₀)
    (hstep : ∀ pre s l s', J pre s → Q pre l → step s l s' → J (pre ++ [l]) s')
    (run : Run step s₀ ls s) (hq : Along Q ls) : J ls s := by
  induction ls using List.reverseRecOn generalizing s with
  | nil => cases run; exact h₀
  | append_singleton ls l ih =>
    obtain ⟨s', hrun, hlast⟩ := snoc_inv run
    obtain ⟨hq', hl⟩ := along_snoc.mp hq
    exact hstep ls s' l s (ih hrun hq') hl hlast

/-- A law about each step of a run, from an invariant of the states before the steps. -/
theorem along {J : List ℓ → σ → Prop} {Q P : List ℓ → ℓ → Prop} {s₀ s : σ} {ls : List ℓ}
    (h₀ : J [] s₀)
    (hstep : ∀ pre s l s', J pre s → Q pre l → step s l s' → J (pre ++ [l]) s' ∧ P pre l)
    (run : Run step s₀ ls s) (hq : Along Q ls) : Along P ls := by
  have key : J ls s ∧ Along P ls := by
    refine history (J := fun ls s => J ls s ∧ Along P ls) (Q := Q)
      ⟨h₀, along_nil P⟩ ?_ run hq
    rintro pre s l s' ⟨hJ, hP⟩ hl hs
    obtain ⟨hJ', hl'⟩ := hstep pre s l s' hJ hl hs
    exact ⟨hJ', along_snoc.mpr ⟨hP, hl'⟩⟩
  exact key.2

end Run

end Interactive
