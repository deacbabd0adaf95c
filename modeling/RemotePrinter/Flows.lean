-- The flow of control of a program: from each place some ways go on, with
-- something that can be seen of them or with nothing. Two programs have the
-- same flow if each follows the other way by way, where one of them can take
-- quiet steps in between.
import Mathlib.Data.Option.Basic

namespace Interactive

/-- The ways on from a place: what is seen of each, and where it leads, if it does not leave the
program. -/
abbrev Flow (S L : Type) := S → List (Option L × Option S)

namespace Flow

section
variable {S T L : Type}

inductive Runs (f : Flow S L) : S → List L → Option S → Prop
  | refl (a : S) : Runs f a [] (some a)
  | step {a b : S} {l : Option L} {ls : List L} {e : Option S} (h : (l, some b) ∈ f a)
      (hrest : Runs f b ls e) : Runs f a (l.toList ++ ls) e
  | leave {a : S} {l : Option L} (h : (l, none) ∈ f a) : Runs f a l.toList none

/-- Nothing can happen but that control gets, unseen, from the first place to the second. -/
inductive Quiet (f : Flow S L) : S → S → Prop
  | refl (a : S) : Quiet f a a
  | step {a b c : S} (h : f a = [(none, some b)]) (hrest : Quiet f b c) : Quiet f a c

theorem Quiet.single {f : Flow S L} {a b : S} (h : f a = [(none, some b)]) : Quiet f a b :=
  .step h (.refl b)

theorem Quiet.trans {f : Flow S L} {a b c : S} (h : Quiet f a b) (h' : Quiet f b c) :
    Quiet f a c := by
  induction h with
  | refl a => exact h'
  | step hstep _ ih => exact .step hstep (ih h')

theorem Quiet.runs {f : Flow S L} {a b : S} (h : Quiet f a b) {ls : List L} {e : Option S}
    (hrun : Runs f b ls e) : Runs f a ls e := by
  induction h with
  | refl a => exact hrun
  | @step a b c hstep _ ih => exact .step (hstep ▸ List.mem_cons_self) (ih hrun)

/-- Both ways lead to places that belong together, or both leave. -/
def Ends (R : S → T → Prop) : Option S → Option T → Prop
  | some a, some b => R a b
  | none, none => True
  | _, _ => False

/-- Control at the second place gets, unseen, to one that belongs to the first. -/
def Follows (g : Flow T L) (C : S → T → Prop) (a : S) (b : T) : Prop :=
  ∃ b', Quiet g b b' ∧ C a b'

theorem Follows.of {g : Flow T L} {C : S → T → Prop} {a : S} {b : T} (h : C a b) :
    Follows g C a b := ⟨b, .refl b, h⟩

theorem Follows.quiet {g : Flow T L} {C : S → T → Prop} {a : S} {b b' : T} (hquiet : Quiet g b b')
    (h : Follows g C a b') : Follows g C a b := by
  obtain ⟨b'', hquiet', hb⟩ := h
  exact ⟨b'', hquiet.trans hquiet', hb⟩

/-- The same is seen of the ways, and they lead to places that belong together. -/
structure Alike (R : S → T → Prop) (ways : List (Option L × Option S))
    (ways' : List (Option L × Option T)) : Prop where
  forth : ∀ l e, (l, e) ∈ ways → ∃ e', (l, e') ∈ ways' ∧ Ends R e e'
  back : ∀ l e', (l, e') ∈ ways' → ∃ e, (l, e) ∈ ways ∧ Ends R e e'

theorem Alike.nil {R : S → T → Prop} : Alike R ([] : List (Option L × Option S)) [] :=
  ⟨fun _ _ h => absurd h List.not_mem_nil, fun _ _ h => absurd h List.not_mem_nil⟩

theorem Alike.cons {R : S → T → Prop} {l : Option L} {e : Option S} {e' : Option T}
    {ways : List (Option L × Option S)} {ways' : List (Option L × Option T)} (he : Ends R e e')
    (h : Alike R ways ways') : Alike R ((l, e) :: ways) ((l, e') :: ways') := by
  constructor
  · intro l₁ e₁ hmem
    rcases List.mem_cons.mp hmem with heq | hmem
    · cases heq
      exact ⟨e', List.mem_cons_self, he⟩
    · obtain ⟨e₂, hmem', hends⟩ := h.forth l₁ e₁ hmem
      exact ⟨e₂, List.mem_cons_of_mem _ hmem', hends⟩
  · intro l₁ e₁ hmem
    rcases List.mem_cons.mp hmem with heq | hmem
    · cases heq
      exact ⟨e, List.mem_cons_self, he⟩
    · obtain ⟨e₂, hmem', hends⟩ := h.back l₁ e₁ hmem
      exact ⟨e₂, List.mem_cons_of_mem _ hmem', hends⟩

theorem Alike.single {R : S → T → Prop} {l : Option L} {e : Option S} {e' : Option T}
    (he : Ends R e e') : Alike R [(l, e)] [(l, e')] :=
  .cons he .nil

theorem Alike.reverse {R : S → T → Prop} {ways : List (Option L × Option S)}
    {ways' : List (Option L × Option T)} (h : Alike R ways ways') : Alike R ways ways'.reverse := by
  constructor
  · intro l e hmem
    obtain ⟨e', hmem', he⟩ := h.forth l e hmem
    exact ⟨e', List.mem_reverse.mpr hmem', he⟩
  · intro l e' hmem
    exact h.back l e' (List.mem_reverse.mp hmem)

theorem Alike.refl {R : S → S → Prop} {ways : List (Option L × Option S)}
    (h : ∀ l a, (l, some a) ∈ ways → R a a) : Alike R ways ways := by
  have hends (l : Option L) (e : Option S) (hmem : (l, e) ∈ ways) : Ends R e e := by
    cases e with
    | none => trivial
    | some a => exact h l a hmem
  exact ⟨fun l e hmem => ⟨e, hmem, hends l e hmem⟩, fun l e hmem => ⟨e, hmem, hends l e hmem⟩⟩

/-- Places that belong together have the same ways on. -/
def Match (f : Flow S L) (g : Flow T L) (C : S → T → Prop) : Prop :=
  ∀ a b, C a b → Alike (Follows g C) (f a) (g b)

variable {f : Flow S L} {g : Flow T L} {C : S → T → Prop}

/-- Each run of the first program is one of the second. -/
theorem Match.runs_forth (h : Match f g C) {a : S} {b : T} (hab : Follows g C a b) {ls : List L}
    {e : Option S} (hrun : Runs f a ls e) : ∃ e', Runs g b ls e' ∧ Ends (Follows g C) e e' := by
  induction hrun generalizing b with
  | refl a => exact ⟨some b, .refl b, hab⟩
  | @step a a' l ls e hstep _ ih =>
    obtain ⟨b', hquiet, hb'⟩ := hab
    obtain ⟨e₁, hmem, hends⟩ := (h a b' hb').forth l (some a') hstep
    cases e₁ with
    | none => exact hends.elim
    | some b₁ =>
      obtain ⟨e', hrest, hend⟩ := ih hends
      exact ⟨e', hquiet.runs (.step hmem hrest), hend⟩
  | @leave a l hstep =>
    obtain ⟨b', hquiet, hb'⟩ := hab
    obtain ⟨e₁, hmem, hends⟩ := (h a b' hb').forth l none hstep
    cases e₁ with
    | none => exact ⟨none, hquiet.runs (.leave hmem), trivial⟩
    | some b₁ => exact hends.elim

/-- Each run of the second program is one of the first. -/
theorem Match.runs_back (h : Match f g C) {a : S} {b : T} (hab : Follows g C a b) {ls : List L}
    {e' : Option T} (hrun : Runs g b ls e') : ∃ e, Runs f a ls e ∧ Ends (Follows g C) e e' := by
  induction hrun generalizing a with
  | refl b => exact ⟨some a, .refl a, hab⟩
  | @step b b₁ l ls e' hstep _ ih =>
    obtain ⟨b', hquiet, hb'⟩ := hab
    cases hquiet with
    | refl b =>
      obtain ⟨e₁, hmem, hends⟩ := (h a b hb').back l (some b₁) hstep
      cases e₁ with
      | none => exact hends.elim
      | some a₁ =>
        obtain ⟨e, hrest, hend⟩ := ih hends
        exact ⟨e, .step hmem hrest, hend⟩
    | @step _ c _ honly hquiet =>
      -- Only the quiet step can be taken.
      rw [honly, List.mem_singleton, Prod.mk.injEq, Option.some.injEq] at hstep
      obtain ⟨rfl, rfl⟩ := hstep
      exact ih ⟨b', hquiet, hb'⟩
  | @leave b l hstep =>
    obtain ⟨b', hquiet, hb'⟩ := hab
    cases hquiet with
    | refl b =>
      obtain ⟨e₁, hmem, hends⟩ := (h a b hb').back l none hstep
      cases e₁ with
      | none => exact ⟨none, .leave hmem, trivial⟩
      | some a₁ => exact hends.elim
    | @step _ c _ honly hquiet =>
      rw [honly, List.mem_singleton, Prod.mk.injEq] at hstep
      cases hstep.2

end

end Flow

end Interactive
