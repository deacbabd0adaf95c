-- A server that handles each request in the thread of its client: what every
-- handler keeps to, whatever it is answered, holds in every interleaving of the
-- threads. A handler is a program over some of the operations of the server.
import RemotePrinter.Threads

namespace Interactive

/-! ## What a program ensures -/

section
variable {E E' : Type} {A : E → Type} {A' : E' → Type} {X X' α β : Type}

/-- Operations with `P` only, at any stage. -/
def Discipline.only (P : E → Prop) : Discipline E A Unit where
  allowed _ e := P e
  possible _ _ := True
  next _ _ _ := ()

/-- The program performs operations with `P` only, and its result has `Q`. -/
def Prog.Ensures (P : E → Prop) (Q : Except X α → Prop) (p : Prog E A X α) : Prop :=
  p.Follows (.only P) (fun _ r => Q r) ()

variable {P : E → Prop} {Q : Except X α → Prop}

@[simp] theorem Prog.ensures_done (a : α) :
    (done a : Prog E A X α).Ensures P Q ↔ Q (.ok a) := Iff.rfl

@[simp] theorem Prog.ensures_fail (x : X) :
    (fail x : Prog E A X α).Ensures P Q ↔ Q (.error x) := Iff.rfl

@[simp] theorem Prog.ensures_call (e : E) (k : A e → Prog E A X α) :
    (call e k).Ensures P Q ↔ P e ∧ ∀ a, (k a).Ensures P Q := by
  constructor
  · intro h
    exact ⟨h.1, fun a => h.2 a trivial⟩
  · intro h
    exact ⟨h.1, fun a _ => h.2 a⟩

theorem Prog.ensures_perform_bind {e : E} {f : A e → Prog E A X α} :
    (perform e >>= f).Ensures P Q ↔ P e ∧ ∀ a, (f a).Ensures P Q := ensures_call e f

theorem Prog.Ensures.bind {R : Except X β → Prop} {p : Prog E A X α} {f : α → Prog E A X β}
    (hp : p.Ensures P Q) (hok : ∀ a, Q (.ok a) → (f a).Ensures P R)
    (herror : ∀ x, Q (.error x) → R (.error x)) : (p >>= f).Ensures P R :=
  Prog.Follows.bind hp (fun _ a ha => hok a ha) fun _ x hx => herror x hx

theorem Prog.Ensures.mono {P' : E → Prop} {Q' : Except X α → Prop} {p : Prog E A X α}
    (h : p.Ensures P Q) (hP : ∀ e, P e → P' e) (hQ : ∀ r, Q r → Q' r) : p.Ensures P' Q' := by
  induction p with
  | done a => exact hQ _ h
  | fail x => exact hQ _ h
  | call e k ih =>
    obtain ⟨he, hk⟩ := (Prog.ensures_call e k).mp h
    exact (Prog.ensures_call e k).mpr ⟨hP e he, fun a => ih a (hk a)⟩

/-- What a program ensures holds of the result of each of its runs. -/
theorem Prog.Ensures.runsIn {ℓ σ : Type} {env : Env E A ℓ σ} {p : Prog E A X α}
    (h : p.Ensures P Q) {s s' : σ} {tr : List (Obs E A ℓ)} {r : Except X α}
    (hrun : p.RunsIn env s tr r s') : Q r := by
  induction p generalizing s tr with
  | done a =>
    obtain ⟨-, rfl, -⟩ := hrun
    exact h
  | fail x =>
    obtain ⟨-, rfl, -⟩ := hrun
    exact h
  | call e k ih =>
    obtain ⟨a, l, s₁, tr', -, -, hrest⟩ := hrun
    exact ih a (((Prog.ensures_call e k).mp h).2 a) hrest

/-- Each operation is one of a larger system, and each failure one of its failures. -/
def Prog.embed (f : E → E') (back : ∀ e, A' (f e) → A e) (g : X → X') :
    Prog E A X α → Prog E' A' X' α
  | done a => done a
  | fail x => fail (g x)
  | call e k => call (f e) fun a => (k (back e a)).embed f back g

theorem Prog.Ensures.embed {f : E → E'} {back : ∀ e, A' (f e) → A e} {g : X → X'}
    {P' : E' → Prop} {Q' : Except X' α → Prop} {p : Prog E A X α}
    (h : p.Ensures (fun e => P' (f e)) fun r => Q' (r.mapError g)) :
    (p.embed f back g).Ensures P' Q' := by
  induction p with
  | done a => exact h
  | fail x => exact h
  | call e k ih =>
    obtain ⟨he, hk⟩ := (Prog.ensures_call e k).mp h
    exact (Prog.ensures_call (f e) _).mpr ⟨he, fun a => ih _ (hk _)⟩

end

/-! ## Requests in threads -/

namespace Pool

section
variable {ι E : Type} {A : E → Type} {X C : Type} {R : C → Type} {σ ℓ τ : Type}

/-- The thread has started on the request and has not finished since. -/
def Serving (es : List (Event ι E A X C R ℓ τ)) (i : ι) (c : C) : Prop :=
  Since (· = .started i c) (fun e => ∀ c' r, e ≠ .finished i c' r) es

variable [DecidableEq ι] {env : Env E A ℓ σ} {tick : σ → τ → σ → Prop}
  {entry : (c : C) → Prog E A X (R c)} {P : (c : C) → E → Prop}
  {Q : (c : C) → Except X (R c) → Prop}

/-- What the handlers ensure, as a law about the events. -/
def Kept (P : (c : C) → E → Prop) (Q : (c : C) → Except X (R c) → Prop)
    (pre : List (Event ι E A X C R ℓ τ)) : Event ι E A X C R ℓ τ → Prop
  | .acted i o => ∀ c, Serving pre i c → P c o.op
  | .finished _ c r => Q c r
  | _ => True

/-- The threads are at the requests that they serve, with a rest that ensures what is left. -/
structure Serves (P : (c : C) → E → Prop) (Q : (c : C) → Except X (R c) → Prop)
    (pre : List (Event ι E A X C R ℓ τ)) (T : Pool ι E A X C R σ) : Prop where
  at_call : ∀ i c, Serving pre i c → ∃ p, T.threads i = some ⟨c, p⟩
  ensures : ∀ i t, T.threads i = some t → t.rest.Ensures (P t.call) (Q t.call)

omit [DecidableEq ι] in
/-- An event other than the start of a request leaves a thread at its request, or ends it. -/
theorem serving_of_snoc {es : List (Event ι E A X C R ℓ τ)} {e : Event ι E A X C R ℓ τ} {i : ι}
    {c : C} (h : Serving (es ++ [e]) i c) (he : e ≠ .started i c) :
    Serving es i c ∧ ∀ c' r, e ≠ .finished i c' r := (since_snoc.mp h).resolve_left he

omit [DecidableEq ι] in
/-- The shared state has no part in it. -/
theorem Serves.share {pre : List (Event ι E A X C R ℓ τ)} {T : Pool ι E A X C R σ}
    (h : Serves P Q pre T) (s : σ) : Serves P Q pre { T with shared := s } :=
  ⟨h.at_call, h.ensures⟩

/-- After an event one thread is elsewhere, and the others are where they were. -/
theorem Serves.set {pre : List (Event ι E A X C R ℓ τ)} {e : Event ι E A X C R ℓ τ}
    {T : Pool ι E A X C R σ} {i : ι} {t : Option (Thread E A X C R)} (h : Serves P Q pre T)
    (hi : ∀ c, Serving (pre ++ [e]) i c → ∃ p, t = some ⟨c, p⟩)
    (hne : ∀ j c, j ≠ i → Serving (pre ++ [e]) j c → Serving pre j c)
    (ht : ∀ t', t = some t' → t'.rest.Ensures (P t'.call) (Q t'.call)) :
    Serves P Q (pre ++ [e]) (T.set i t) := by
  constructor
  · intro j c hj
    by_cases hji : j = i
    · subst hji
      rw [set_threads_self]
      exact hi c hj
    · rw [set_threads_ne T t hji]
      exact h.at_call j c (hne j c hji hj)
  · intro j t' hj
    by_cases hji : j = i
    · subst hji
      rw [set_threads_self] at hj
      exact ht t' hj
    · rw [set_threads_ne T t hji] at hj
      exact h.ensures j t' hj

omit [DecidableEq ι] in
/-- The thread that takes a step serves the request that it is at. -/
theorem Serves.call_eq {pre : List (Event ι E A X C R ℓ τ)} {T : Pool ι E A X C R σ} {i : ι}
    {c c' : C} {p : Prog E A X (R c)} (h : Serves P Q pre T) (hi : T.threads i = some ⟨c, p⟩)
    (hs : Serving pre i c') : c' = c := by
  obtain ⟨p', hp'⟩ := h.at_call i c' hs
  rw [hi] at hp'
  cases hp'
  rfl

/-- A thread that finishes serves nothing after it. -/
theorem Serves.finish {pre : List (Event ι E A X C R ℓ τ)} {T : Pool ι E A X C R σ} {i : ι}
    {c : C} (h : Serves P Q pre T) (r : Except X (R c)) :
    Serves P Q (pre ++ [.finished i c r]) (T.set i none) := by
  refine h.set ?_ ?_ (by simp)
  · intro c' hc'
    exact absurd rfl ((serving_of_snoc hc' (by simp)).2 c r)
  · intro j c' hji hc'
    exact (serving_of_snoc hc' (by simp)).1

/-- A step keeps the threads at their requests, and its event is as the handlers ensure. -/
theorem Serves.step (hentry : ∀ c, (entry c).Ensures (P c) (Q c))
    {pre : List (Event ι E A X C R ℓ τ)} {T T' : Pool ι E A X C R σ}
    {e : Event ι E A X C R ℓ τ} (h : Serves P Q pre T) (hstep : Step env tick entry T e T') :
    Serves P Q (pre ++ [e]) T' ∧ Kept P Q pre e := by
  cases hstep with
  | @start i c hnone =>
    refine ⟨h.set ?_ ?_ ?_, trivial⟩
    · intro c' hc'
      rcases since_snoc.mp hc' with hstart | ⟨hold, -⟩
      · cases hstart
        exact ⟨_, rfl⟩
      · obtain ⟨p, hp⟩ := h.at_call i c' hold
        rw [hnone] at hp
        cases hp
    · intro j c' hji hc'
      have hstart : (Event.started i c : Event ι E A X C R ℓ τ) ≠ .started j c' := by
        rintro ⟨⟩
        exact hji rfl
      exact (serving_of_snoc hc' hstart).1
    · rintro t' ht'
      cases ht'
      exact hentry c
  | @act i c e k a l s hi henv =>
    obtain ⟨he, hk⟩ := (Prog.ensures_call e k).mp (h.ensures i _ hi)
    refine ⟨(h.share s).set ?_ ?_ ?_, ?_⟩
    · intro c' hc'
      obtain rfl := h.call_eq hi (serving_of_snoc hc' (by simp)).1
      exact ⟨_, rfl⟩
    · intro j c' hji hc'
      exact (serving_of_snoc hc' (by simp)).1
    · rintro t' ht'
      cases ht'
      exact hk a
    · intro c' hc'
      obtain rfl := h.call_eq hi hc'
      exact he
  | @done i c a hi => exact ⟨h.finish (.ok a), (Prog.ensures_done a).mp (h.ensures i _ hi)⟩
  | @fail i c x hi => exact ⟨h.finish (.error x), (Prog.ensures_fail x).mp (h.ensures i _ hi)⟩
  | @tick n s ht =>
    refine ⟨⟨?_, h.ensures⟩, trivial⟩
    intro j c' hc'
    exact h.at_call j c' (serving_of_snoc hc' (by simp)).1

/-- The rule: what every handler ensures holds of each event of a run. -/
theorem along_of_ensures (hentry : ∀ c, (entry c).Ensures (P c) (Q c)) {s : σ}
    {T : Pool ι E A X C R σ} {es : List (Event ι E A X C R ℓ τ)}
    (run : Run (Step env tick entry) (idle s) es T) : Along (Kept P Q) es := by
  refine Run.along (J := Serves P Q) (Q := fun _ _ => True) ⟨?_, ?_⟩ ?_ run
    (along_of_forall (P := fun _ => True) (by simp))
  · intro i c h
    exact absurd h (since_nil _ _)
  · intro i t h
    cases h
  · intro pre T e T' h _ hstep
    exact h.step hentry hstep

end

end Pool

end Interactive
