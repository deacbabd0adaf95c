-- What a reading has to do with the list it reads. More items behind a list
-- change nothing once a reading has come to its end, and a list that is cut
-- anywhere inside what a program takes is too short for it. A program decodes
-- a list if it takes just this list, whatever comes behind. Read again and
-- again, it takes from a cut list just what is there as a whole.
import RemotePrinter.Streams

namespace Interactive

/-- The same end, with more items behind the rest. -/
def Reading.behind {B X α : Type} (t : List B) : Reading B X α → Reading B X α
  | done a rest => .done a (rest ++ t)
  | failed x rest => .failed x (rest ++ t)
  | short => .short

namespace Prog

section
variable {B X α β : Type}

/-! ## Longer lists -/

/-- A reading that has come to an end ends so on a longer list too. -/
theorem reads_append {p : Reader B X α} {s : List B} (h : p.reads s ≠ .short) (t : List B) :
    p.reads (s ++ t) = (p.reads s).behind t := by
  induction p generalizing s with
  | done a => rfl
  | fail x => rfl
  | call n k ih =>
    rw [reads_call] at h ⊢
    rw [reads_call]
    by_cases hn : n ≤ s.length
    · have hn' : n ≤ (s ++ t).length := by
        rw [List.length_append]
        omega
      rw [if_pos hn] at h ⊢
      rw [if_pos hn', List.take_append_of_le_length hn, List.drop_append_of_le_length hn]
      exact ih _ h
    · rw [if_neg hn] at h
      exact absurd rfl h

theorem reads_append_done {p : Reader B X α} {s rest : List B} {a : α}
    (h : p.reads s = .done a rest) (t : List B) : p.reads (s ++ t) = .done a (rest ++ t) := by
  have hnot : p.reads s ≠ .short := by
    rw [h]
    simp
  rw [reads_append hnot, h]
  rfl

theorem reads_append_failed {p : Reader B X α} {s rest : List B} {x : X}
    (h : p.reads s = .failed x rest) (t : List B) : p.reads (s ++ t) = .failed x (rest ++ t) := by
  have hnot : p.reads s ≠ .short := by
    rw [h]
    simp
  rw [reads_append hnot, h]
  rfl

/-! ## Decoding -/

/-- The program takes the items `b` and no more, and its value is `a`. -/
def Decodes (p : Reader B X α) (b : List B) (a : α) : Prop :=
  ∀ rest, p.reads (b ++ rest) = .done a rest

theorem Decodes.done (a : α) : (done a : Reader B X α).Decodes [] a := fun _ => rfl

theorem Decodes.perform (b : List B) : (perform b.length : Reader B X (List B)).Decodes b b := by
  intro rest
  unfold Prog.perform
  rw [reads_call, List.take_left, List.drop_left, if_pos (by simp)]
  rfl

theorem Decodes.bind {p : Reader B X α} {f : α → Reader B X β} {b b' : List B} {a : α} {a' : β}
    (hp : p.Decodes b a) (hf : (f a).Decodes b' a') : (p >>= f).Decodes (b ++ b') a' := by
  intro rest
  rw [reads_bind, List.append_assoc, hp]
  exact hf rest

/-- Nothing is read for the value that is returned. -/
theorem Decodes.map {p : Reader B X α} {g : α → β} {b : List B} {a : α} (hp : p.Decodes b a) :
    (p >>= fun a => Prog.done (g a)).Decodes b (g a) := by
  intro rest
  rw [reads_bind, hp]
  rfl

/-- A list that ends before its items are complete is too short. -/
theorem Decodes.short {p : Reader B X α} {b s t : List B} {a : α} (h : p.Decodes b a)
    (hb : s ++ t = b) (ht : t ≠ []) : p.reads s = .short := by
  have hall := h []
  rw [List.append_nil, ← hb] at hall
  cases hs : p.reads s with
  | done a' rest =>
    rw [reads_append_done hs, Reading.done.injEq] at hall
    exact absurd (List.append_eq_nil_iff.mp hall.2).2 ht
  | failed x rest =>
    rw [reads_append_failed hs] at hall
    cases hall
  | short => rfl

/-- The value of a program that takes just this list. -/
def takes (p : Reader B X α) (b : List B) : Option α :=
  match p.reads b with
  | .done a [] => some a
  | _ => none

theorem Decodes.of_takes {p : Reader B X α} {b : List B} {a : α} (h : p.takes b = some a) :
    p.Decodes b a := by
  intro rest
  unfold takes at h
  split at h
  · rename_i a' hread
    cases h
    exact reads_append_done hread rest
  · cases h

/-! ## Programs that go on -/

/-- The second program does what the first one does, and goes on where that fails with `x`. -/
def Extends (x : X) (p p' : Reader B X α) : Prop :=
  ∀ s, (∀ rest, p.reads s ≠ .failed x rest) → p'.reads s = p.reads s

theorem Extends.refl (x : X) (p : Reader B X α) : Extends x p p := fun _ _ => rfl

theorem extends_fail (x : X) (p : Reader B X α) : Extends x (fail x) p :=
  fun s h => absurd rfl (h s)

theorem Extends.bind {x : X} {p p' : Reader B X α} {f f' : α → Reader B X β}
    (hp : Extends x p p') (hf : ∀ a, Extends x (f a) (f' a)) :
    Extends x (p >>= f) (p' >>= f') := by
  intro s h
  rw [reads_bind, reads_bind]
  have hfirst : ∀ rest, p.reads s ≠ .failed x rest := by
    intro rest hread
    refine h rest ?_
    rw [reads_bind, hread]
  rw [hp s hfirst]
  cases hread : p.reads s with
  | done a rest =>
    refine hf a rest fun rest' hfail => h rest' ?_
    rw [reads_bind, hread]
    exact hfail
  | failed y rest => rfl
  | short => rfl

/-! ## One value after the other -/

/-- The values that the program reads one after the other, in `rounds` rounds at most, up to one
that ends it. -/
def readsWhile (p : Reader B X α) (go : α → Bool) : Nat → List B → List α
  | 0, _ => []
  | rounds + 1, s =>
    match p.reads s with
    | .done a rest => if go a then a :: readsWhile p go rounds rest else []
    | _ => []

theorem readsWhile_done {p : Reader B X α} {go : α → Bool} {s rest : List B} {a : α}
    (h : p.reads s = .done a rest) (hgo : go a = true) (rounds : Nat) :
    p.readsWhile go (rounds + 1) s = a :: p.readsWhile go rounds rest := by
  rw [readsWhile, h]
  simp only [hgo, if_true]

theorem readsWhile_ended {p : Reader B X α} {go : α → Bool} {s : List B}
    (h : ∀ a rest, p.reads s = .done a rest → go a = false) (rounds : Nat) :
    p.readsWhile go rounds s = [] := by
  cases rounds with
  | zero => rfl
  | succ rounds =>
    rw [readsWhile]
    cases hread : p.reads s with
    | done a rest => simp [h a rest hread]
    | failed x rest => rfl
    | short => rfl

/-- Programs that read the same from short lists read the same values from one. -/
theorem readsWhile_congr {p p' : Reader B X α} {go : α → Bool} {n : Nat}
    (hsame : ∀ s, s.length < n → p'.reads s = p.reads s)
    (hless : ∀ s a rest, p.reads s = .done a rest → rest.length < s.length)
    {rounds rounds' : Nat} {s : List B} (hn : s.length < n) (hrounds : s.length < rounds)
    (hrounds' : s.length < rounds') :
    p'.readsWhile go rounds' s = p.readsWhile go rounds s := by
  induction rounds generalizing rounds' s with
  | zero => omega
  | succ rounds ih =>
    obtain ⟨rounds', rfl⟩ : ∃ k, rounds' = k + 1 := ⟨rounds' - 1, by omega⟩
    rw [readsWhile, readsWhile, hsame s hn]
    cases hread : p.reads s with
    | done a rest =>
      have hlt := hless s a rest hread
      simp only
      rw [ih (by omega) (by omega) (by omega)]
    | failed x rest => rfl
    | short => rfl

/-- A list that is cut anywhere has the values of the parts that it has as a whole. What is left
is less than the next part. -/
theorem readsWhile_prefix {p : Reader B X α} {go : α → Bool} (hnil : p.reads [] = .short)
    {parts : List (List B × α)} (hparts : ∀ i ∈ parts, p.Decodes i.1 i.2 ∧ go i.2 = true)
    {s : List B} (hs : s <+: parts.flatMap Prod.fst) {rounds : Nat} (hrounds : s.length < rounds) :
    ∃ whole more tail, parts = whole ++ more ∧ s = whole.flatMap Prod.fst ++ tail ∧
      (∀ i ∈ more.head?, tail.length < i.1.length) ∧
      p.readsWhile go rounds s = whole.map Prod.snd := by
  induction parts generalizing s rounds with
  | nil =>
    obtain rfl : s = [] := List.prefix_nil.mp hs
    refine ⟨[], [], [], rfl, rfl, by simp, readsWhile_ended (fun a rest h => ?_) rounds⟩
    rw [hnil] at h
    cases h
  | cons i parts ih =>
    obtain ⟨b, a⟩ := i
    obtain ⟨hdec, hgo⟩ := hparts (b, a) List.mem_cons_self
    by_cases hshort : s.length < b.length
    · -- The first part is cut.
      obtain ⟨t, ht⟩ := hs
      have hb : b = s ++ t.take (b.length - s.length) := by
        have htake := congrArg (List.take b.length) ht
        rw [List.take_append, List.flatMap_cons, List.take_left,
          List.take_of_length_le (Nat.le_of_lt hshort)] at htake
        exact htake.symm
      have hne : t.take (b.length - s.length) ≠ [] := by
        intro hnone
        rw [hnone, List.append_nil] at hb
        rw [hb] at hshort
        omega
      have hread := hdec.short hb.symm hne
      refine ⟨[], (b, a) :: parts, s, rfl, rfl, ?_, readsWhile_ended (fun a rest h => ?_) rounds⟩
      · simpa using hshort
      · rw [hread] at h
        cases h
    · obtain ⟨s', rfl⟩ : b <+: s := by
        refine List.prefix_of_prefix_length_le ?_ hs (by omega)
        rw [List.flatMap_cons]
        exact List.prefix_append _ _
      rw [List.flatMap_cons, List.prefix_append_right_inj] at hs
      have hpos : b ≠ [] := by
        rintro rfl
        have hread := hdec []
        rw [List.nil_append, hnil] at hread
        cases hread
      have hlen : 0 < b.length := List.length_pos_iff.mpr hpos
      rw [List.length_append] at hrounds
      obtain ⟨rounds, rfl⟩ : ∃ k, rounds = k + 1 := ⟨rounds - 1, by omega⟩
      obtain ⟨whole, more, tail, hsplit, htail, hcut, hvalues⟩ :=
        ih (fun i hi => hparts i (List.mem_cons_of_mem _ hi)) hs (by omega : s'.length < rounds)
      refine ⟨(b, a) :: whole, more, tail, by rw [hsplit, List.cons_append], ?_, hcut, ?_⟩
      · rw [List.flatMap_cons, htail, List.append_assoc]
      · rw [readsWhile_done (hdec s') hgo, hvalues, List.map_cons]

end

/-! ## The rest of a source -/

section
variable {B X E σ α : Type} {get : Nat → σ → Except E (List B) × σ} {view : σ → List B}
  {I : σ → Prop} {fault : X → E}

/-- A program that gets its value from a source leaves there what it leaves of the list. -/
theorem readFrom_rest (h : Source get view I) {p : Reader B X α} {s s' : σ} (hs : I s) {a : α}
    (hrun : p.readFrom get fault s = (.ok a, s')) : p.reads (view s) = .done a (view s') := by
  induction p generalizing s with
  | done b =>
    cases hrun
    rfl
  | fail x => cases hrun
  | call n k ih =>
    unfold readFrom at hrun
    rw [reads_call]
    by_cases hn : n ≤ (view s).length
    · obtain ⟨s₁, hget, hview, hs₁⟩ := h.enough s n hs hn
      rw [hget] at hrun
      rw [if_pos hn, ← hview]
      exact ih _ hs₁ hrun
    · obtain ⟨e, s₁, hget⟩ := h.short s n hs (Nat.lt_of_not_le hn)
      rw [hget] at hrun
      cases hrun

end

end Prog

end Interactive
