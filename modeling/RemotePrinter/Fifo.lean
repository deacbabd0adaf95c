-- Parties that share one line, first in first out: each sends a request and
-- later takes the reply at the head of the line. The replies come in the
-- order of the requests and carry no name, so who gets which reply depends
-- on who takes when.
import RemotePrinter.Runs
import Mathlib.Data.List.Infix

namespace Interactive

inductive Turn (ι : Type) where
  | send (i : ι)
  | take (i : ι)

variable {ι : Type}

def Turn.sender : Turn ι → Option ι
  | send i => some i
  | take _ => none

def Turn.taker : Turn ι → Option ι
  | send _ => none
  | take i => some i

/-- Who sent the requests, in order. -/
def senders (ts : List (Turn ι)) : List ι := ts.filterMap Turn.sender

/-- Who took the replies, in order. -/
def takers (ts : List (Turn ι)) : List ι := ts.filterMap Turn.taker

/-- The last `i` of the list is at position `n`. -/
def LastAt (l : List ι) (i : ι) (n : Nat) : Prop :=
  ∃ before after, l = before ++ i :: after ∧ before.length = n ∧ i ∉ after

/-- A take after `n` others gets the reply to request `n`. It is the party's own if request `n`
is the last that the party sent. -/
def TakesOwn (ts : List (Turn ι)) : Turn ι → Prop
  | .send _ => True
  | .take i => LastAt (senders ts) i (takers ts).length

/-- A reply can be taken only after the request. -/
def TakesAnswered (ts : List (Turn ι)) : Turn ι → Prop
  | .send _ => True
  | .take _ => (takers ts).length < (senders ts).length

/-- A party takes a reply when it has one to get. -/
def TakesDue [DecidableEq ι] (ts : List (Turn ι)) : Turn ι → Prop
  | .send _ => True
  | .take i => (senders ts).count i = (takers ts).count i + 1

/-- A party sends only when no reply is due. -/
def SendsAlone (ts : List (Turn ι)) : Turn ι → Prop
  | .send _ => (senders ts).length = (takers ts).length
  | .take _ => True

section
variable (ts : List (Turn ι)) (i : ι)

@[simp] theorem senders_send : senders (ts ++ [.send i]) = senders ts ++ [i] := by
  simp [senders, Turn.sender]

@[simp] theorem senders_take : senders (ts ++ [.take i]) = senders ts := by
  simp [senders, Turn.sender]

@[simp] theorem takers_send : takers (ts ++ [.send i]) = takers ts := by
  simp [takers, Turn.taker]

@[simp] theorem takers_take : takers (ts ++ [.take i]) = takers ts ++ [i] := by
  simp [takers, Turn.taker]

end

variable {ts : List (Turn ι)}

theorem takers_length_le (h : Along TakesAnswered ts) :
    (takers ts).length ≤ (senders ts).length := by
  induction ts using List.reverseRecOn with
  | nil => exact Nat.le_refl _
  | append_singleton ts t ih =>
    obtain ⟨hts, ht⟩ := along_snoc.mp h
    have hle := ih hts
    cases t with
    | send i =>
      rw [takers_send, senders_send, List.length_append]
      omega
    | take i =>
      have hlt : (takers ts).length < (senders ts).length := ht
      rw [takers_take, senders_take, List.length_append, List.length_singleton]
      omega

section
variable [DecidableEq ι]

/-- While the replies were taken in order, the next taker gets its own reply just if it is the
next in order. -/
theorem lastAt_iff_takers {i : ι} (hpre : takers ts <+: senders ts)
    (hdue : (senders ts).count i = (takers ts).count i + 1) :
    LastAt (senders ts) i (takers ts).length ↔ takers ts ++ [i] <+: senders ts := by
  constructor
  · rintro ⟨before, after, hsplit, hlen, -⟩
    have hbefore : before <+: senders ts := ⟨i :: after, hsplit.symm⟩
    have heq : takers ts = before := by
      refine List.IsPrefix.eq_of_length ?_ hlen.symm
      exact List.prefix_of_prefix_length_le hpre hbefore (Nat.le_of_eq hlen.symm)
    exact ⟨after, by rw [hsplit, heq]; simp⟩
  · rintro ⟨after, hafter⟩
    refine ⟨takers ts, after, by rw [← hafter]; simp, rfl, ?_⟩
    have hcount := hdue
    rw [← hafter] at hcount
    simp only [List.count_append, List.count_singleton_self] at hcount
    exact List.count_eq_zero.mp (by omega)

/-- Every party gets its own replies just if the replies are taken in the order of the requests. -/
theorem takesOwn_iff (hdue : Along TakesDue ts) (hans : Along TakesAnswered ts) :
    Along TakesOwn ts ↔ takers ts <+: senders ts := by
  induction ts using List.reverseRecOn with
  | nil => exact iff_of_true (along_nil _) (List.nil_prefix)
  | append_singleton ts t ih =>
    obtain ⟨hdue', hd⟩ := along_snoc.mp hdue
    obtain ⟨hans', ha⟩ := along_snoc.mp hans
    rw [along_snoc, ih hdue' hans']
    cases t with
    | send i =>
      rw [takers_send, senders_send]
      constructor
      · rintro ⟨hpre, -⟩
        exact hpre.trans (List.prefix_append _ _)
      · intro hpre
        refine ⟨?_, trivial⟩
        exact List.prefix_of_prefix_length_le hpre (List.prefix_append _ _)
          (takers_length_le hans')
    | take i =>
      rw [takers_take, senders_take]
      constructor
      · rintro ⟨hpre, hown⟩
        exact (lastAt_iff_takers hpre hd).mp hown
      · intro hpre
        have hpre' : takers ts <+: senders ts := (List.prefix_append _ _).trans hpre
        exact ⟨hpre', (lastAt_iff_takers hpre' hd).mpr hpre⟩

/-- Parties that do not overlap take the replies in order. -/
theorem prefix_of_sendsAlone (hdue : Along TakesDue ts) (hans : Along TakesAnswered ts)
    (halone : Along SendsAlone ts) :
    takers ts <+: senders ts ∧ (senders ts).length ≤ (takers ts).length + 1 := by
  induction ts using List.reverseRecOn with
  | nil => exact ⟨List.nil_prefix, Nat.zero_le _⟩
  | append_singleton ts t ih =>
    obtain ⟨hdue, hd⟩ := along_snoc.mp hdue
    obtain ⟨hans, ha⟩ := along_snoc.mp hans
    obtain ⟨halone, hl⟩ := along_snoc.mp halone
    obtain ⟨hpre, hlen⟩ := ih hdue hans halone
    cases t with
    | send i =>
      have heq : (senders ts).length = (takers ts).length := hl
      rw [takers_send, senders_send]
      refine ⟨hpre.trans (List.prefix_append _ _), ?_⟩
      rw [List.length_append, List.length_singleton]
      omega
    | take i =>
      have hlt : (takers ts).length < (senders ts).length := ha
      have hcount : (senders ts).count i = (takers ts).count i + 1 := hd
      obtain ⟨rest, hrest⟩ := hpre
      have hone : rest.length = 1 := by
        rw [← hrest, List.length_append] at hlt hlen
        omega
      obtain ⟨j, rfl⟩ := List.length_eq_one_iff.mp hone
      have hij : i = j := by
        rw [← hrest, List.count_append] at hcount
        have hmem : 0 < [j].count i := by omega
        simpa using List.count_pos_iff.mp hmem
      subst hij
      rw [takers_take, senders_take, hrest]
      refine ⟨List.prefix_refl _, ?_⟩
      omega

end

end Interactive
