import Mathlib.Data.List.Basic
import QueryFrame.Macro.Arguments

/-!
# Matching parentheses

A text closes as many parentheses as were open before it if it closes none that is not open and
leaves none open. The text enclosed by a parenthesis is the text that closes what it opens, up to
the first parenthesis that closes nothing in it.
-/

namespace QueryFrame.Arguments

/-- Closes `depth` parentheses that are open before the text, and all that the text opens. -/
def Closes (depth : Nat) (cs : List Char) : Prop :=
  (∀ p, p <+: cs → p.count ')' ≤ depth + p.count '(') ∧ cs.count ')' = depth + cs.count '('

/-- The parentheses of a text match one another. -/
def Balanced (cs : List Char) : Prop := Closes 0 cs

/-- The number of open parentheses after a character. -/
def deeper (depth : Nat) (c : Char) : Nat :=
  if c = '(' then depth + 1 else if c = ')' then depth - 1 else depth

theorem enclosed?_cons (depth : Nat) (c : Char) (rest : List Char) :
    enclosed? depth (c :: rest) =
      if c = ')' ∧ depth = 0 then some ([], rest)
      else (enclosed? (deeper depth c) rest).map fun (inside, after) => (c :: inside, after) :=
  rfl

theorem closes_nil {depth : Nat} : Closes depth [] ↔ depth = 0 := by
  simp [Closes, eq_comm]

theorem deeper_add_count {depth : Nat} {c : Char} (h : ¬(c = ')' ∧ depth = 0)) (p : List Char) :
    deeper depth c + p.count '(' + (c :: p).count ')' =
      depth + (c :: p).count '(' + p.count ')' := by
  rw [List.count_cons, List.count_cons, deeper]
  by_cases ho : c = '('
  · subst ho
    simp
    omega
  · by_cases hc : c = ')'
    · subst hc
      have : depth ≠ 0 := by simpa using h
      simp
      omega
    · simp [ho, hc]

theorem closes_cons {depth : Nat} {c : Char} {cs : List Char} :
    Closes depth (c :: cs) ↔ ¬(c = ')' ∧ depth = 0) ∧ Closes (deeper depth c) cs := by
  constructor
  · intro h
    have hc : ¬(c = ')' ∧ depth = 0) := by
      intro hclose
      have hone := h.1 [c] (by simp)
      rw [hclose.1, hclose.2] at hone
      simp at hone
    have hcount := deeper_add_count hc
    refine ⟨hc, ?_, ?_⟩
    · intro p hp
      have hcp := h.1 (c :: p) (by simpa using hp)
      have := hcount p
      omega
    · have hall := h.2
      have := hcount cs
      omega
  · intro h
    obtain ⟨hc, hprefix, hall⟩ := h
    have hcount := deeper_add_count hc
    constructor
    · intro p hp
      cases p with
      | nil => simp
      | cons d p =>
        obtain ⟨rfl, hrest⟩ := List.cons_prefix_cons.1 hp
        have := hprefix p hrest
        have := hcount p
        omega
    · have := hcount cs
      omega

/-- The parenthesis that ends a text is the first one that closes nothing in it. -/
theorem enclosed?_eq_some_iff {depth : Nat} {cs inside after : List Char} :
    enclosed? depth cs = some (inside, after) ↔
      cs = inside ++ ')' :: after ∧ Closes depth inside := by
  induction cs generalizing depth inside with
  | nil => simp [enclosed?]
  | cons c rest ih =>
    rw [enclosed?_cons]
    by_cases hc : c = ')' ∧ depth = 0
    · rw [if_pos hc]
      obtain ⟨rfl, rfl⟩ := hc
      cases inside with
      | nil => simp [closes_nil]
      | cons d inside =>
        constructor
        · simp
        · intro h
          have hd : ')' = d := (List.cons.inj h.1).1
          have hopen := (closes_cons.1 h.2).1
          exact absurd ⟨hd.symm, rfl⟩ hopen
    · rw [if_neg hc, Option.map_eq_some_iff]
      cases inside with
      | nil =>
        constructor
        · simp
        · intro h
          have hclose : c = ')' := (List.cons.inj h.1).1
          exact absurd ⟨hclose, closes_nil.1 h.2⟩ hc
      | cons d inside =>
        constructor
        · intro h
          obtain ⟨⟨inside', after'⟩, hrest, heq⟩ := h
          simp only [Prod.mk.injEq, List.cons.injEq] at heq
          obtain ⟨⟨rfl, rfl⟩, rfl⟩ := heq
          obtain ⟨rfl, hclosed⟩ := ih.1 hrest
          exact ⟨rfl, closes_cons.2 ⟨hc, hclosed⟩⟩
        · intro h
          obtain ⟨rfl, hrest⟩ := List.cons.inj h.1
          have hclosed := (closes_cons.1 h.2).2
          exact ⟨(inside, after), ih.2 ⟨hrest, hclosed⟩, rfl⟩

theorem enclosed?_eq_none_iff {depth : Nat} {cs : List Char} :
    enclosed? depth cs = none ↔
      ∀ inside after, cs = inside ++ ')' :: after → ¬ Closes depth inside := by
  rw [Option.eq_none_iff_forall_ne_some]
  constructor
  · intro h inside after hcs hclosed
    exact h _ (enclosed?_eq_some_iff.2 ⟨hcs, hclosed⟩)
  · intro h found hsome
    obtain ⟨inside, after⟩ := found
    obtain ⟨hcs, hclosed⟩ := enclosed?_eq_some_iff.1 hsome
    exact h inside after hcs hclosed

end QueryFrame.Arguments
