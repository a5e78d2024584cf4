import QueryFrame.Proofs.Macro.Parentheses

/-!
# Enclosures

The enclosure of a text that begins with a parenthesis is the shortest text at its start, not the
empty one, in which as many parentheses are closed as are opened: the opening parenthesis, the
enclosed text and the parenthesis behind it. If nothing is enclosed, no text at the start closes as
many parentheses as it opens.
-/

namespace QueryFrame.Arguments

/-- The shortest text at the start of another one that is not empty and closes as many parentheses
as it opens. -/
structure Encloses (enclosure cs : List Char) : Prop where
  start : enclosure <+: cs
  nonempty : enclosure ≠ []
  even : enclosure.count '(' = enclosure.count ')'
  shortest : ∀ p, p <+: cs → p ≠ [] → p.count '(' = p.count ')' → enclosure.length ≤ p.length

section

variable {depth : Nat} {tail inside after : List Char}

private theorem count_close_le {cs : List Char} (h : enclosed? depth cs = none) {p : List Char}
    (hp : p <+: cs) : p.count ')' ≤ depth + p.count '(' := by
  induction cs generalizing depth p with
  | nil => simp [List.prefix_nil.1 hp]
  | cons c rest ih =>
    rw [enclosed?_cons] at h
    have hc : ¬(c = ')' ∧ depth = 0) := by
      intro hclose
      simp [if_pos hclose] at h
    rw [if_neg hc, Option.map_eq_none_iff] at h
    rcases List.prefix_cons_iff.1 hp with hnil | hcons
    · simp [hnil]
    · obtain ⟨q, rfl, hq⟩ := hcons
      have hrest := ih h hq
      have hcount := deeper_add_count hc q
      omega

private theorem exists_prefix {p : List Char} (hp : p <+: '(' :: tail) (hne : p ≠ []) :
    ∃ q, p = '(' :: q ∧ q <+: tail := by
  rcases List.prefix_cons_iff.1 hp with hnil | hcons
  · exact absurd hnil hne
  · exact hcons

theorem count_ne_of_enclosed?_eq_none (h : enclosed? 0 tail = none) {p : List Char}
    (hp : p <+: '(' :: tail) (hne : p ≠ []) : p.count '(' ≠ p.count ')' := by
  obtain ⟨q, rfl, hq⟩ := exists_prefix hp hne
  have hle := count_close_le h hq
  simp
  omega

theorem encloses_of_enclosed? (h : enclosed? 0 tail = some (inside, after)) :
    Encloses ('(' :: (inside ++ [')'])) ('(' :: tail) := by
  obtain ⟨rfl, hclosed⟩ := enclosed?_eq_some_iff.1 h
  refine ⟨⟨after, by simp⟩, by simp, ?_, ?_⟩
  · have hall := hclosed.2
    simp
    omega
  · intro p hp hne hcount
    obtain ⟨q, rfl, hq⟩ := exists_prefix hp hne
    by_contra hlonger
    -- a shorter text ends inside, where the first parenthesis is still open
    have hlength : q.length ≤ inside.length := by
      simp at hlonger
      omega
    have hinside : q <+: inside :=
      List.prefix_of_prefix_length_le hq (List.prefix_append inside _) hlength
    have hle := hclosed.1 q hinside
    simp at hcount
    omega

end

end QueryFrame.Arguments
