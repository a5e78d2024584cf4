import Mathlib.Data.List.TakeWhile
import QueryFrame.Text.Blank

/-!
# Trimming

Trimming takes off exactly the blanks around a text: what remains begins and ends with no blank, and
is all of the text but blanks in front of it and behind it.
-/

namespace QueryFrame.Text

/-- The text begins and ends with no blank. -/
structure IsTrimmed (cs : List Char) : Prop where
  head : ∀ c ∈ cs.head?, ¬ isBlank c
  last : ∀ c ∈ cs.getLast?, ¬ isBlank c

/-- The second text is the first one with blanks around it. -/
def Pads (core cs : List Char) : Prop :=
  ∃ left right, (∀ c ∈ left, isBlank c) ∧ (∀ c ∈ right, isBlank c) ∧ cs = left ++ (core ++ right)

/-- The first text is what remains of the second one without the blanks at its ends. -/
structure IsTrimOf (core cs : List Char) : Prop where
  pads : Pads core cs
  trimmed : IsTrimmed core

private theorem dropWhile_blanks {left rest : List Char} (hleft : ∀ c ∈ left, isBlank c)
    (hrest : ∀ c ∈ rest.head?, ¬ isBlank c) : (left ++ rest).dropWhile isBlank = rest := by
  rw [List.dropWhile_append_of_pos hleft]
  cases rest with
  | nil => rfl
  | cons c rest => simp [hrest c rfl]

private theorem trimEnd_blanks {core right : List Char} (hcore : ∀ c ∈ core.getLast?, ¬ isBlank c)
    (hright : ∀ c ∈ right, isBlank c) : trimEnd (core ++ right) = core := by
  have hblank : ∀ c ∈ right.reverse, isBlank c := by simpa using hright
  have hhead : ∀ c ∈ core.reverse.head?, ¬ isBlank c := by simpa using hcore
  rw [trimEnd, List.reverse_append, dropWhile_blanks hblank hhead, List.reverse_reverse]

private theorem trim_blanks {cs : List Char} (h : ∀ c ∈ cs, isBlank c) : trim cs = [] := by
  have hnone : cs.dropWhile isBlank = [] := List.dropWhile_eq_nil_iff.2 h
  rw [trim, hnone]
  rfl

theorem trim_of_pads {core cs : List Char} (hcore : IsTrimmed core) (h : Pads core cs) :
    trim cs = core := by
  obtain ⟨left, right, hleft, hright, rfl⟩ := h
  cases core with
  | nil =>
    apply trim_blanks
    intro c hc
    rcases List.mem_append.1 hc with hc | hc
    · exact hleft c hc
    · exact hright c hc
  | cons d core =>
    have hhead : ∀ c ∈ (d :: core ++ right).head?, ¬ isBlank c := hcore.head
    rw [trim, dropWhile_blanks hleft hhead, trimEnd_blanks hcore.last hright]

private theorem trimEnd_append_blanks (cs : List Char) :
    ∃ right, (∀ c ∈ right, isBlank c) ∧ cs = trimEnd cs ++ right := by
  refine ⟨(cs.reverse.takeWhile isBlank).reverse, ?_, ?_⟩
  · intro c hc
    exact List.mem_takeWhile_imp (List.mem_reverse.1 hc)
  · rw [trimEnd, ← List.reverse_append, List.takeWhile_append_dropWhile, List.reverse_reverse]

theorem pads_trim (cs : List Char) : Pads (trim cs) cs := by
  obtain ⟨right, hright, hcs⟩ := trimEnd_append_blanks (cs.dropWhile isBlank)
  refine ⟨cs.takeWhile isBlank, right, fun c hc => List.mem_takeWhile_imp hc, hright, ?_⟩
  rw [trim, ← hcs, List.takeWhile_append_dropWhile]

private theorem not_blank_head_dropWhile (cs : List Char) :
    ∀ c ∈ (cs.dropWhile isBlank).head?, ¬ isBlank c := by
  intro c hc
  have hnot := List.head?_dropWhile_not isBlank cs
  rw [Option.mem_def.1 hc] at hnot
  simpa using hnot

theorem isTrimmed_trim (cs : List Char) : IsTrimmed (trim cs) := by
  constructor
  · intro c hc
    obtain ⟨right, -, hcs⟩ := trimEnd_append_blanks (cs.dropWhile isBlank)
    have hhead : (trimEnd (cs.dropWhile isBlank)).head? = some c := hc
    apply not_blank_head_dropWhile cs
    rw [hcs, List.head?_append, hhead]
    rfl
  · intro c hc
    rw [trim, trimEnd, List.getLast?_reverse] at hc
    exact not_blank_head_dropWhile _ c hc

/-- Trimming leaves the one core without blanks at its ends that the text pads. -/
theorem trim_eq_iff {cs core : List Char} : trim cs = core ↔ IsTrimOf core cs := by
  constructor
  · intro h
    rw [← h]
    exact ⟨pads_trim cs, isTrimmed_trim cs⟩
  · intro h
    exact trim_of_pads h.trimmed h.pads

theorem isTrimmed_of_forall {cs : List Char} (h : ∀ c ∈ cs, ¬ isBlank c) : IsTrimmed cs := by
  constructor
  · intro c hc
    exact h c (List.mem_of_mem_head? hc)
  · intro c hc
    exact h c (List.mem_of_mem_getLast? hc)

theorem isTrimmed_iff {cs : List Char} : IsTrimmed cs ↔ trim cs = cs := by
  constructor
  · intro h
    exact trim_of_pads h ⟨[], [], by simp, by simp, by simp⟩
  · intro h
    rw [← h]
    exact isTrimmed_trim cs

instance : DecidablePred IsTrimmed := fun _ => decidable_of_iff _ isTrimmed_iff.symm

end QueryFrame.Text
