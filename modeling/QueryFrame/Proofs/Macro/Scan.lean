import Mathlib.Data.List.TakeWhile
import QueryFrame.Macro.Interpolation
import QueryFrame.Proofs.Macro.Parentheses

/-!
# The scan of raw SQL

A text without a mark is scanned character by character. A mark is taken together with the longest
run of name characters behind it, and what becomes of the run depends on whether a macro has that
name and on the character that follows.
-/

namespace QueryFrame

namespace Macro

def names : List String := all.map name

theorem ofName?_name (m : Macro) : ofName? m.name = some m := by
  cases m <;> decide

theorem ofName?_eq_none_iff {name : String} : ofName? name = none ↔ name ∉ names := by
  rw [ofName?, List.find?_eq_none, names, List.mem_map]
  simp

theorem mem_names_iff {name : String} : name ∈ names ↔ ∃ m : Macro, m.name = name := by
  constructor
  · intro h
    obtain ⟨m, -, hm⟩ := List.mem_map.1 h
    exact ⟨m, hm⟩
  · intro h
    obtain ⟨m, rfl⟩ := h
    cases m <;> decide

theorem exists_macro {name : List Char} (known : String.ofList name ∈ names) :
    ∃ m : Macro, m.name.toList = name := by
  obtain ⟨m, hm⟩ := mem_names_iff.1 known
  exact ⟨m, by rw [hm, String.toList_ofList]⟩

theorem expandNamed_name (m : Macro) (range : TimeRange) (arguments : List String) :
    expandNamed m.name range arguments = m.expansion range arguments := by
  rw [expandNamed, ofName?_name]

theorem mark_prefix_iff {cs : List Char} :
    mark <+: cs ↔ ∃ rest, cs = '$' :: '_' :: '_' :: rest := by
  constructor
  · intro h
    obtain ⟨rest, rfl⟩ := h
    exact ⟨rest, rfl⟩
  · intro h
    obtain ⟨rest, rfl⟩ := h
    exact ⟨rest, rfl⟩

/-- A mark cannot begin inside of another one. -/
theorem not_mark_prefix_append {c : Char} {gap : List Char} (h : ¬ mark <:+: c :: gap)
    (rest : List Char) : ¬ mark <+: c :: (gap ++ (mark ++ rest)) := by
  intro hpre
  obtain ⟨tail, htail⟩ := mark_prefix_iff.1 hpre
  rcases gap with _ | ⟨a, _ | ⟨b, gap⟩⟩
  · simp [mark] at htail
  · simp [mark] at htail
  · simp only [List.cons_append, List.cons.injEq] at htail
    obtain ⟨rfl, rfl, rfl, -⟩ := htail
    exact h (List.IsPrefix.isInfix ⟨gap, rfl⟩)

theorem unmarked_tail {c : Char} {gap : List Char} (h : ¬ mark <:+: c :: gap) :
    ¬ mark <:+: gap := by
  intro hgap
  exact h (hgap.trans (List.suffix_cons c gap).isInfix)

/-- The longest run of name characters at the start of a text, and what follows it. -/
structure IsRun (name after : List Char) : Prop where
  chars : ∀ c ∈ name, isNameChar c
  longest : ∀ c ∈ after.head?, ¬ isNameChar c

theorem isRun_takeWhile (cs : List Char) :
    IsRun (cs.takeWhile isNameChar) (cs.dropWhile isNameChar) := by
  constructor
  · intro c hc
    exact List.mem_takeWhile_imp hc
  · intro c hc
    have := List.head?_dropWhile_not isNameChar cs
    rw [Option.mem_def.1 hc] at this
    simpa using this

theorem isRun_name_paren {name : List Char} (h : ∀ c ∈ name, isNameChar c) (tail : List Char) :
    IsRun name ('(' :: tail) := by
  refine ⟨h, ?_⟩
  intro c hc
  obtain rfl := Option.some.inj hc
  decide

namespace IsRun

variable {name after : List Char}

theorem takeWhile_eq (h : IsRun name after) : (name ++ after).takeWhile isNameChar = name := by
  rw [List.takeWhile_append_of_pos h.chars]
  cases after with
  | nil => simp
  | cons c after => simp [h.longest c rfl]

private theorem dropWhile_eq (h : IsRun name after) :
    (name ++ after).dropWhile isNameChar = after := by
  rw [List.dropWhile_append_of_pos h.chars]
  cases after with
  | nil => rfl
  | cons c after => simp [h.longest c rfl]

end IsRun

end Macro

namespace Token

open Macro

variable {name after : List Char}

theorem marked_word (run : IsRun name after) (unknown : String.ofList name ∉ names) :
    marked (name ++ after) = (.word name, after) := by
  rw [marked, run.takeWhile_eq, run.dropWhile_eq, ofName?_eq_none_iff.2 unknown]

section

variable {m : Macro}

theorem marked_bare (run : IsRun m.name.toList after) (bare : after.head? ≠ some '(') :
    marked (m.name.toList ++ after) = (.call m none, after) := by
  rw [marked, run.takeWhile_eq, run.dropWhile_eq, String.ofList_toList, ofName?_name]
  cases after with
  | nil => rfl
  | cons c after =>
    have : c ≠ '(' := by simpa using bare
    simp [this]

theorem name_chars (m : Macro) : ∀ c ∈ m.name.toList, isNameChar c := by
  have hall : m.name.toList.all isNameChar = true := by
    cases m <;> decide
  exact List.all_eq_true.1 hall

theorem marked_paren (m : Macro) (tail : List Char) :
    marked (m.name.toList ++ '(' :: tail) =
      match Arguments.enclosed? 0 tail with
      | some (inside, beyond) => (.call m (some inside), beyond)
      | none => (.unclosed m tail, []) := by
  have run := isRun_name_paren (name_chars m) tail
  rw [marked, run.takeWhile_eq, run.dropWhile_eq, String.ofList_toList, ofName?_name]
  rfl

end

/-- What a text behind a mark begins with: the token, and the text after it. -/
inductive MarkedAs : List Char → Token → List Char → Prop
  | word {name after : List Char} (run : IsRun name after) (unknown : String.ofList name ∉ names) :
      MarkedAs (name ++ after) (.word name) after
  | bare {m : Macro} {after : List Char} (run : IsRun m.name.toList after)
      (noParenthesis : after.head? ≠ some '(') :
      MarkedAs (m.name.toList ++ after) (.call m none) after
  | call (m : Macro) {inside : List Char} (balanced : Arguments.Balanced inside)
      (after : List Char) :
      MarkedAs (m.name.toList ++ '(' :: (inside ++ ')' :: after)) (.call m (some inside)) after
  | unclosed (m : Macro) {tail : List Char}
      (unmatched : ∀ inside after, tail = inside ++ ')' :: after → ¬ Arguments.Balanced inside) :
      MarkedAs (m.name.toList ++ '(' :: tail) (.unclosed m tail) []

theorem MarkedAs.marked_eq {cs rest : List Char} {t : Token} (h : MarkedAs cs t rest) :
    marked cs = (t, rest) := by
  cases h with
  | word run unknown => exact marked_word run unknown
  | bare run noParenthesis => exact marked_bare run noParenthesis
  | call m balanced after =>
    rw [marked_paren, Arguments.enclosed?_eq_some_iff.2 ⟨rfl, balanced⟩]
  | unclosed m unmatched =>
    rw [marked_paren, Arguments.enclosed?_eq_none_iff.2 unmatched]

theorem markedAs_marked (cs : List Char) : MarkedAs cs (marked cs).1 (marked cs).2 := by
  have run := isRun_takeWhile cs
  have whole := List.takeWhile_append_dropWhile (p := isNameChar) (l := cs)
  generalize cs.takeWhile isNameChar = name at run whole
  generalize cs.dropWhile isNameChar = after at run whole
  subst whole
  by_cases known : String.ofList name ∈ names
  · obtain ⟨m, rfl⟩ := exists_macro known
    by_cases paren : after.head? = some '('
    · obtain ⟨tail, rfl⟩ := List.head?_eq_some_iff.1 paren
      rw [marked_paren]
      cases henclosed : Arguments.enclosed? 0 tail with
      | none => exact .unclosed m (Arguments.enclosed?_eq_none_iff.1 henclosed)
      | some found =>
        obtain ⟨rfl, balanced⟩ := Arguments.enclosed?_eq_some_iff.1 henclosed
        exact .call m balanced found.2
    · rw [marked_bare run paren]
      exact .bare run paren
  · rw [marked_word run known]
    exact .word run known

theorem first?_mark (cs : List Char) : first? (mark ++ cs) = some (marked cs) := rfl

theorem first?_char {c : Char} {rest : List Char} (h : ¬ mark <+: c :: rest) :
    first? (c :: rest) = some (.char c, rest) := by
  rw [first?.eq_def]
  split
  · next heq => simp at heq
  · next tail heq => exact absurd (mark_prefix_iff.2 ⟨tail, heq⟩) h
  · next heq =>
    obtain ⟨rfl, rfl⟩ := List.cons.inj heq
    rfl

theorem marked_or_char_of_first? {cs rest : List Char} {t : Token}
    (h : first? cs = some (t, rest)) :
    (∃ tail, cs = mark ++ tail ∧ MarkedAs tail t rest) ∨
      ∃ c, t = .char c ∧ cs = c :: rest ∧ ¬ mark <+: c :: rest := by
  by_cases hmark : mark <+: cs
  · obtain ⟨tail, rfl⟩ := hmark
    rw [first?_mark, Option.some.injEq] at h
    have hmarked := markedAs_marked tail
    rw [h] at hmarked
    exact .inl ⟨tail, rfl, hmarked⟩
  · cases cs with
    | nil => simp [first?] at h
    | cons c cs =>
      rw [first?_char hmark] at h
      obtain ⟨rfl, rfl⟩ := Prod.mk.inj (Option.some.inj h)
      exact .inr ⟨c, rfl, rfl, hmark⟩

theorem scan_of_first? {cs rest : List Char} {t : Token} (h : first? cs = some (t, rest)) :
    scan cs = t :: scan rest := by
  rw [scan]
  split
  · next hnone => simp [hnone] at h
  · next t' rest' hsome =>
    rw [hsome] at h
    obtain ⟨rfl, rfl⟩ := Prod.mk.inj (Option.some.inj h)
    rfl

theorem scan_nil : scan [] = [] := by
  rw [scan]
  rfl

theorem scan_mark (cs : List Char) : scan (mark ++ cs) = (marked cs).1 :: scan (marked cs).2 :=
  scan_of_first? (first?_mark cs)

private theorem scan_char {c : Char} {rest : List Char} (h : ¬ mark <+: c :: rest) :
    scan (c :: rest) = .char c :: scan rest :=
  scan_of_first? (first?_char h)

theorem scan_gap {gap : List Char} (h : ¬ mark <:+: gap) (cs : List Char) :
    scan (gap ++ (mark ++ cs)) = gap.map .char ++ scan (mark ++ cs) := by
  induction gap with
  | nil => rfl
  | cons c gap ih =>
    rw [List.cons_append, scan_char (not_mark_prefix_append h cs), ih (unmarked_tail h)]
    rfl

theorem scan_unmarked {gap : List Char} (h : ¬ mark <:+: gap) : scan gap = gap.map .char := by
  induction gap with
  | nil => exact scan_nil
  | cons c gap ih =>
    have hc : ¬ mark <+: c :: gap := fun hpre => h hpre.isInfix
    rw [scan_char hc, ih (unmarked_tail h)]
    rfl

end Token

end QueryFrame
