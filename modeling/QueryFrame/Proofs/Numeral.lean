import Mathlib.Data.List.TakeWhile
import QueryFrame.Numeral

/-!
# What numerals denote

A numeral is read to the number that its digits denote if that is within the limit. Any other text
is refused: for its size if the digits at its front pass the limit already, and for a character that
does not belong in it otherwise.
-/

namespace QueryFrame.Numeral

def shift (value : Nat) (c : Char) : Nat := 10 * value + (c.toNat - '0'.toNat)

/-- The text is digits, with a plus sign in front or without, and the digits stand for the
number. -/
def Denotes (cs : List Char) (n : Nat) : Prop :=
  ∃ digits, (cs = digits ∨ cs = '+' :: digits) ∧ digits ≠ [] ∧ (∀ c ∈ digits, c.isDigit) ∧
    digits.foldl shift 0 = n

/-- A text without the plus sign that may stand in front of it. -/
def unsigned : List Char → List Char
  | '+' :: cs => cs
  | cs => cs

/-- The number that the digits at the front of a text make of the digits before them. They end where
the first character is that is no digit. -/
def leading (value : Nat) (cs : List Char) : Nat := (cs.takeWhile Char.isDigit).foldl shift value

/-- What keeps a text from being a numeral of at most the limit. A number that is too large is so
whatever stands behind its digits. -/
inductive Refused (limit : Nat) (cs : List Char) : Defect → Prop
  | empty (nothing : cs = []) : Refused limit cs .empty
  | tooLarge (large : limit < leading 0 (unsigned cs)) : Refused limit cs .tooLarge
  | invalidDigit (nonempty : cs ≠ []) (small : leading 0 (unsigned cs) ≤ limit)
    (malformed : ∀ n, ¬ Denotes cs n) : Refused limit cs .invalidDigit

section

variable {limit value n : Nat} {cs : List Char} {defect : Defect}

private theorem le_foldl_shift (value : Nat) (cs : List Char) : value ≤ cs.foldl shift value := by
  induction cs generalizing value with
  | nil => exact Nat.le_refl value
  | cons c cs ih =>
    have := ih (shift value c)
    rw [List.foldl_cons]
    simp only [shift] at this ⊢
    omega

private theorem leading_cons (value : Nat) (c : Char) (cs : List Char) :
    leading value (c :: cs) = if c.isDigit then leading (shift value c) cs else value := by
  rw [leading, List.takeWhile_cons]
  split <;> rfl

private theorem leading_of_digits (h : ∀ c ∈ cs, c.isDigit) :
    leading value cs = cs.foldl shift value := by
  rw [leading, List.takeWhile_eq_self_iff.2 h]

private theorem readDigits_cons (limit value : Nat) (c : Char) (cs : List Char) :
    readDigits limit value (c :: cs) =
      if c.isDigit then
        if shift value c ≤ limit then readDigits limit (shift value c) cs else .error .tooLarge
      else .error .invalidDigit := by
  rw [readDigits, digit?]
  by_cases hc : c.isDigit
  · rw [if_pos hc, if_pos hc]
    rfl
  · rw [if_neg hc, if_neg hc]

theorem readDigits_eq (hvalue : value ≤ limit) :
    readDigits limit value cs =
      if limit < leading value cs then .error .tooLarge
      else if cs.all Char.isDigit then .ok (cs.foldl shift value) else .error .invalidDigit := by
  induction cs generalizing value with
  | nil => simp [readDigits, leading, hvalue]
  | cons c cs ih =>
    rw [readDigits_cons, leading_cons]
    by_cases hc : c.isDigit
    · by_cases hnext : shift value c ≤ limit
      · simp [hc, hnext, ih hnext]
      · -- the digits behind the one that passes the limit only make the number larger
        have hlarger : limit < leading (shift value c) cs :=
          Nat.lt_of_lt_of_le (Nat.lt_of_not_le hnext) (le_foldl_shift _ _)
        rw [if_pos hc, if_neg hnext, if_pos hc, if_pos hlarger]
    · simp [hc, hvalue]

private theorem unsigned_of_no_plus (h : ∀ rest, cs ≠ '+' :: rest) : unsigned cs = cs := by
  rw [unsigned.eq_def]
  split
  · next rest => exact absurd rfl (h rest)
  · rfl

/-- A text is refused for its size as soon as the digits at its front are too large, and for what
stands in it only otherwise. -/
theorem read_eq (limit : Nat) (cs : List Char) :
    read limit cs =
      if cs = [] then .error .empty
      else if limit < leading 0 (unsigned cs) then .error .tooLarge
      else if unsigned cs ≠ [] ∧ (unsigned cs).all Char.isDigit then
        .ok ((unsigned cs).foldl shift 0)
      else .error .invalidDigit := by
  rw [read.eq_def]
  split
  · rfl
  · simp [unsigned, leading]
  · next rest hrest =>
    have hne : rest ≠ [] := hrest
    simp [unsigned, readDigits_eq (Nat.zero_le limit), hne]
  · next hempty _ hplus =>
    have hne : cs ≠ [] := hempty
    rw [unsigned_of_no_plus hplus]
    simp [readDigits_eq (Nat.zero_le limit), hne]

theorem denotes_iff :
    Denotes cs n ↔ unsigned cs ≠ [] ∧ (∀ c ∈ unsigned cs, c.isDigit) ∧
      (unsigned cs).foldl shift 0 = n := by
  have hplus : ¬ '+'.isDigit := by decide
  constructor
  · intro h
    obtain ⟨digits, hcs, hne, hdigits, hn⟩ := h
    suffices hsame : unsigned cs = digits by
      rw [hsame]
      exact ⟨hne, hdigits, hn⟩
    rcases hcs with rfl | rfl
    · apply unsigned_of_no_plus
      intro rest hrest
      subst hrest
      exact hplus (hdigits '+' List.mem_cons_self)
    · rfl
  · intro h
    refine ⟨unsigned cs, ?_, h⟩
    rw [unsigned.eq_def]
    split
    · exact .inr rfl
    · exact .inl rfl

private theorem exists_denotes_iff :
    (∃ n, Denotes cs n) ↔ unsigned cs ≠ [] ∧ ∀ c ∈ unsigned cs, c.isDigit := by
  simp only [denotes_iff]
  constructor
  · intro h
    obtain ⟨n, hne, hdigits, -⟩ := h
    exact ⟨hne, hdigits⟩
  · intro h
    exact ⟨_, h.1, h.2, rfl⟩

theorem read_eq_ok_iff : read limit cs = .ok n ↔ Denotes cs n ∧ n ≤ limit := by
  constructor
  · intro h
    rw [read_eq] at h
    split at h
    · simp at h
    · split at h
      · simp at h
      · next hsmall =>
        split at h
        · next hnumeral =>
          obtain rfl := Except.ok.inj h
          have hdigits := List.all_eq_true.1 hnumeral.2
          rw [leading_of_digits hdigits] at hsmall
          exact ⟨denotes_iff.2 ⟨hnumeral.1, hdigits, rfl⟩, Nat.le_of_not_lt hsmall⟩
        · simp at h
  · intro h
    obtain ⟨hn, hle⟩ := h
    obtain ⟨hne, hdigits, rfl⟩ := denotes_iff.1 hn
    have hcs : cs ≠ [] := by
      intro hempty
      exact hne (by rw [hempty]; rfl)
    have hsmall : ¬ limit < leading 0 (unsigned cs) := by
      rw [leading_of_digits hdigits]
      exact Nat.not_lt_of_le hle
    rw [read_eq, if_neg hcs, if_neg hsmall, if_pos ⟨hne, List.all_eq_true.2 hdigits⟩]

theorem read_eq_error_iff : read limit cs = .error defect ↔ Refused limit cs defect := by
  rw [read_eq]
  constructor
  · intro h
    split at h
    · next hempty =>
      obtain rfl := Except.error.inj h
      exact .empty hempty
    · next hempty =>
      split at h
      · next hlarge =>
        obtain rfl := Except.error.inj h
        exact .tooLarge hlarge
      · next hsmall =>
        split at h
        · simp at h
        · next hnumeral =>
          obtain rfl := Except.error.inj h
          refine .invalidDigit hempty (Nat.le_of_not_lt hsmall) ?_
          intro n hn
          obtain ⟨hne, hdigits⟩ := exists_denotes_iff.1 ⟨n, hn⟩
          exact hnumeral ⟨hne, List.all_eq_true.2 hdigits⟩
  · intro h
    cases h with
    | empty hempty => rw [if_pos hempty]
    | tooLarge hlarge =>
      have hne : cs ≠ [] := by
        intro hempty
        subst hempty
        simp [unsigned, leading] at hlarge
      rw [if_neg hne, if_pos hlarge]
    | invalidDigit hne hsmall hmalformed =>
      have hnumeral : ¬ (unsigned cs ≠ [] ∧ (unsigned cs).all Char.isDigit) := by
        intro hnumeral
        obtain ⟨n, hn⟩ := exists_denotes_iff.2 ⟨hnumeral.1, List.all_eq_true.1 hnumeral.2⟩
        exact hmalformed n hn
      rw [if_neg hne, if_neg (Nat.not_lt_of_le hsmall), if_neg hnumeral]

theorem Defect.message_inj {d d' : Defect} : d.message = d'.message ↔ d = d' := by
  cases d <;> cases d' <;> simp [Defect.message]

theorem denotes_toString (n : Nat) : Denotes (toString n).toList n := by
  have hdigits : (toString n).toList = Nat.toDigits 10 n := Nat.toList_repr
  refine ⟨Nat.toDigits 10 n, .inl hdigits, Nat.toDigits_ne_nil, ?_, ?_⟩
  · intro c hc
    exact Nat.isDigit_of_mem_toDigits (by decide) (by decide) hc
  · exact Nat.ofDigitChars_ten_toDigits

theorem repr_inj {m n : Nat} : m.repr = n.repr ↔ m = n := by
  constructor
  · intro h
    have hdigits : Nat.toDigits 10 m = Nat.toDigits 10 n := by
      rw [← Nat.toList_repr, h, Nat.toList_repr]
    have hvalue := congrArg (Nat.ofDigitChars 10 · 0) hdigits
    simpa using hvalue
  · intro h
    rw [h]

private theorem repr_ne_minus (n : Nat) (text : String) : n.repr ≠ "-" ++ text := by
  intro h
  have hminus : '-' ∈ Nat.toDigits 10 n := by
    rw [← Nat.toList_repr, h, String.toList_append]
    exact List.mem_cons_self
  have hdigit := Nat.isDigit_of_mem_toDigits (by decide) (by decide) hminus
  exact absurd hdigit (by decide)

theorem toString_inj {m n : Int} : toString m = toString n ↔ m = n := by
  constructor
  · intro h
    rw [Int.toString_eq_repr, Int.toString_eq_repr, Int.repr_eq_if, Int.repr_eq_if] at h
    split at h
    · split at h
      · have hsame := repr_inj.1 h
        omega
      · exact absurd h (repr_ne_minus _ _)
    · split at h
      · exact absurd h.symm (repr_ne_minus _ _)
      · have hsame := repr_inj.1 ((String.append_right_inj _).1 h)
        omega
  · intro h
    rw [h]

end

end QueryFrame.Numeral
