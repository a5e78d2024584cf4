import QueryFrame.Proofs.Json.Numbers
import QueryFrame.Proofs.Json.Strings

/-!
# Values that are passed over

A value that nobody asks for is passed over, whatever its nesting. What is passed over is not the
value at once: behind an opening bracket the text is left inside, and the brackets that are open
are what the rest of the work goes by.
-/

namespace QueryFrame.Json

/-- What stands behind a value in a bracket: blanks, and a comma or a closing byte. -/
def EndsValue (s : Bytes) : Prop :=
  ∃ ws b t, s = ws ++ b :: t ∧ Blanks ws ∧
    (b = ','.toUInt8 ∨ b = Bracket.list.close ∨ b = Bracket.object.close)

/-- Once its first atom is passed over, what is left of the value in the open brackets is passed
over as well. -/
def IsPassed (v : Bytes) : Prop :=
  ∀ ws rest, Blanks ws → EndsValue rest → ∃ opened inside,
    Reads (skipAtom (ws ++ (v ++ rest))) opened inside ∧
      ∀ outer left, Leaves (skipInside outer false rest) left →
        Leaves (skipInside (opened.toList ++ outer) opened.isSome inside) left

section

variable {b : UInt8} {ws v s t rest left : Bytes} {bracket : Bracket} {outer : List Bracket}

theorem EndsValue.after_blanks (hws : Blanks ws)
    (hb : b = ','.toUInt8 ∨ b = Bracket.list.close ∨ b = Bracket.object.close) (s : Bytes) :
    EndsValue (ws ++ b :: s) :=
  ⟨ws, b, s, rfl, hws, hb⟩

private theorem EndsValue.endsNumber (h : EndsValue s) : EndsNumber s := by
  have hblank : ∀ b : UInt8, b = 0x20 ∨ b = 0x09 ∨ b = 0x0A ∨ b = 0x0D ∨ b = ','.toUInt8 ∨
      b = Bracket.list.close ∨ b = Bracket.object.close →
      ¬ IsDigit b ∧ b ≠ '.'.toUInt8 ∧ b ≠ 'e'.toUInt8 ∧ b ≠ 'E'.toUInt8 := by
    rintro b (rfl | rfl | rfl | rfl | rfl | rfl | rfl) <;> simp only [IsDigit] <;> decide
  obtain ⟨ws, b, t, rfl, hws, hb⟩ := h
  have hhead : ∃ c, (ws ++ b :: t).head? = some c ∧ ¬ IsDigit c ∧ c ≠ '.'.toUInt8 ∧
      c ≠ 'e'.toUInt8 ∧ c ≠ 'E'.toUInt8 := by
    cases ws with
    | nil => exact ⟨b, rfl, hblank b (by simp only [hb, or_true])⟩
    | cons w ws =>
      have hw := hws w (by simp)
      refine ⟨w, rfl, hblank w ?_⟩
      rcases hw with h | h | h | h <;> simp only [h, true_or, or_true]
  obtain ⟨c, hc, hdigit, hpoint, hexponent⟩ := hhead
  constructor
  · intro d hd
    rw [hc] at hd
    exact Option.some.inj hd ▸ hdigit
  · rw [hc]
    exact fun h => hpoint (Option.some.inj h)
  · rw [hc]
    exact ⟨fun h => hexponent.1 (Option.some.inj h), fun h => hexponent.2 (Option.some.inj h)⟩

private theorem isPassed_scalar (h : ∀ rest, EndsValue rest → ∃ b t, v ++ rest = b :: t ∧
    isBlank b = false ∧ b ≠ '['.toUInt8 ∧ b ≠ '\x7b'.toUInt8 ∧ Leaves (skipScalar b t) rest) :
    IsPassed v := by
  intro ws rest hws hrest
  obtain ⟨b, t, htext, hblank, hlist, hobject, hscalar⟩ := h rest hrest
  obtain ⟨hlength, hnext⟩ := next?_append hws hblank t
  refine ⟨none, rest, ?_, fun outer left hleft => hleft⟩
  rw [htext, skipAtom, hnext]
  dsimp only
  rw [if_neg hlist, if_neg hobject]
  apply Yields.map hscalar
  intro l hl
  exact ⟨rfl, hl⟩

private theorem isPassed_null : IsPassed (ascii "null") :=
  isPassed_scalar fun rest _ =>
    ⟨_, _, rfl, by decide, by decide, by decide, keyword_leaves (ascii "ull") rest⟩

private theorem isPassed_true : IsPassed (ascii "true") :=
  isPassed_scalar fun rest _ =>
    ⟨_, _, rfl, by decide, by decide, by decide, keyword_leaves (ascii "rue") rest⟩

private theorem isPassed_false : IsPassed (ascii "false") :=
  isPassed_scalar fun rest _ =>
    ⟨_, _, rfl, by decide, by decide, by decide, keyword_leaves (ascii "alse") rest⟩

private theorem isPassed_string {content : Bytes} (h : IsContent content) :
    IsPassed (quoted content) := by
  apply isPassed_scalar
  intro rest _
  refine ⟨_, _, quoted_append content rest, by decide, by decide, by decide, ?_⟩
  exact Yields.map (skipText_leaves h rest) fun _ hl => hl

private theorem startsNumber_ne (h : startsNumber b) :
    isBlank b = false ∧ b ≠ Bracket.list.close ∧ b ≠ '['.toUInt8 ∧ b ≠ '\x7b'.toUInt8 ∧
      b ≠ 'n'.toUInt8 ∧ b ≠ 't'.toUInt8 ∧ b ≠ 'f'.toUInt8 ∧ b ≠ '"'.toUInt8 := by
  refine ⟨?_, ?_, ?_, ?_, ?_, ?_, ?_, ?_⟩
  · rw [Bool.eq_false_iff]
    intro hblank
    rcases isBlank_iff.1 hblank with rfl | rfl | rfl | rfl <;> exact absurd h (by decide)
  all_goals
    rintro rfl
    exact absurd h (by decide)

private theorem isPassed_number {n : Bytes} (h : IsNumber n) : IsPassed n := by
  apply isPassed_scalar
  intro rest hrest
  obtain ⟨b, t, htext, hstarts, hleaves⟩ := number_leaves .malformed h hrest.endsNumber
  obtain ⟨hblank, -, hlist, hobject, hn, ht, hf, hquote⟩ := startsNumber_ne hstarts
  refine ⟨b, t, htext, hblank, hlist, hobject, ?_⟩
  rw [skipScalar, if_neg hn, if_neg ht, if_neg hf, if_neg hquote, if_pos hstarts]
  exact hleaves

private theorem skipInside_cons (bracket : Bracket) (outer : List Bracket) (atStart : Bool)
    (s : Bytes) :
    skipInside (bracket :: outer) atStart s =
      match next? s with
      | none => .error .truncated
      | some (b, rest) =>
        if b = bracket.close then
          (skipInside outer false rest.val).map fun left => (rest.of left).left
        else do
          let left ← separator atStart s
          let left := left.of (← skipKey bracket left.val)
          let (opened, rest) ← skipAtom left.val
          let last ← skipInside (opened.toList ++ bracket :: outer) opened.isSome rest.val
          return left.of (rest.of last).left :=
  (skipInside.eq_def (bracket :: outer) atStart s).trans rfl

private theorem skipInside_nil (atStart : Bool) (s : Bytes) :
    skipInside [] atStart s = .ok (.all s) := by
  rw [skipInside]

private theorem Bracket.close_visible (bracket : Bracket) : isBlank bracket.close = false := by
  cases bracket <;> decide

private theorem skipInside_close {atStart : Bool} (hws : Blanks ws)
    (h : Leaves (skipInside outer false rest) left) :
    Leaves (skipInside (bracket :: outer) atStart (ws ++ bracket.close :: rest)) left := by
  obtain ⟨hlength, hnext⟩ := next?_append hws bracket.close_visible rest
  rw [skipInside_cons, hnext]
  dsimp only
  rw [if_pos rfl]
  exact Yields.map h fun _ hl => hl

theorem separator_comma (hws : Blanks ws) (s : Bytes) :
    Leaves (separator false (ws ++ ','.toUInt8 :: s)) s :=
  Yields.map (mark_leaves hws (by decide) s) fun _ hl => hl

theorem separator_start (s : Bytes) : Leaves (separator true s) s :=
  yields_ok rfl

private theorem skipKey_front {front : Bytes} (h : IsFront bracket front) (s : Bytes) :
    Leaves (skipKey bracket (front ++ s)) s := by
  cases h with
  | list => exact yields_ok rfl
  | @object key content hkey hcontent =>
    have htext : key.bytes ++ [':'.toUInt8] ++ s = key.before ++ '"'.toUInt8 ::
        (content ++ '"'.toUInt8 :: (key.after ++ ':'.toUInt8 :: s)) := by
      simp [Part.bytes, hkey, quoted]
    rw [htext]
    apply Yields.bind (mark_leaves key.blank_before (by decide) _)
    rintro ⟨_, hlength⟩ rfl
    apply Yields.bind (skipText_leaves hcontent _)
    rintro ⟨_, hlength'⟩ rfl
    apply Yields.bind (mark_leaves key.blank_after (by decide) _)
    intro colon hcolon
    exact yields_ok hcolon

private theorem skipInside_cell {c : Cell} {atStart : Bool} {tail : Bytes}
    (hnext : ∃ h, next? s = some (b, ⟨t, h⟩)) (hb : b ≠ bracket.close)
    (hsep : Leaves (separator atStart s) (c.bytes ++ tail)) (hfront : IsFront bracket c.front)
    (hvalue : IsPassed c.value.inner) (hends : EndsValue (c.value.after ++ tail))
    (h : Leaves (skipInside (bracket :: outer) false (c.value.after ++ tail)) left) :
    Leaves (skipInside (bracket :: outer) atStart s) left := by
  have htext : c.bytes ++ tail =
      c.front ++ (c.value.before ++ (c.value.inner ++ (c.value.after ++ tail))) := by
    simp only [Cell.bytes, Part.bytes, List.append_assoc]
  rw [htext] at hsep
  obtain ⟨hlength, hnext⟩ := hnext
  obtain ⟨opened, inside, hatom, hinside⟩ := hvalue _ _ c.value.blank_before hends
  rw [skipInside_cons, hnext]
  dsimp only
  rw [if_neg hb]
  apply Yields.bind hsep
  rintro ⟨_, hsepLength⟩ rfl
  apply Yields.bind (skipKey_front hfront _)
  rintro ⟨_, hkeyLength⟩ rfl
  apply Yields.bind hatom
  rintro ⟨_, _, hatomLength⟩ ⟨rfl, rfl⟩
  apply Yields.bind (hinside _ left h)
  intro last hlast
  exact yields_ok hlast

private theorem endsValue_cells (hws : Blanks ws) (others : List Cell) (rest : Bytes) :
    EndsValue (ws ++ (others.flatMap (fun c => ','.toUInt8 :: c.bytes) ++
      bracket.close :: rest)) := by
  cases others with
  | nil =>
    cases bracket with
    | list => exact .after_blanks hws (.inr (.inl rfl)) rest
    | object => exact .after_blanks hws (.inr (.inr rfl)) rest
  | cons c others => exact .after_blanks hws (.inl rfl) _

/-- The cells behind the first are passed over, and the bracket with them. -/
private theorem skipInside_others {others : List Cell}
    (fronts : ∀ c ∈ others, IsFront bracket c.front)
    (values : ∀ c ∈ others, IsPassed c.value.inner) (hws : Blanks ws)
    (h : Leaves (skipInside outer false rest) left) :
    Leaves (skipInside (bracket :: outer) false (ws ++
      (others.flatMap (fun c => ','.toUInt8 :: c.bytes) ++ bracket.close :: rest))) left := by
  -- The blanks `ws` are those behind the value of the cell before.
  induction others generalizing ws with
  | nil => exact skipInside_close hws h
  | cons c others ih =>
    have hfurther := ih (fun d hd => fronts d (List.mem_cons_of_mem c hd))
      (fun d hd => values d (List.mem_cons_of_mem c hd)) c.value.blank_after
    have hcomma : ','.toUInt8 ≠ bracket.close := by cases bracket <;> decide
    rw [List.flatMap_cons, List.cons_append, List.cons_append, List.append_assoc]
    exact skipInside_cell (next?_append hws (by decide) _) hcomma (separator_comma hws _)
      (fronts c (by simp)) (values c (by simp)) (endsValue_cells c.value.blank_after others rest)
      hfurther

private theorem IsValue.starts (h : IsValue v) :
    ∃ b t, v = b :: t ∧ isBlank b = .false ∧ b ≠ Bracket.list.close := by
  cases h with
  | null => exact ⟨_, _, rfl, by decide, by decide⟩
  | true => exact ⟨_, _, rfl, by decide, by decide⟩
  | false => exact ⟨_, _, rfl, by decide, by decide⟩
  | string h => exact ⟨_, _, rfl, by decide, by decide⟩
  | number h =>
    have hnil : EndsNumber [] := by constructor <;> simp [EndsDigits]
    obtain ⟨b, t, htext, hstarts, -⟩ := number_leaves .malformed h hnil
    obtain ⟨hblank, hclose, -⟩ := startsNumber_ne hstarts
    exact ⟨b, t, by simpa using htext, hblank, hclose⟩
  | empty bracket h => exact ⟨_, _, rfl, by cases bracket <;> decide, by cases bracket <;> decide⟩
  | filled bracket fronts values =>
    exact ⟨_, _, rfl, by cases bracket <;> decide, by cases bracket <;> decide⟩

private theorem Cell.starts {c : Cell} (hfront : IsFront bracket c.front)
    (hvalue : IsValue c.value.inner) (s : Bytes) :
    ∃ b t, (∃ h, next? (c.bytes ++ s) = some (b, ⟨t, h⟩)) ∧ b ≠ bracket.close := by
  generalize hc : c.front = front at hfront
  cases hfront with
  | list =>
    obtain ⟨b, t, hinner, hblank, hclose⟩ := hvalue.starts
    refine ⟨b, t ++ (c.value.after ++ s), ?_, hclose⟩
    have htext : c.bytes ++ s = c.value.before ++ b :: (t ++ (c.value.after ++ s)) := by
      simp [Cell.bytes, Part.bytes, hc, hinner]
    rw [htext]
    exact next?_append c.value.blank_before hblank _
  | @object key content hkey hcontent =>
    have htext : c.bytes ++ s = key.before ++ '"'.toUInt8 ::
        (content ++ '"'.toUInt8 :: (key.after ++ ':'.toUInt8 :: (c.value.bytes ++ s))) := by
      simp [Cell.bytes, Part.bytes, hc, hkey, quoted]
    rw [htext]
    exact ⟨'"'.toUInt8, _, next?_append key.blank_before (by decide) _, by decide⟩

private theorem skipAtom_opening (hws : Blanks ws) (bracket : Bracket) (s : Bytes) :
    Reads (skipAtom (ws ++ bracket.opening :: s)) (some bracket) s := by
  cases bracket with
  | list =>
    obtain ⟨hlength, hnext⟩ := next?_append hws (b := '['.toUInt8) (by decide) s
    rw [Bracket.opening, skipAtom, hnext]
    exact yields_ok ⟨rfl, rfl⟩
  | object =>
    obtain ⟨hlength, hnext⟩ := next?_append hws (b := '\x7b'.toUInt8) (by decide) s
    rw [Bracket.opening, skipAtom, hnext]
    exact yields_ok ⟨rfl, rfl⟩

private theorem IsValue.isPassed (h : IsValue v) : IsPassed v := by
  induction h with
  | null => exact isPassed_null
  | true => exact isPassed_true
  | false => exact isPassed_false
  | string h => exact isPassed_string h
  | number h => exact isPassed_number h
  | @empty bracket inner h =>
    intro ws rest hws hrest
    refine ⟨some bracket, inner ++ bracket.close :: rest, ?_, ?_⟩
    · have htext : bracket.opening :: (inner ++ [bracket.close]) ++ rest =
          bracket.opening :: (inner ++ bracket.close :: rest) := by
        simp
      rw [htext]
      exact skipAtom_opening hws bracket _
    · intro outer left hleft
      exact skipInside_close h hleft
  | @filled bracket first others fronts values ih =>
    intro ws rest hws hrest
    have htext : bracket.bytes first others ++ rest = first.bytes ++
        (others.flatMap (fun c => ','.toUInt8 :: c.bytes) ++ bracket.close :: rest) := by
      simp [Bracket.bytes]
    refine ⟨some bracket, bracket.bytes first others ++ rest, ?_, ?_⟩
    · exact skipAtom_opening hws bracket _
    · intro outer left hleft
      obtain ⟨b, t, hnext, hb⟩ := Cell.starts (fronts first (by simp)) (values first (by simp))
        (others.flatMap (fun c => ','.toUInt8 :: c.bytes) ++ bracket.close :: rest)
      rw [htext]
      apply skipInside_cell hnext hb (separator_start _) (fronts first (by simp))
        (ih first (by simp)) (endsValue_cells first.value.blank_after others rest)
      exact skipInside_others (fun c hc => fronts c (List.mem_cons_of_mem first hc))
        (fun c hc => ih c (List.mem_cons_of_mem first hc)) first.value.blank_after hleft

/-- A value that nobody asks for is passed over. -/
theorem skip_leaves (h : IsValue v) (hws : Blanks ws) (hrest : EndsValue rest) :
    Leaves (skip (ws ++ (v ++ rest))) rest := by
  obtain ⟨opened, inside, hatom, hinside⟩ := h.isPassed ws rest hws hrest
  have hpassed := hinside [] rest (by rw [skipInside_nil]; exact yields_ok rfl)
  have hskipped : Leaves (skipInside opened.toList true inside) rest := by
    cases opened with
    | none =>
      rw [Option.toList_none, List.nil_append, skipInside_nil] at hpassed
      rw [Option.toList_none, skipInside_nil]
      exact hpassed
    | some bracket => exact hpassed
  apply Yields.bind hatom
  rintro ⟨_, _, hlength⟩ ⟨rfl, rfl⟩
  apply Yields.bind hskipped
  intro last hlast
  exact yields_ok hlast

end

end QueryFrame.Json
