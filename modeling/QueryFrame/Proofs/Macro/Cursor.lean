import Mathlib.Data.List.Infix
import QueryFrame.Proofs.Macro.ArgumentCursor
import QueryFrame.Proofs.Macro.Decomposition
import QueryFrame.Proofs.Macro.Outline

/-!
# Expansion by offsets

Raw SQL can be expanded in a loop that keeps the text written so far and the text that remains. Each
iteration looks for the next mark, cuts out what it copies, the name and the arguments by their
offsets, and goes on behind them. All of its cuts can be made, what remains is a shorter ending of
the raw SQL with one mark less at least, and what the loop ends with is the expansion.
-/

namespace QueryFrame

open Macro Checked Arguments

/-- The offset of the first character from which on the text is as asked for. -/
def offset? (asked : List Char → Bool) : List Char → Option Nat
  | [] => none
  | c :: cs => if asked (c :: cs) then some 0 else (offset? asked cs).map (c.utf8Size + ·)

namespace Macro

def nextMark? : List Char → Option Nat := offset? mark.isPrefixOf

def nameBytes (cs : List Char) : Nat :=
  (offset? (fun rest => rest.head?.any (!isNameChar ·)) cs).getD (byteCount cs)

def markCount (cs : List Char) : Nat := cs.tails.countP mark.isPrefixOf

section

variable {gap name after : List Char}

private theorem nextMark?_of_prefix {cs : List Char} (h : mark <+: cs) : nextMark? cs = some 0 := by
  obtain ⟨rest, rfl⟩ := h
  rfl

private theorem nextMark?_cons {c : Char} {cs : List Char} (h : ¬ mark <+: c :: cs) :
    nextMark? (c :: cs) = (nextMark? cs).map (c.utf8Size + ·) := by
  rw [nextMark?, offset?, if_neg (by rwa [List.isPrefixOf_iff_prefix])]

private theorem nextMark?_unmarked (h : ¬ mark <:+: gap) : nextMark? gap = none := by
  induction gap with
  | nil => rfl
  | cons c gap ih =>
    rw [nextMark?_cons fun hpre => h hpre.isInfix, ih (unmarked_tail h), Option.map_none]

private theorem nextMark?_gap (h : ¬ mark <:+: gap) (cs : List Char) :
    nextMark? (gap ++ (mark ++ cs)) = some (byteCount gap) := by
  induction gap with
  | nil => exact nextMark?_of_prefix (List.prefix_append mark cs)
  | cons c gap ih =>
    rw [List.cons_append, nextMark?_cons (not_mark_prefix_append h cs), ih (unmarked_tail h),
      Option.map_some, byteCount_cons]

private theorem unmarked_or_exists_gap (cs : List Char) :
    ¬ mark <:+: cs ∨ ∃ gap rest, cs = gap ++ (mark ++ rest) ∧ ¬ mark <:+: gap := by
  have h := decomposes_scan cs
  generalize Piece.ofTokens (Token.scan cs) = pieces at h
  cases h with
  | rest unmarked => exact .inl unmarked
  | word unmarked => exact .inr ⟨_, _, rfl, unmarked⟩
  | bare unmarked => exact .inr ⟨_, _, rfl, unmarked⟩
  | call unmarked => exact .inr ⟨_, _, rfl, unmarked⟩
  | unclosed unmarked => exact .inr ⟨_, _, rfl, unmarked⟩

private theorem IsRun.nameBytes_eq (run : IsRun name after) :
    nameBytes (name ++ after) = byteCount name := by
  rw [nameBytes]
  obtain ⟨chars, longest⟩ := run
  induction name with
  | nil =>
    cases after with
    | nil => rfl
    | cons c after =>
      have hc : isNameChar c = false := by simpa using longest c rfl
      simp [offset?, hc]
  | cons c name ih =>
    have hc : isNameChar c = true := chars c List.mem_cons_self
    have hrest := ih fun d hd => chars d (List.mem_cons_of_mem c hd)
    cases hoffset : offset? (fun rest => rest.head?.any (!isNameChar ·)) (name ++ after) with
    | none => simp_all [offset?]
    | some n => simp_all [offset?]

private theorem markCount_cons (c : Char) (cs : List Char) :
    markCount cs ≤ markCount (c :: cs) := by
  simp [markCount, List.countP_cons]

private theorem markCount_le_append (front cs : List Char) :
    markCount cs ≤ markCount (front ++ cs) := by
  induction front with
  | nil => exact Nat.le_refl _
  | cons c front ih => exact ih.trans (markCount_cons c _)

private theorem markCount_mark_append (cs : List Char) :
    markCount cs + 1 ≤ markCount (mark ++ cs) := by
  have htail := markCount_le_append ['_', '_'] cs
  have hhead : markCount (mark ++ cs) = markCount (['_', '_'] ++ cs) + 1 := by
    simp [markCount, mark]
  omega

end

end Macro

private theorem Token.MarkedAs.suffix {cs rest : List Char} {t : Token}
    (h : Token.MarkedAs cs t rest) :
    rest <:+ cs := by
  cases h with
  | word run unknown => exact List.suffix_append _ _
  | bare run noParenthesis => exact List.suffix_append _ _
  | @call m inside balanced _ => exact ⟨m.name.toList ++ '(' :: (inside ++ [')']), by simp⟩
  | unclosed m unmatched => exact List.nil_suffix

def expandText (range : TimeRange) (cs : List Char) : Except QueryError (List Char) :=
  ((Token.scan cs).mapM (Token.expand range)).map List.flatten

private theorem flatten_mapM_chars (range : TimeRange) (gap : List Char) (tokens : List Token) :
    ((gap.map Token.char ++ tokens).mapM (Token.expand range)).map List.flatten =
      ((tokens.mapM (Token.expand range)).map List.flatten).map (gap ++ ·) := by
  induction gap with
  | nil => exact eq_map_id _
  | cons c gap ih =>
    rw [List.map_cons, List.cons_append, flatten_mapM_cons, ih]
    cases tokens.mapM (Token.expand range) <;> rfl

private theorem expandText_unmarked {range : TimeRange} {gap : List Char} (h : ¬ mark <:+: gap) :
    expandText range gap = .ok gap := by
  have hchars := flatten_mapM_chars range gap []
  rw [List.append_nil] at hchars
  rw [expandText, Token.scan_unmarked h, hchars]
  simp [Except.map, pure, Except.pure]

private theorem expandText_gap {range : TimeRange} {gap : List Char} (h : ¬ mark <:+: gap)
    (cs : List Char) :
    expandText range (gap ++ (mark ++ cs)) =
      ((Token.marked cs).1.expand range).bind fun piece =>
        (expandText range (Token.marked cs).2).map (gap ++ piece ++ ·) := by
  rw [expandText, Token.scan_gap h, Token.scan_mark, flatten_mapM_chars, flatten_mapM_cons]
  cases (Token.marked cs).1.expand range with
  | error e => rfl
  | ok piece =>
    rw [Except.bind, Except.bind, ← expandText]
    cases expandText range (Token.marked cs).2 <;> simp [Except.map]

private theorem toList_interpolate (sql : String) (range : TimeRange) :
    (interpolate sql range).map String.toList = expandText range sql.toList := by
  rw [interpolate_eq_flatten, ← expandText]
  cases expandText range sql.toList <;> simp [Except.map]

/-- How far the expansion has come: the text written so far, and the text that remains. -/
structure Cursor where
  out : List Char
  rest : List Char
  deriving DecidableEq

namespace Cursor

def argumentsBehind (name : String) (tail : List Char) :
    Checked (Except QueryError (List (List Char) × Nat)) :=
  if tail.head? = some '(' then readByOffsets name tail else pure (.ok ([], 0))

def expandMacro (range : TimeRange) (out : List Char) (name : String) (tail : List Char) :
    Checked (Except QueryError Cursor) := do
  match ← argumentsBehind name tail with
  | .error e => return .error e
  | .ok (arguments, consumed) =>
    match expandNamed name range (arguments.map String.ofList) with
    | .error e => return .error e
    | .ok piece => do
      let rest ← sliceFrom tail consumed
      return .ok ⟨out ++ piece.toList, rest⟩

/-- One iteration of the expansion, when the next mark is at the offset. -/
def advance (range : TimeRange) (s : Cursor) (offset : Nat) :
    Checked (Except QueryError Cursor) := do
  let copied ← slice s.rest 0 offset
  let after ← sliceFrom s.rest (offset + byteCount mark)
  if nameBytes after = 0 then return .ok ⟨s.out ++ copied ++ mark, after⟩
  else do
    let name ← slice after 0 (nameBytes after)
    let tail ← sliceFrom after (nameBytes after)
    if ofName? (.ofList name) = none then do
      let word ← slice s.rest offset (offset + byteCount mark + nameBytes after)
      return .ok ⟨s.out ++ copied ++ word, tail⟩
    else expandMacro range (s.out ++ copied) (.ofList name) tail

/-- The expansion of the raw SQL gets to the cursor in so many iterations. -/
inductive Iterates (range : TimeRange) (sql : List Char) : Nat → Cursor → Prop
  | start : Iterates range sql 0 ⟨[], sql⟩
  | next {k offset : Nat} {s s' : Cursor} (before : Iterates range sql k s)
      (found : nextMark? s.rest = some offset)
      (advances : (s.advance range offset).result = some (.ok s')) : Iterates range sql (k + 1) s'

/-- From the cursor on, the expansion ends in so many iterations with the result. -/
inductive Ends (range : TimeRange) : Cursor → Nat → Except QueryError (List Char) → Prop
  | done {s : Cursor} (unmarked : nextMark? s.rest = none) : Ends range s 0 (.ok (s.out ++ s.rest))
  | failed {s : Cursor} {offset : Nat} {e : QueryError} (found : nextMark? s.rest = some offset)
      (fails : (s.advance range offset).result = some (.error e)) : Ends range s 1 (.error e)
  | next {s s' : Cursor} {offset n : Nat} {result : Except QueryError (List Char)}
      (found : nextMark? s.rest = some offset)
      (advances : (s.advance range offset).result = some (.ok s'))
      (further : Ends range s' n result) : Ends range s (n + 1) result

section

variable {name after gap cs : List Char} {s s' : Cursor} {m : Macro}

private theorem completes_argumentsBehind (name : String) (tail : List Char) :
    (argumentsBehind name tail).Completes tail (read name tail) := by
  rw [argumentsBehind]
  split_ifs with hparen
  · obtain ⟨inside, rfl⟩ := List.head?_eq_some_iff.1 hparen
    exact completes_readByOffsets name inside
  · rw [read_of_no_parenthesis hparen]
    exact completes_pure tail _

private theorem completes_expandMacro (run : IsRun m.name.toList after) (range : TimeRange)
    (out : List Char) :
    (expandMacro range out m.name after).Completes after
      (((Token.marked (m.name.toList ++ after)).1.expand range).map fun piece =>
        ⟨out ++ piece, (Token.marked (m.name.toList ++ after)).2⟩) := by
  obtain ⟨hexpand, hconsumed⟩ := marked_read m run range
  rw [hexpand, expandMacro]
  apply (completes_argumentsBehind m.name after).bind
  cases hread : read m.name after with
  | error e => exact completes_pure after _
  | ok found =>
    obtain ⟨arguments, consumed⟩ := found
    obtain ⟨taken, htaken, hbytes⟩ := hconsumed arguments consumed hread
    simp only [expandNamed_name, Except.bind]
    cases m.expansion range (arguments.map String.ofList) with
    | error e => exact completes_pure after _
    | ok piece => exact (completes_sliceFrom htaken.symm hbytes).bind (completes_pure after _)

private theorem completes_advance (hrest : s.rest = gap ++ (mark ++ cs)) (range : TimeRange) :
    (s.advance range (byteCount gap)).Completes s.rest
      (((Token.marked cs).1.expand range).map fun piece =>
        ⟨s.out ++ gap ++ piece, (Token.marked cs).2⟩) := by
  have run := isRun_takeWhile cs
  have whole := List.takeWhile_append_dropWhile (p := isNameChar) (l := cs)
  generalize cs.takeWhile isNameChar = name at run whole
  generalize cs.dropWhile isNameChar = after at run whole
  subst whole
  have hbehind : gap ++ mark ++ (name ++ after) = s.rest := by rw [hrest, List.append_assoc]
  have hcopied := completes_sliceTo hrest.symm rfl
  have hafter := completes_sliceFrom hbehind (byteCount_append gap mark)
  rw [advance]
  apply hcopied.bind
  apply hafter.bind
  rw [run.nameBytes_eq]
  split_ifs with hnone
  · obtain rfl := byteCount_eq_zero_iff.1 hnone
    rw [Token.marked_word run (by decide)]
    exact completes_pure s.rest _
  · have hname := (completes_sliceTo (rfl : name ++ after = _) rfl).behind (gap ++ mark)
    have htail := (completes_sliceFrom (rfl : name ++ after = _) rfl).behind (gap ++ mark)
    rw [hbehind] at hname htail
    apply hname.bind
    apply htail.bind
    split_ifs with hunknown
    · rw [Token.marked_word run (ofName?_eq_none_iff.1 hunknown)]
      have hword : gap ++ (mark ++ name ++ after) = s.rest := by simp [hrest]
      exact (completes_slice hword rfl (by simp [Nat.add_assoc])).bind (completes_pure s.rest _)
    · obtain ⟨m, rfl⟩ := exists_macro (by_contra fun h => hunknown (ofName?_eq_none_iff.2 h))
      have hmacro := (completes_expandMacro run range (s.out ++ gap)).behind m.name.toList
      have hmacro := hmacro.behind (gap ++ mark)
      rw [hbehind] at hmacro
      rw [String.ofList_toList]
      exact hmacro

private theorem exists_gap_of_found {offset : Nat} (found : nextMark? s.rest = some offset) :
    ∃ gap cs, s.rest = gap ++ (mark ++ cs) ∧ ¬ mark <:+: gap ∧ byteCount gap = offset := by
  rcases unmarked_or_exists_gap s.rest with hnone | hgap
  · simp [nextMark?_unmarked hnone] at found
  · obtain ⟨gap, cs, hrest, hgap⟩ := hgap
    rw [hrest, nextMark?_gap hgap, Option.some.injEq] at found
    exact ⟨gap, cs, hrest, hgap, found⟩

/-- What remains behind an iteration is an ending of what remained before it, without its mark. -/
structure Shortens (rest : List Char) (s : Cursor) : Prop where
  suffix : s.rest <:+ rest
  shorter : byteCount s.rest < byteCount rest
  fewer : markCount s.rest < markCount rest

private theorem shortens_of_suffix (hsuffix : s.rest <:+ cs) :
    Shortens (gap ++ (mark ++ cs)) s := by
  obtain ⟨taken, rfl⟩ := hsuffix
  refine ⟨⟨gap ++ (mark ++ taken), by simp⟩, ?_, ?_⟩
  · have hmark : byteCount mark = 3 := rfl
    simp [hmark]
    omega
  · have htaken := markCount_le_append taken s.rest
    have hmark := markCount_mark_append (taken ++ s.rest)
    have hgap := markCount_le_append gap (mark ++ (taken ++ s.rest))
    omega

private theorem completes_of_found {offset : Nat} (found : nextMark? s.rest = some offset)
    (range : TimeRange) :
    ∃ next, (s.advance range offset).Completes s.rest next ∧
      ∀ s', next = .ok s' → Shortens s.rest s' := by
  obtain ⟨gap, cs, hrest, -, rfl⟩ := exists_gap_of_found found
  refine ⟨_, completes_advance hrest range, ?_⟩
  intro s' hs'
  obtain ⟨piece, -, rfl⟩ := map_eq_ok_iff.1 hs'
  rw [hrest]
  exact shortens_of_suffix (Token.markedAs_marked cs).suffix

private theorem markCount_pos_of_found {offset : Nat} (found : nextMark? s.rest = some offset) :
    0 < markCount s.rest := by
  obtain ⟨gap, cs, hrest, -, rfl⟩ := exists_gap_of_found found
  have hmark := markCount_mark_append cs
  have hgap := markCount_le_append gap (mark ++ cs)
  rw [hrest]
  omega

theorem Iterates.bound {range : TimeRange} {sql : List Char} {k : Nat}
    (h : Iterates range sql k s) : s.rest <:+ sql ∧ k + markCount s.rest ≤ markCount sql := by
  induction h with
  | start => exact ⟨List.suffix_refl sql, by simp⟩
  | next before found advances ih =>
    obtain ⟨hsuffix, hbound⟩ := ih
    obtain ⟨next, hcompletes, hshortens⟩ := completes_of_found found range
    rw [hcompletes.result_eq, Option.some.injEq] at advances
    have hnext := hshortens _ advances
    have hfewer := hnext.fewer
    exact ⟨hnext.suffix.trans hsuffix, by omega⟩

theorem Ends.unique {range : TimeRange} {n n' : Nat} {r r' : Except QueryError (List Char)}
    (h : Ends range s n r) (h' : Ends range s n' r') : n' = n ∧ r' = r := by
  induction h generalizing n' r' with
  | done unmarked =>
    cases h' with
    | done _ => exact ⟨rfl, rfl⟩
    | failed found _ => simp [unmarked] at found
    | next found _ _ => simp [unmarked] at found
  | failed found fails =>
    cases h' with
    | done unmarked => simp [unmarked] at found
    | failed found' fails' =>
      obtain rfl := Option.some.inj (found.symm.trans found')
      obtain rfl := Except.error.inj (Option.some.inj (fails.symm.trans fails'))
      exact ⟨rfl, rfl⟩
    | next found' advances _ =>
      obtain rfl := Option.some.inj (found.symm.trans found')
      simp [fails] at advances
  | next found advances _ ih =>
    cases h' with
    | done unmarked => simp [unmarked] at found
    | failed found' fails =>
      obtain rfl := Option.some.inj (found.symm.trans found')
      simp [fails] at advances
    | next found' advances' further' =>
      obtain rfl := Option.some.inj (found.symm.trans found')
      obtain rfl := Except.ok.inj (Option.some.inj (advances.symm.trans advances'))
      obtain ⟨rfl, rfl⟩ := ih further'
      exact ⟨rfl, rfl⟩

theorem exists_ends (range : TimeRange) (s : Cursor) :
    ∃ n, n ≤ markCount s.rest ∧ Ends range s n ((expandText range s.rest).map (s.out ++ ·)) := by
  -- every iteration takes a mark at least off what remains
  induction hcount : markCount s.rest using Nat.strong_induction_on generalizing s with
  | _ count ih =>
    subst hcount
    rcases unmarked_or_exists_gap s.rest with hnone | hgap
    · rw [expandText_unmarked hnone]
      exact ⟨0, Nat.zero_le _, .done (nextMark?_unmarked hnone)⟩
    · obtain ⟨gap, cs, hrest, hgap⟩ := hgap
      have hfound : nextMark? s.rest = some (byteCount gap) := by rw [hrest, nextMark?_gap hgap]
      have hadvance := (completes_advance hrest range).result_eq
      rw [hrest, expandText_gap hgap, ← hrest]
      cases hpiece : (Token.marked cs).1.expand range with
      | error e =>
        rw [hpiece] at hadvance
        exact ⟨1, markCount_pos_of_found hfound, .failed hfound hadvance⟩
      | ok piece =>
        rw [hpiece] at hadvance
        have hshortens : Shortens s.rest ⟨s.out ++ gap ++ piece, (Token.marked cs).2⟩ := by
          rw [hrest]
          exact shortens_of_suffix (Token.markedAs_marked cs).suffix
        have hfewer := hshortens.fewer
        obtain ⟨n, hn, hends⟩ := ih _ hfewer _ rfl
        refine ⟨n + 1, by omega, .next hfound hadvance ?_⟩
        have hresult : ((expandText range (Token.marked cs).2).map (gap ++ piece ++ ·)).map
              (s.out ++ ·) =
            (expandText range (Token.marked cs).2).map (s.out ++ gap ++ piece ++ ·) := by
          cases expandText range (Token.marked cs).2 <;> simp [Except.map]
        rw [Except.bind, hresult]
        exact hends

end

/-- Reading arguments always has a parenthesis to close and the arguments to cut out, each iteration
makes all its cuts in what remains and leaves a shorter ending of the raw SQL, and after one
iteration at most for each mark the loop ends with the expansion. -/
theorem ends_interpolate (sql : String) (range : TimeRange) :
    (∀ name tail,
      (∀ front c back r, front ++ c :: back = '(' :: tail →
        Reading.Reaches ('(' :: tail) front r → r.InBounds ('(' :: tail) front c) ∧
      (readByOffsets name ('(' :: tail)).Completes ('(' :: tail) (read name ('(' :: tail))) ∧
    (∀ k s, Iterates range sql.toList k s → s.rest <:+ sql.toList ∧
      ∀ offset, nextMark? s.rest = some offset → k < markCount sql.toList ∧
        ∃ next, (s.advance range offset).Completes s.rest next ∧
          ∀ s', next = .ok s' → Shortens s.rest s') ∧
    ∃ n, n ≤ markCount sql.toList ∧ ∀ k result, Ends range ⟨[], sql.toList⟩ k result ↔
      k = n ∧ result = (interpolate sql range).map String.toList := by
  refine ⟨?_, ?_, ?_⟩
  · intro name tail
    refine ⟨?_, completes_readByOffsets name tail⟩
    intro front c back r hinput hreaches
    exact hreaches.inBounds hinput
  · intro k s hs
    obtain ⟨hsuffix, hbound⟩ := hs.bound
    refine ⟨hsuffix, ?_⟩
    intro offset found
    have hpos := markCount_pos_of_found found
    exact ⟨by omega, completes_of_found found range⟩
  · obtain ⟨n, hn, hends⟩ := exists_ends range ⟨[], sql.toList⟩
    have hresult : (expandText range sql.toList).map ([] ++ ·) =
        (interpolate sql range).map String.toList := by
      rw [toList_interpolate]
      exact (eq_map_id _).symm
    rw [hresult] at hends
    refine ⟨n, hn, ?_⟩
    intro k result
    constructor
    · exact hends.unique
    · intro h
      obtain ⟨rfl, rfl⟩ := h
      exact hends

theorem ends_interpolate_accented :
    let range : TimeRange := ⟨.midnight 0, .midnight 1⟩
    let sql := "ü$__ $__varFallback(é,)"
    let tail := "é,)".toList
    let behindComma : Reading := ⟨1, ["é".toList], 4⟩
    let between : Cursor := ⟨"ü$__".toList, " $__varFallback(é,)".toList⟩
    behindComma.InBounds ('(' :: tail) ['(', 'é', ','] ')' ∧
      (readByOffsets "varFallback" ('(' :: tail)).Completes ('(' :: tail)
        (.ok (["é".toList, []], 5)) ∧
      between.rest <:+ sql.toList ∧ 1 < markCount sql.toList ∧
      (between.advance range 1).Completes between.rest (.ok ⟨"ü$__ é".toList, []⟩) ∧
      Shortens between.rest ⟨"ü$__ é".toList, []⟩ ∧
      ∃ n, n ≤ 2 ∧ Ends range ⟨[], sql.toList⟩ n (.ok "ü$__ é".toList) := by
  intro range sql tail behindComma between
  obtain ⟨hread, hiterates, n, hn, hends⟩ := ends_interpolate sql range
  obtain ⟨hbounds, hcompletes⟩ := hread "varFallback" tail
  have hopening : Reading.Reaches ('(' :: tail) ['('] ⟨1, [], 1⟩ := .step .start rfl rfl
  have haccent : Reading.Reaches ('(' :: tail) ['(', 'é'] ⟨1, [], 1⟩ := .step hopening rfl rfl
  have hcomma : Reading.Reaches ('(' :: tail) ['(', 'é', ','] behindComma :=
    .step haccent rfl (by decide +kernel)
  have hbefore : Iterates range sql.toList 1 between :=
    .next .start (by decide +kernel : nextMark? sql.toList = some 2) (by decide +kernel)
  obtain ⟨hsuffix, hnext⟩ := hiterates 1 between hbefore
  obtain ⟨hcount, next, hadvance, hshortens⟩ := hnext 1 (by decide +kernel)
  have hresult : (between.advance range 1).result = some (.ok ⟨"ü$__ é".toList, []⟩) := by
    decide +kernel
  obtain rfl := Option.some.inj (hadvance.result_eq.symm.trans hresult)
  have harguments : read "varFallback" ('(' :: tail) = .ok (["é".toList, []], 5) := by
    decide +kernel
  rw [harguments] at hcompletes
  have hsql : (interpolate sql range).map String.toList = .ok "ü$__ é".toList := by
    decide +kernel
  have htwo : markCount sql.toList = 2 := by decide +kernel
  exact ⟨hbounds _ ')' [] behindComma rfl hcomma, hcompletes, hsuffix, hcount, hadvance,
    hshortens _ rfl, n, by omega, (hends n _).2 ⟨rfl, hsql.symm⟩⟩

end Cursor

end QueryFrame
