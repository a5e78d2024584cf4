import QueryFrame.Proofs.Macro.ArgumentList
import QueryFrame.Proofs.Macro.Scan
import QueryFrame.Proofs.Traversal

/-!
# Decompositions of raw SQL

What the expansion of macros means, said without the scan. Raw SQL falls into pieces: the texts up
to the next mark, and behind each mark a word that no macro is named by, or the use of a macro with
the arguments that stand in parentheses right behind its name. It does so in one way only, and its
expansion is the pieces' expansions put together.
-/

namespace QueryFrame

open Macro Arguments

/-- A piece of raw SQL. -/
inductive Piece where
  /-- The text in front of a mark, or behind the last one. -/
  | text (copied : List Char)
  /-- A marked name that is no macro's. -/
  | word (name : List Char)
  /-- A marked macro without parentheses. -/
  | bare (name : List Char)
  /-- A marked macro with the text between its parentheses and the arguments that are in it. -/
  | call (name inside : List Char) (arguments : List (List Char))
  /-- A marked macro whose parenthesis nothing matches, and the text behind the parenthesis. -/
  | unclosed (name rest : List Char)

namespace Piece

def source : Piece → List Char
  | text copied => copied
  | word name | bare name => mark ++ name
  | call name inside _ => mark ++ name ++ '(' :: inside ++ [')']
  | unclosed name rest => mark ++ name ++ '(' :: rest

def expand (range : TimeRange) : Piece → Except QueryError (List Char)
  | text copied => .ok copied
  | word name => .ok (mark ++ name)
  | bare name => (expandNamed (.ofList name) range []).map String.toList
  | call name _ arguments =>
    (expandNamed (.ofList name) range (arguments.map String.ofList)).map String.toList
  | unclosed name _ => .error (.unterminatedMacro (.ofList name))

end Piece

/-- Raw SQL falls into the pieces, read from the left. -/
inductive Decomposes : List Char → List Piece → Prop
  | rest {gap : List Char} (unmarked : ¬ mark <:+: gap) : Decomposes gap [.text gap]
  | word {gap name after : List Char} {pieces : List Piece} (unmarked : ¬ mark <:+: gap)
      (run : IsRun name after) (unknown : String.ofList name ∉ names)
      (further : Decomposes after pieces) :
      Decomposes (gap ++ (mark ++ (name ++ after))) (.text gap :: .word name :: pieces)
  | bare {gap name after : List Char} {pieces : List Piece} (unmarked : ¬ mark <:+: gap)
      (run : IsRun name after) (known : String.ofList name ∈ names)
      (noParenthesis : after.head? ≠ some '(') (further : Decomposes after pieces) :
      Decomposes (gap ++ (mark ++ (name ++ after))) (.text gap :: .bare name :: pieces)
  | call {gap name inside after : List Char} {arguments : List (List Char)}
      {pieces : List Piece} (unmarked : ¬ mark <:+: gap) (known : String.ofList name ∈ names)
      (balanced : Balanced inside) (denotes : Denotes inside arguments)
      (further : Decomposes after pieces) :
      Decomposes (gap ++ (mark ++ (name ++ '(' :: (inside ++ ')' :: after))))
        (.text gap :: .call name inside arguments :: pieces)
  | unclosed {gap name tail : List Char} (unmarked : ¬ mark <:+: gap)
      (known : String.ofList name ∈ names)
      (unmatched : ∀ inside after, tail = inside ++ ')' :: after → ¬ Balanced inside) :
      Decomposes (gap ++ (mark ++ (name ++ '(' :: tail))) [.text gap, .unclosed name tail]

theorem Decomposes.source {cs : List Char} {pieces : List Piece} (h : Decomposes cs pieces) :
    pieces.flatMap Piece.source = cs := by
  induction h with
  | rest => simp [Piece.source]
  | word _ _ _ _ ih => simp [Piece.source, ih]
  | bare _ _ _ _ _ ih => simp [Piece.source, ih]
  | call _ _ _ _ _ ih => simp [Piece.source, ih]
  | unclosed => simp [Piece.source]

private theorem unmarked_cons {c : Char} {gap further : List Char}
    (hc : ¬ mark <+: c :: (gap ++ further)) (hgap : ¬ mark <:+: gap) : ¬ mark <:+: c :: gap := by
  intro h
  rcases List.infix_cons_iff.1 h with hpre | hinf
  · exact hc (hpre.trans (List.prefix_append (c :: gap) further))
  · exact hgap hinf

namespace Piece

def consText (c : Char) : List Piece → List Piece
  | text copied :: pieces => text (c :: copied) :: pieces
  | pieces => text [c] :: pieces

def ofTokens : List Token → List Piece
  | [] => [text []]
  | .char c :: tokens => consText c (ofTokens tokens)
  | .word name :: tokens => text [] :: word name :: ofTokens tokens
  | .call m none :: tokens => text [] :: bare m.name.toList :: ofTokens tokens
  | .call m (some inside) :: tokens =>
    text [] :: call m.name.toList inside (ofInside inside) :: ofTokens tokens
  | .unclosed m rest :: _ => [text [], unclosed m.name.toList rest]

private theorem exists_ofTokens_eq (tokens : List Token) :
    ∃ copied pieces, ofTokens tokens = text copied :: pieces := by
  induction tokens with
  | nil => exact ⟨[], [], rfl⟩
  | cons t tokens ih =>
    obtain ⟨copied, pieces, h⟩ := ih
    cases t with
    | char c => exact ⟨c :: copied, pieces, by rw [ofTokens, h, consText]⟩
    | word name => exact ⟨[], _, rfl⟩
    | call m inside => cases inside <;> exact ⟨[], _, rfl⟩
    | unclosed m rest => exact ⟨[], _, rfl⟩

private theorem ofTokens_gap (gap : List Char) {tokens : List Token} {copied : List Char}
    {pieces : List Piece} (h : ofTokens tokens = text copied :: pieces) :
    ofTokens (gap.map .char ++ tokens) = text (gap ++ copied) :: pieces := by
  induction gap with
  | nil => exact h
  | cons c gap ih => rw [List.map_cons, List.cons_append, ofTokens, ih, consText, List.cons_append]

end Piece

/-- The pieces of a text are those behind its first mark, once the text up to the mark is put in
front of them. -/
private theorem ofTokens_scan {gap cs rest : List Char} {t : Token} {pieces : List Piece}
    (unmarked : ¬ mark <:+: gap) (ht : Token.marked cs = (t, rest))
    (hpieces : Piece.ofTokens (t :: Token.scan rest) = .text [] :: pieces) :
    Piece.ofTokens (Token.scan (gap ++ (mark ++ cs))) = .text gap :: pieces := by
  have hscan : Token.scan (mark ++ cs) = t :: Token.scan rest := by
    rw [Token.scan_mark, ht]
  have hgap := Piece.ofTokens_gap gap hpieces
  rw [List.append_nil] at hgap
  rw [Token.scan_gap unmarked, hscan, hgap]

theorem Decomposes.eq_ofTokens {cs : List Char} {pieces : List Piece} (h : Decomposes cs pieces) :
    pieces = Piece.ofTokens (Token.scan cs) := by
  induction h with
  | @rest gap unmarked =>
    have hgap : Piece.ofTokens (gap.map .char ++ []) = [.text (gap ++ [])] :=
      Piece.ofTokens_gap gap rfl
    rw [List.append_nil, List.append_nil] at hgap
    rw [Token.scan_unmarked unmarked, hgap]
  | word unmarked run unknown further ih =>
    have hmarked := Token.marked_word run unknown
    rw [ofTokens_scan unmarked hmarked rfl, ← ih]
  | bare unmarked run known noParenthesis further ih =>
    obtain ⟨m, rfl⟩ := exists_macro known
    have hmarked := Token.marked_bare run noParenthesis
    rw [ofTokens_scan unmarked hmarked rfl, ← ih]
  | @call gap name inside after arguments pieces unmarked known balanced denotes further ih =>
    obtain ⟨m, rfl⟩ := exists_macro known
    have henclosed : enclosed? 0 (inside ++ ')' :: after) = some (inside, after) :=
      enclosed?_eq_some_iff.2 ⟨rfl, balanced⟩
    have hmarked : Token.marked (m.name.toList ++ '(' :: (inside ++ ')' :: after)) =
        (.call m (some inside), after) := by
      rw [Token.marked_paren, henclosed]
    have harguments : arguments = ofInside inside := (denotes_iff balanced).1 denotes
    rw [ofTokens_scan unmarked hmarked rfl, ← ih, harguments]
  | @unclosed gap name tail unmarked known unmatched =>
    obtain ⟨m, rfl⟩ := exists_macro known
    have hmarked : Token.marked (m.name.toList ++ '(' :: tail) = (.unclosed m tail, []) := by
      rw [Token.marked_paren, enclosed?_eq_none_iff.2 unmatched]
    rw [ofTokens_scan unmarked hmarked rfl]

private theorem Decomposes.cons {c : Char} {cs : List Char} {pieces : List Piece}
    (h : Decomposes cs pieces) (hc : ¬ mark <+: c :: cs) :
    Decomposes (c :: cs) (Piece.consText c pieces) := by
  cases h with
  | rest unmarked =>
    have hgap : ¬ mark <+: c :: (cs ++ []) := by simpa using hc
    exact .rest (unmarked_cons hgap unmarked)
  | word unmarked run unknown further =>
    exact .word (unmarked_cons hc unmarked) run unknown further
  | bare unmarked run known bare further =>
    exact .bare (unmarked_cons hc unmarked) run known bare further
  | call unmarked known balanced denotes further =>
    exact .call (unmarked_cons hc unmarked) known balanced denotes further
  | unclosed unmarked known unmatched =>
    exact .unclosed (unmarked_cons hc unmarked) known unmatched

private theorem not_mark_infix_nil : ¬ mark <:+: [] := by
  simp [mark]

private theorem decomposes_marked {cs rest : List Char} {t : Token} {tokens : List Token}
    (ht : Token.marked cs = (t, rest)) (h : Decomposes rest (Piece.ofTokens tokens)) :
    Decomposes (mark ++ cs) (Piece.ofTokens (t :: tokens)) := by
  have hmarked := Token.markedAs_marked cs
  rw [ht] at hmarked
  have hknown (m : Macro) : String.ofList m.name.toList ∈ names := by
    rw [String.ofList_toList, mem_names_iff]
    exact ⟨m, rfl⟩
  cases hmarked with
  | word run unknown => exact .word not_mark_infix_nil run unknown h
  | bare run noParenthesis =>
    exact .bare not_mark_infix_nil run (hknown _) noParenthesis h
  | call m balanced after =>
    exact .call not_mark_infix_nil (hknown m) balanced ((denotes_iff balanced).2 rfl) h
  | unclosed m unmatched => exact .unclosed not_mark_infix_nil (hknown m) unmatched

theorem decomposes_scan (cs : List Char) : Decomposes cs (Piece.ofTokens (Token.scan cs)) := by
  fun_induction Token.scan cs with
  | case1 cs h =>
    obtain rfl := Token.first?_eq_none_iff.1 h
    exact .rest not_mark_infix_nil
  | case2 cs t rest h _ ih =>
    by_cases hmark : mark <+: cs
    · obtain ⟨tail, rfl⟩ := hmark
      rw [Token.first?_mark, Option.some.injEq] at h
      exact decomposes_marked h ih
    · cases cs with
      | nil => simp [Token.first?] at h
      | cons c cs =>
        rw [Token.first?_char hmark] at h
        obtain ⟨rfl, rfl⟩ := Prod.mk.inj (Option.some.inj h)
        exact ih.cons hmark

section

variable (range : TimeRange)

private theorem expand_bare (m : Macro) :
    (Piece.bare m.name.toList).expand range = (Token.call m none).expand range := by
  rw [Piece.expand, String.ofList_toList, expandNamed_name]
  rfl

private theorem expand_call (m : Macro) (inside : List Char) :
    (Piece.call m.name.toList inside (ofInside inside)).expand range =
      (Token.call m (some inside)).expand range := by
  rw [Piece.expand, String.ofList_toList, expandNamed_name]
  rfl

private theorem expand_unclosed (m : Macro) (rest : List Char) :
    (Piece.unclosed m.name.toList rest).expand range = (Token.unclosed m rest).expand range := by
  rw [Piece.expand, String.ofList_toList]
  rfl

private theorem expand_text_nil (pieces : List Piece) :
    ((Piece.text [] :: pieces).mapM (Piece.expand range)).map List.flatten =
      (pieces.mapM (Piece.expand range)).map List.flatten := by
  rw [flatten_mapM_cons]
  cases pieces.mapM (Piece.expand range) <;> rfl

private theorem expand_cons {p : Piece} {t : Token} {pieces : List Piece} {tokens : List Token}
    (hp : p.expand range = t.expand range)
    (h : (pieces.mapM (Piece.expand range)).map List.flatten =
      (tokens.mapM (Token.expand range)).map List.flatten) :
    ((Piece.text [] :: p :: pieces).mapM (Piece.expand range)).map List.flatten =
      ((t :: tokens).mapM (Token.expand range)).map List.flatten := by
  rw [expand_text_nil, flatten_mapM_cons, flatten_mapM_cons, hp, h]

private theorem expand_ofTokens (tokens : List Token) :
    ((Piece.ofTokens tokens).mapM (Piece.expand range)).map List.flatten =
      (tokens.mapM (Token.expand range)).map List.flatten := by
  induction tokens with
  | nil => rfl
  | cons t tokens ih =>
    cases t with
    | char c =>
      obtain ⟨copied, pieces, h⟩ := Piece.exists_ofTokens_eq tokens
      rw [h, flatten_mapM_cons] at ih
      rw [Piece.ofTokens, h, Piece.consText, flatten_mapM_cons, flatten_mapM_cons, ← ih]
      cases pieces.mapM (Piece.expand range) <;> rfl
    | word name =>
      rw [Piece.ofTokens]
      apply expand_cons
      · rfl
      · exact ih
    | call m inside =>
      cases inside with
      | none =>
        rw [Piece.ofTokens]
        exact expand_cons range (expand_bare range m) ih
      | some inside =>
        rw [Piece.ofTokens]
        exact expand_cons range (expand_call range m inside) ih
    | unclosed m rest =>
      -- What stands behind an unclosed macro is never expanded.
      rw [Piece.ofTokens, expand_text_nil, flatten_mapM_cons, flatten_mapM_cons, expand_unclosed]
      rfl

theorem interpolate_eq_mapM (sql : String) {pieces : List Piece}
    (h : Decomposes sql.toList pieces) :
    interpolate sql range =
      (pieces.mapM (Piece.expand range)).map fun texts => String.ofList texts.flatten := by
  have hscan := expand_ofTokens range (Token.scan sql.toList)
  rw [← h.eq_ofTokens] at hscan
  calc interpolate sql range
      = (((Token.scan sql.toList).mapM (Token.expand range)).map List.flatten).map .ofList := by
        rw [interpolate]
        cases (Token.scan sql.toList).mapM (Token.expand range) <;> rfl
    _ = ((pieces.mapM (Piece.expand range)).map List.flatten).map .ofList := by rw [hscan]
    _ = (pieces.mapM (Piece.expand range)).map fun texts => String.ofList texts.flatten := by
        cases pieces.mapM (Piece.expand range) <;> rfl

end

/-- Raw SQL has one decomposition. Its expansion succeeds if that of every piece does, and is then
the pieces' expansions in their order; the error of the first piece without one is its error
otherwise. -/
theorem interpolate_decomposition (sql : String) (range : TimeRange) :
    ∃ pieces, Decomposes sql.toList pieces ∧
      (∀ others, Decomposes sql.toList others → others = pieces) ∧
      pieces.flatMap Piece.source = sql.toList ∧
      ((∃ out, interpolate sql range = .ok out) ↔
        ∀ p ∈ pieces, ∃ text, p.expand range = .ok text) ∧
      (∀ out, interpolate sql range = .ok out ↔
        ∃ texts, List.Forall₂ (fun p text => p.expand range = .ok text) pieces texts ∧
          out = .ofList texts.flatten) ∧
      ∀ e, interpolate sql range = .error e ↔
        ∃ before p after, pieces = before ++ p :: after ∧
          (∀ q ∈ before, ∃ text, q.expand range = .ok text) ∧ p.expand range = .error e := by
  have h := decomposes_scan sql.toList
  have hunique (others : List Piece) (ho : Decomposes sql.toList others) :
      others = Piece.ofTokens (Token.scan sql.toList) := ho.eq_ofTokens
  refine ⟨_, h, hunique, h.source, ?_, ?_, ?_⟩
  · rw [interpolate_eq_mapM range sql h, ← exists_mapM_eq_ok_iff]
    simp only [map_eq_ok_iff]
    constructor
    · intro hout
      obtain ⟨_, texts, htexts, _⟩ := hout
      exact ⟨texts, htexts⟩
    · intro htexts
      obtain ⟨texts, htexts⟩ := htexts
      exact ⟨_, texts, htexts, rfl⟩
  · intro out
    rw [interpolate_eq_mapM range sql h, map_eq_ok_iff]
    simp only [mapM_eq_ok_iff, @eq_comm _ out]
  · intro e
    rw [interpolate_eq_mapM range sql h, map_eq_error_iff, mapM_eq_error_iff]

end QueryFrame
