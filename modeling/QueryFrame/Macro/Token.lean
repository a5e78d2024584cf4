import QueryFrame.Macro
import QueryFrame.Macro.Arguments

/-!
# Tokens of raw SQL

Raw SQL is taken apart from the left into tokens. `$__` and the longest run of name characters
behind it form a token of their own: the use of a macro if the run is a macro's name, with the
parenthesized text that follows at once, and a word of the query otherwise. Every other
character is a token. Put together again, the tokens give the text back.
-/

namespace QueryFrame

/-- The characters in front of a macro's name. -/
def Macro.mark : List Char := ['$', '_', '_']

def Macro.isNameChar (c : Char) : Bool := c.isAlphanum || c == '_'

/-- A part of raw SQL. -/
inductive Token where
  /-- A character outside of all names with a mark. -/
  | char (c : Char)
  /-- A name with a mark, possibly the empty one, that is no macro's. -/
  | word (name : List Char)
  /-- The use of a macro, with the text between its parentheses if it has any. -/
  | call (m : Macro) (inside : Option (List Char))
  /-- The use of a macro whose parenthesis is never closed, with all the text after it. -/
  | unclosed (m : Macro) (rest : List Char)
  deriving DecidableEq, Repr

namespace Token

def source : Token → List Char
  | .char c => [c]
  | .word name => Macro.mark ++ name
  | .call m none => Macro.mark ++ m.name.toList
  | .call m (some inside) => Macro.mark ++ m.name.toList ++ '(' :: inside ++ [')']
  | .unclosed m rest => Macro.mark ++ m.name.toList ++ '(' :: rest

/-- The token that begins with a mark, by the text behind the mark, and what follows it. -/
def marked (cs : List Char) : Token × List Char :=
  let name := cs.takeWhile Macro.isNameChar
  let after := cs.dropWhile Macro.isNameChar
  match Macro.ofName? (.ofList name) with
  | none => (.word name, after)
  | some m =>
    match after with
    | '(' :: tail =>
      match Arguments.enclosed? 0 tail with
      | some (inside, beyond) => (.call m (some inside), beyond)
      | none => (.unclosed m tail, [])
    | _ => (.call m none, after)

/-- The token at the start of a text, and what follows it. -/
def first? : List Char → Option (Token × List Char)
  | [] => none
  | '$' :: '_' :: '_' :: rest => some (marked rest)
  | c :: rest => some (.char c, rest)

private theorem source_marked (cs : List Char) :
    (marked cs).1.source ++ (marked cs).2 = Macro.mark ++ cs := by
  have whole := List.takeWhile_append_dropWhile (p := Macro.isNameChar) (l := cs)
  rw [marked]
  generalize cs.takeWhile Macro.isNameChar = name at whole ⊢
  generalize cs.dropWhile Macro.isNameChar = after at whole ⊢
  subst whole
  split
  · simp [source]
  · next m hm =>
    have hname : m.name.toList = name := by simp [Macro.name_of_ofName? hm]
    split
    · split
      · next inside beyond hinside => simp [source, hname, Arguments.enclosed?_eq_some hinside]
      · simp [source, hname]
    · simp [source, hname]

theorem first?_eq_none_iff {cs : List Char} : first? cs = none ↔ cs = [] := by
  rw [first?.eq_def]
  split <;> simp

theorem source_first? {cs rest : List Char} {t : Token} (h : first? cs = some (t, rest)) :
    t.source ++ rest = cs := by
  rw [first?.eq_def] at h
  split at h
  · simp at h
  · next tail =>
    rw [Option.some.injEq] at h
    have := source_marked tail
    rw [h] at this
    exact this
  · simp only [Option.some.injEq, Prod.mk.injEq] at h
    obtain ⟨rfl, rfl⟩ := h
    rfl

private theorem source_ne_nil (t : Token) : t.source ≠ [] := by
  cases t with
  | call m inside => cases inside <;> simp [source, Macro.mark]
  | _ => simp [source, Macro.mark]

theorem length_of_first? {cs rest : List Char} {t : Token} (h : first? cs = some (t, rest)) :
    rest.length < cs.length := by
  have := List.length_pos_iff.2 t.source_ne_nil
  rw [← source_first? h, List.length_append]
  omega

def scan (cs : List Char) : List Token :=
  match h : first? cs with
  | none => []
  | some (t, rest) =>
    have := length_of_first? h
    t :: scan rest
termination_by cs.length

theorem flatMap_source_scan (cs : List Char) : (scan cs).flatMap source = cs := by
  fun_induction scan cs with
  | case1 cs h => simp [first?_eq_none_iff.1 h]
  | case2 cs t rest h _ ih => rw [List.flatMap_cons, ih, source_first? h]

end Token

end QueryFrame
