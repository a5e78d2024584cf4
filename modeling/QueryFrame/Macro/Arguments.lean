import QueryFrame.Text.Blank

/-!
# Arguments of macros

The arguments of a macro stand between parentheses, separated by commas. Parentheses inside
belong to an argument together with the commas between them, and the blanks around an argument
do not count.
-/

namespace QueryFrame.Arguments

/-- Splits a text that follows an opening parenthesis at the parenthesis that closes it. `depth`
counts the parentheses opened since. -/
def enclosed? (depth : Nat) : List Char → Option (List Char × List Char)
  | [] => none
  | c :: rest =>
    if c = ')' ∧ depth = 0 then some ([], rest)
    else
      let deeper := if c = '(' then depth + 1 else if c = ')' then depth - 1 else depth
      (enclosed? deeper rest).map fun (inside, after) => (c :: inside, after)

theorem enclosed?_eq_some {depth : Nat} {cs inside after : List Char}
    (h : enclosed? depth cs = some (inside, after)) : cs = inside ++ ')' :: after := by
  induction cs generalizing depth inside with
  | nil => simp [enclosed?] at h
  | cons c rest ih =>
    rw [enclosed?] at h
    split at h
    · next hc => simp_all
    · obtain ⟨⟨inside', after'⟩, hrest, heq⟩ := Option.map_eq_some_iff.1 h
      simp only [Prod.mk.injEq] at heq
      obtain ⟨rfl, rfl⟩ := heq
      rw [ih hrest, List.cons_append]

def consFirst (c : Char) : List (List Char) → List (List Char)
  | [] => [[c]]
  | segment :: segments => (c :: segment) :: segments

/-- Splits a text at the commas that are in no parentheses. `depth` counts the open ones. -/
def segments (depth : Nat) : List Char → List (List Char)
  | [] => [[]]
  | c :: rest =>
    if c = ',' ∧ depth = 0 then [] :: segments 0 rest
    else
      let deeper := if c = '(' then depth + 1 else if c = ')' then depth - 1 else depth
      consFirst c (segments deeper rest)

/-- The arguments between two parentheses. Nothing but blanks is no argument at all. -/
def ofInside (inside : List Char) : List (List Char) :=
  match (segments 0 inside).map Text.trim with
  | [[]] => []
  | arguments => arguments

end QueryFrame.Arguments
