import QueryFrame.Proofs.Macro.Slicing

/-!
# Reading arguments by offsets

Arguments can be read in one pass that keeps offsets into the text: how many parentheses are open,
which arguments are complete, and where the next one starts. Once the opening parenthesis is read,
one is open up to the last character of the list and the next argument starts at a boundary that has
been passed. So there is always a parenthesis to close, every argument can be cut out, and what is
read is what the arguments are otherwise.
-/

namespace QueryFrame.Arguments

open Checked

/-- How far the reading of arguments has come. -/
structure Reading where
  depth : Nat
  arguments : List (List Char)
  argStart : Nat
  deriving DecidableEq

/-- What reading a character comes to. -/
inductive Turn where
  | on (r : Reading)
  /-- The list is closed: its arguments, and the offset behind it. -/
  | closed (arguments : List (List Char)) (consumed : Nat)
  deriving DecidableEq

/-- Adds the last argument, unless it is blank and the only one. -/
def addLast (arguments : List (List Char)) (last : List Char) : List (List Char) :=
  if arguments = [] ∧ last = [] then arguments else arguments ++ [last]

namespace Reading

def initial : Reading := ⟨0, [], 1⟩

def step (input : List Char) (r : Reading) (index : Nat) (c : Char) : Checked Turn :=
  if c = '(' then pure (.on { r with depth := r.depth + 1 })
  else if c = ',' ∧ r.depth = 1 then do
    let argument ← slice input r.argStart index
    return .on ⟨r.depth, r.arguments ++ [Text.trim argument], index + 1⟩
  else if c = ')' then do
    let depth ← pred r.depth
    if depth = 0 then do
      let last ← slice input r.argStart index
      return .closed (addLast r.arguments (Text.trim last)) (index + 1)
    else return .on { r with depth }
  else pure (.on r)

def run (name : String) (input : List Char) :
    Reading → Nat → List Char → Checked (Except QueryError (List (List Char) × Nat))
  | _, _, [] => pure (.error (.unterminatedMacro name))
  | r, index, c :: rest => do
    match ← r.step input index c with
    | .on r => run name input r (index + c.utf8Size) rest
    | .closed arguments consumed => return .ok (arguments, consumed)

/-- The reading of a text gets to the state when it has read the characters in front. -/
inductive Reaches (input : List Char) : List Char → Reading → Prop
  | start : Reaches input [] initial
  | step {front back : List Char} {c : Char} {r s : Reading} (before : Reaches input front r)
      (next : front ++ c :: back = input)
      (goesOn : (r.step input (byteCount front) c).result = some (.on s)) :
      Reaches input (front ++ [c]) s

/-- A parenthesis is open behind the characters in front, and the argument that has not ended yet
is the last part of them. -/
structure IsAt (r : Reading) (front current : List Char) : Prop where
  opened : 1 ≤ r.depth
  started : ∃ before, before ++ current = front ∧ byteCount before = r.argStart

/-- Where the reading comes to a character: a parenthesis to close is open, and the argument that
has not ended yet begins at a boundary, which has been passed once the opening parenthesis is
read. -/
structure InBounds (r : Reading) (input front : List Char) (c : Char) : Prop where
  opened : c = ')' → 1 ≤ r.depth
  passed : front ≠ [] → r.argStart ≤ byteCount front
  argStart : IsBoundary input r.argStart
  index : IsBoundary input (byteCount front)

/-- What a step comes to if it can cut out the argument that ends. -/
def turn (r : Reading) (current : List Char) (index : Nat) (c : Char) : Turn :=
  if c = ')' ∧ r.depth = 1 then .closed (addLast r.arguments (Text.trim current)) (index + 1)
  else if c = ',' ∧ r.depth = 1 then
    .on ⟨r.depth, r.arguments ++ [Text.trim current], index + 1⟩
  else .on { r with depth := deeper (r.depth - 1) c + 1 }

section

variable {input front current back : List Char} {r s : Reading} {c : Char}

private theorem isAt_opening : IsAt ⟨1, [], 1⟩ ['('] [] :=
  ⟨Nat.le_refl 1, ['('], rfl, rfl⟩

private theorem IsAt.completes_slice (h : r.IsAt front current) (hinput : front ++ back = input) :
    (slice input r.argStart (byteCount front)).Completes input current := by
  obtain ⟨before, rfl, hstart⟩ := h.started
  exact Checked.completes_slice (by rw [← hinput, List.append_assoc]) hstart (by simp [hstart])

private theorem turn_closing (hdepth : r.depth = 1) (index : Nat) :
    r.turn current index ')' =
      .closed (addLast r.arguments (Text.trim current)) (index + 1) := by
  simp [turn, hdepth]

private theorem turn_comma (hdepth : r.depth = 1) (index : Nat) :
    r.turn current index ',' = .on ⟨1, r.arguments ++ [Text.trim current], index + 1⟩ := by
  simp [turn, hdepth]

private theorem turn_deeper {depth : Nat} (hdepth : r.depth = depth + 1)
    (hclose : ¬(c = ')' ∧ depth = 0)) (hcomma : ¬(c = ',' ∧ depth = 0)) (index : Nat) :
    r.turn current index c = .on { r with depth := deeper depth c + 1 } := by
  simp [turn, hdepth, hclose, hcomma]

/-- Behind the opening parenthesis nothing that a step asks for is missing. -/
theorem IsAt.completes_step (h : r.IsAt front current) (hinput : front ++ c :: back = input) :
    (r.step input (byteCount front) c).Completes input (r.turn current (byteCount front) c) := by
  obtain ⟨depth, hdepth⟩ := Nat.exists_eq_add_of_le' h.opened
  have hcut := h.completes_slice hinput
  rw [step]
  split_ifs with hopen hcomma hclose
  · rw [turn_deeper hdepth (by simp [hopen]) (by simp [hopen]), deeper, if_pos hopen, hdepth]
    exact completes_pure input _
  · obtain ⟨rfl, hone⟩ := hcomma
    rw [turn_comma hone, hone]
    exact hcut.bind (completes_pure input _)
  · -- the parenthesis that is open is there to be taken off
    subst hclose
    rw [hdepth]
    apply (completes_pred input depth).bind
    split_ifs with hlast
    · subst hlast
      rw [turn_closing hdepth]
      exact hcut.bind (completes_pure input _)
    · rw [turn_deeper hdepth (by simp [hlast]) (by simp)]
      have hfewer : deeper depth ')' + 1 = depth := by
        simp [deeper]
        omega
      rw [hfewer]
      exact completes_pure input _
  · have hcomma' : ¬(c = ',' ∧ depth = 0) := by simpa [hdepth] using hcomma
    rw [turn_deeper hdepth (by simp [hclose]) hcomma', deeper, if_neg hopen, if_neg hclose,
      ← hdepth]
    exact completes_pure input _

private theorem isAt_comma (front : List Char) (arguments : List (List Char)) :
    IsAt ⟨1, arguments, byteCount front + 1⟩ (front ++ [',']) [] := by
  have hbyte : ','.utf8Size = 1 := rfl
  exact ⟨Nat.le_refl 1, front ++ [','], by simp, by simp [hbyte]⟩

private theorem IsAt.deeper (h : r.IsAt front current) (c : Char) (depth : Nat) :
    IsAt { r with depth := depth + 1 } (front ++ [c]) (current ++ [c]) := by
  obtain ⟨before, rfl, hstart⟩ := h.started
  exact ⟨Nat.le_add_left 1 depth, before, by simp, hstart⟩

theorem IsAt.of_turn (h : r.IsAt front current)
    (hturn : r.turn current (byteCount front) c = .on s) :
    ∃ current', s.IsAt (front ++ [c]) current' := by
  rw [turn] at hturn
  split_ifs at hturn with hlast hcomma
  · obtain rfl := Turn.on.inj hturn
    obtain ⟨rfl, hdepth⟩ := hcomma
    rw [hdepth]
    exact ⟨[], isAt_comma front _⟩
  · obtain rfl := Turn.on.inj hturn
    exact ⟨current ++ [c], h.deeper c _⟩

private theorem completes_opening (input : List Char) :
    (initial.step input 0 '(').Completes input (.on ⟨1, [], 1⟩) :=
  completes_pure input _

theorem Reaches.isAt {tail : List Char} (h : Reaches ('(' :: tail) front r) :
    (front = [] ∧ r = initial) ∨ ∃ current, r.IsAt front current := by
  induction h with
  | start => exact .inl ⟨rfl, rfl⟩
  | @step front back c r s before next goesOn ih =>
    right
    rcases ih with hstart | hcurrent
    · obtain ⟨rfl, rfl⟩ := hstart
      obtain ⟨rfl, -⟩ := List.cons.inj next
      have hone := (completes_opening ('(' :: tail)).result_eq
      rw [byteCount_nil, hone, Option.some.injEq, Turn.on.injEq] at goesOn
      subst goesOn
      exact ⟨[], isAt_opening⟩
    · obtain ⟨current, hcurrent⟩ := hcurrent
      rw [(hcurrent.completes_step next).result_eq, Option.some.injEq] at goesOn
      exact hcurrent.of_turn goesOn

theorem IsAt.inBounds (h : r.IsAt front current) (hinput : front ++ c :: back = input) :
    r.InBounds input front c := by
  obtain ⟨before, rfl, hstart⟩ := h.started
  subst hinput
  refine ⟨fun _ => h.opened, fun _ => ?_, ?_, isBoundary_append _ _⟩
  · rw [byteCount_append, hstart]
    exact Nat.le_add_right _ _
  · rw [← hstart, List.append_assoc]
    exact isBoundary_append before _

theorem Reaches.inBounds {tail : List Char} (h : Reaches ('(' :: tail) front r)
    (hinput : front ++ c :: back = '(' :: tail) : r.InBounds ('(' :: tail) front c := by
  rcases h.isAt with hstart | hcurrent
  · obtain ⟨rfl, rfl⟩ := hstart
    obtain ⟨rfl, -⟩ := List.cons.inj hinput
    exact ⟨by simp, by simp, isBoundary_append ['('] tail, isBoundary_append [] ('(' :: tail)⟩
  · obtain ⟨current, hcurrent⟩ := hcurrent
    exact hcurrent.inBounds hinput

end

private theorem foldr_consFirst_cons (current segment : List Char) (segs : List (List Char)) :
    current.foldr consFirst (segment :: segs) = (current ++ segment) :: segs := by
  induction current with
  | nil => rfl
  | cons c current ih => rw [List.foldr_cons, ih, consFirst, List.cons_append]

private theorem addLast_eq (arguments : List (List Char)) (last : List Char) :
    addLast arguments last =
      if arguments ++ [last] = [[]] then [] else arguments ++ [last] := by
  cases arguments with
  | nil => by_cases h : last = [] <;> simp [addLast, h]
  | cons a arguments => simp [addLast]

/-- What reading the rest of a text comes to when the text in front of it ends inside of an
argument. -/
def outcome (name : String) (r : Reading) (front current rest : List Char) :
    Except QueryError (List (List Char) × Nat) :=
  match enclosed? (r.depth - 1) rest with
  | none => .error (.unterminatedMacro name)
  | some (inside, _) =>
    let segs := current.foldr consFirst (segments (r.depth - 1) inside)
    let arguments := r.arguments ++ segs.map Text.trim
    .ok (if arguments = [[]] then [] else arguments, byteCount (front ++ (inside ++ [')'])))

section

variable {name : String} {r : Reading} {front current : List Char} {depth : Nat} {c : Char}

private theorem outcome_closing (hdepth : r.depth = 1) (rest : List Char) :
    outcome name r front current (')' :: rest) =
      .ok (addLast r.arguments (Text.trim current), byteCount front + 1) := by
  have hclosed : enclosed? 0 (')' :: rest) = some ([], rest) := by simp [enclosed?_cons]
  have hbyte : ')'.utf8Size = 1 := rfl
  rw [outcome, hdepth, Nat.sub_self, hclosed]
  simp [segments, foldr_consFirst_cons, addLast_eq, hbyte]

private theorem outcome_comma (hdepth : r.depth = 1) (rest : List Char) :
    outcome name r front current (',' :: rest) =
      outcome name ⟨1, r.arguments ++ [Text.trim current], byteCount front + 1⟩
        (front ++ [',']) [] rest := by
  have hdeeper : deeper 0 ',' = 0 := rfl
  rw [outcome, outcome, hdepth, Nat.sub_self, enclosed?_cons, if_neg (by simp), hdeeper]
  cases enclosed? 0 rest with
  | none => rfl
  | some found => simp [segments_cons, foldr_consFirst_cons]

private theorem outcome_deeper (hdepth : r.depth = depth + 1) (hclose : ¬(c = ')' ∧ depth = 0))
    (hcomma : ¬(c = ',' ∧ depth = 0)) (rest : List Char) :
    outcome name r front current (c :: rest) =
      outcome name { r with depth := deeper depth c + 1 } (front ++ [c]) (current ++ [c]) rest := by
  rw [outcome, outcome, hdepth, Nat.add_sub_cancel, enclosed?_cons, if_neg hclose]
  cases hrest : enclosed? (deeper depth c) rest with
  | none => simp [hrest]
  | some found => simp [hrest, segments_cons, hcomma]

theorem IsAt.completes_run (name : String) {input rest : List Char} (h : r.IsAt front current)
    (hinput : front ++ rest = input) :
    (run name input r (byteCount front) rest).Completes input
      (outcome name r front current rest) := by
  induction rest generalizing r front current with
  | nil =>
    rw [run, outcome, enclosed?]
    exact completes_pure input _
  | cons c rest ih =>
    have hstep := h.completes_step hinput
    have hbytes : byteCount front + c.utf8Size = byteCount (front ++ [c]) := by simp
    have hnext : front ++ [c] ++ rest = input := by simpa using hinput
    rw [run, hbytes]
    apply hstep.bind
    -- the cases are those of `enclosed?` and `segments`
    by_cases hclose : c = ')' ∧ r.depth = 1
    · obtain ⟨rfl, hdepth⟩ := hclose
      rw [turn_closing hdepth, outcome_closing hdepth]
      exact completes_pure input _
    · by_cases hcomma : c = ',' ∧ r.depth = 1
      · obtain ⟨rfl, hdepth⟩ := hcomma
        rw [turn_comma hdepth, outcome_comma hdepth]
        exact ih (isAt_comma front _) hnext
      · obtain ⟨depth, hdepth⟩ := Nat.exists_eq_add_of_le' h.opened
        have hclose' : ¬(c = ')' ∧ depth = 0) := by simpa [hdepth] using hclose
        have hcomma' : ¬(c = ',' ∧ depth = 0) := by simpa [hdepth] using hcomma
        rw [turn_deeper hdepth hclose' hcomma', outcome_deeper hdepth hclose' hcomma']
        exact ih (h.deeper c _) hnext

end

end Reading

/-- Reads the arguments at the start of a text, by offsets. -/
def readByOffsets (name : String) (input : List Char) :
    Checked (Except QueryError (List (List Char) × Nat)) :=
  Reading.run name input .initial 0 input

theorem completes_readByOffsets (name : String) (tail : List Char) :
    (readByOffsets name ('(' :: tail)).Completes ('(' :: tail) (read name ('(' :: tail)) := by
  have hrest := Reading.isAt_opening.completes_run name (rfl : ['('] ++ tail = '(' :: tail)
  have houtcome : Reading.outcome name ⟨1, [], 1⟩ ['('] [] tail = read name ('(' :: tail) := by
    rw [Reading.outcome]
    cases hfound : enclosed? 0 tail with
    | none => rw [read_of_unclosed hfound]
    | some found =>
      rw [read_of_enclosed? hfound, ofInside_eq]
      rfl
  rw [houtcome] at hrest
  exact (Reading.completes_opening _).bind hrest

end QueryFrame.Arguments
