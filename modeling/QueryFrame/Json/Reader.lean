import QueryFrame.Json.Failure

/-!
# Readers

A reader takes a value off the front of a text of bytes. What it leaves is shorter than what it
was given, and its type says so: a loop of readers ends with the text.
-/

namespace QueryFrame.Json

/-- A text, as the bytes of its encoding. -/
abbrev Bytes := List UInt8

def ascii (s : String) : Bytes := s.toList.map Char.toUInt8

/-- What is left of a text after something has been taken off its front. -/
abbrev Rest (s : Bytes) := { rest : Bytes // rest.length < s.length }

/-- What is left of a text after something, or nothing, has been taken off its front. -/
abbrev Left (s : Bytes) := { left : Bytes // left.length ≤ s.length }

namespace Left

def all (s : Bytes) : Left s := ⟨s, Nat.le_refl _⟩

def of {s : Bytes} (l : Left s) (m : Left l.val) : Left s :=
  ⟨m.val, Nat.le_trans m.property l.property⟩

def after (b : UInt8) {s : Bytes} (l : Left s) : Rest (b :: s) :=
  ⟨l.val, Nat.lt_succ_of_le l.property⟩

end Left

namespace Rest

def tail (b : UInt8) (s : Bytes) : Rest (b :: s) := (Left.all s).after b

def left {s : Bytes} (r : Rest s) : Left s := ⟨r.val, Nat.le_of_lt r.property⟩

def of {s : Bytes} (r : Rest s) (l : Left r.val) : Rest s :=
  ⟨l.val, Nat.lt_of_le_of_lt l.property r.property⟩

end Rest

/-- Takes a value off the front of a text. -/
abbrev Reader (α : Type) := (s : Bytes) → Except Failure (α × Rest s)

def Reader.after {α : Type} (read : Reader α) {s : Bytes} (r : Rest s) :
    Except Failure (α × Rest s) := do
  let (value, t) ← read r.val
  return (value, r.of t.left)

/-- The four blank bytes that may stand between the parts of a document. -/
def isBlank (b : UInt8) : Bool := b == 0x20 || b == 0x09 || b == 0x0A || b == 0x0D

/-- The first byte that is not blank, and what follows it. -/
def next? : (s : Bytes) → Option (UInt8 × Rest s)
  | [] => none
  | b :: s =>
    if isBlank b then (next? s).map fun (c, r) => (c, r.left.after b)
    else some (b, .tail b s)

/-- Passes over a mark: one byte, with blanks before it. -/
def mark (b : UInt8) (s : Bytes) : Except Failure (Rest s) :=
  match next? s with
  | none => .error .truncated
  | some (c, rest) => if c = b then .ok rest else .error .malformed

/-- Passes over what stands between two parts of a bracket: a comma, and nothing before the first
part. -/
def separator (atStart : Bool) (s : Bytes) : Except Failure (Left s) :=
  if atStart then .ok (.all s) else (mark ','.toUInt8 s).map Rest.left

def keyword : (word s : Bytes) → Except Failure (Left s)
  | [], s => .ok (.all s)
  | _ :: _, [] => .error .truncated
  | w :: word, b :: s =>
    if b = w then (keyword word s).map fun l => (l.after b).left
    else .error .malformed

/-- Passes over the end of a document: blank bytes only. -/
def finish (s : Bytes) : Except Failure Unit :=
  match next? s with
  | none => .ok ()
  | some _ => .error .malformed

end QueryFrame.Json
