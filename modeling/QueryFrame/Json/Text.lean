import QueryFrame.Json.Reader

/-!
# Strings of a document

A string is read after its opening quote up to the closing one. Its bytes, with every escape
replaced by the encoding of its character, must be valid UTF-8. A surrogate escape stands for a
character only together with its other half. Strings that are skipped are held to less: only
the form of their escapes counts.
-/

namespace QueryFrame.Json

def hexDigit? (b : UInt8) : Option Nat :=
  if '0'.toUInt8 ≤ b ∧ b ≤ '9'.toUInt8 then some (b - '0'.toUInt8).toNat
  else if 'a'.toUInt8 ≤ b ∧ b ≤ 'f'.toUInt8 then some (b - 'a'.toUInt8 + 10).toNat
  else if 'A'.toUInt8 ≤ b ∧ b ≤ 'F'.toUInt8 then some (b - 'A'.toUInt8 + 10).toNat
  else none

def codeUnit : Reader Nat
  | a :: b :: c :: d :: s =>
    match hexDigit? a, hexDigit? b, hexDigit? c, hexDigit? d with
    | some a, some b, some c, some d =>
      .ok (((a * 16 + b) * 16 + c) * 16 + d, ⟨s, by simp only [List.length_cons]; omega⟩)
    | _, _, _, _ => .error .malformed
  | _ => .error .truncated

/-- The byte that a single letter after a backslash stands for. -/
def letterEscape? (b : UInt8) : Option UInt8 :=
  if b = '"'.toUInt8 ∨ b = '\\'.toUInt8 ∨ b = '/'.toUInt8 then some b
  else if b = 'b'.toUInt8 then some 0x08
  else if b = 'f'.toUInt8 then some 0x0C
  else if b = 'n'.toUInt8 then some 0x0A
  else if b = 'r'.toUInt8 then some 0x0D
  else if b = 't'.toUInt8 then some 0x09
  else none

/-- Reads the second half of a surrogate pair with the backslash before it. -/
def lowSurrogate : Reader Nat
  | [] => .error .truncated
  | b :: s =>
    if b ≠ '\\'.toUInt8 then .error .malformed
    else
      match s with
      | [] => .error .truncated
      | c :: t =>
        if c ≠ 'u'.toUInt8 then .error .malformed
        else do
          let (low, rest) ← codeUnit t
          if 0xDC00 ≤ low ∧ low ≤ 0xDFFF then
            return (low, (rest.left.after c).left.after b)
          else .error .malformed

/-- Reads the character of a `\u` escape after its letter. -/
def codePoint : Reader Char := fun s => do
  let (high, rest) ← codeUnit s
  if 0xDC00 ≤ high ∧ high ≤ 0xDFFF then .error .malformed
  else if 0xD800 ≤ high ∧ high ≤ 0xDBFF then
    let (low, rest) ← Reader.after lowSurrogate rest
    return (.ofNat (0x10000 + (high - 0xD800) * 0x400 + (low - 0xDC00)), rest)
  else return (.ofNat high, rest)

/-- Reads an escape after its backslash: the bytes it stands for. -/
def escape : Reader Bytes
  | [] => .error .truncated
  | b :: s =>
    match letterEscape? b with
    | some c => .ok ([c], .tail b s)
    | none =>
      if b = 'u'.toUInt8 then do
        let (c, rest) ← Reader.after codePoint (Rest.tail b s)
        return (String.utf8EncodeChar c, rest)
      else .error .malformed

/-- Reads up to the closing quote: the bytes that the string stands for. -/
def content (s : Bytes) : Except Failure (Bytes × Rest s) :=
  match s with
  | [] => .error .truncated
  | b :: s =>
    if b = '"'.toUInt8 then .ok ([], .tail b s)
    else if b = '\\'.toUInt8 then do
      let (piece, rest) ← escape s
      let (more, last) ← content rest.val
      return (piece ++ more, (rest.of last.left).left.after b)
    else if b < 0x20 then .error .malformed
    else do
      let (more, last) ← content s
      return (b :: more, last.left.after b)
termination_by s.length
decreasing_by all_goals (simp only [List.length_cons]; omega)

def text : Reader String := fun s => do
  let (bytes, rest) ← content s
  match String.fromUTF8? ⟨bytes.toArray⟩ with
  | some value => return (value, rest)
  | none => .error .malformed

def skipEscape (s : Bytes) : Except Failure (Rest s) :=
  match s with
  | [] => .error .truncated
  | b :: s =>
    match letterEscape? b with
    | some _ => .ok (.tail b s)
    | none =>
      if b = 'u'.toUInt8 then do
        let (_, rest) ← Reader.after codeUnit (Rest.tail b s)
        return rest
      else .error .malformed

def skipText (s : Bytes) : Except Failure (Rest s) :=
  match s with
  | [] => .error .truncated
  | b :: s =>
    if b = '"'.toUInt8 then .ok (.tail b s)
    else if b = '\\'.toUInt8 then do
      let rest ← skipEscape s
      let last ← skipText rest.val
      return (rest.of last.left).left.after b
    else if b < 0x20 then .error .malformed
    else do
      let last ← skipText s
      return last.left.after b
termination_by s.length
decreasing_by all_goals (simp only [List.length_cons]; omega)

end QueryFrame.Json
