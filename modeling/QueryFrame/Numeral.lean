/-!
# Bounded decimal numerals

A numeral is an optional `+` and one or more ASCII digits, read from the left. A text that is
none, or whose value passes the bound, is refused with the first defect met on the way.
-/

namespace QueryFrame.Numeral

/-- What keeps a text from being a numeral below its bound. -/
inductive Defect where
  | empty
  | invalidDigit
  | tooLarge
  deriving DecidableEq, Repr

def Defect.message : Defect → String
  | .empty => "cannot parse integer from empty string"
  | .invalidDigit => "invalid digit found in string"
  | .tooLarge => "number too large to fit in target type"

def digit? (c : Char) : Option Nat :=
  if c.isDigit then some (c.toNat - '0'.toNat) else none

/-- Reads digits onto `value`. A character that is no digit is refused before the size of the
number is looked at. -/
def readDigits (limit : Nat) : Nat → List Char → Except Defect Nat
  | value, [] => .ok value
  | value, c :: rest =>
    match digit? c with
    | none => .error .invalidDigit
    | some d =>
      if 10 * value + d ≤ limit then readDigits limit (10 * value + d) rest
      else .error .tooLarge

/-- Reads a numeral of value at most `limit`. A sign without digits is an invalid digit. -/
def read (limit : Nat) : List Char → Except Defect Nat
  | [] => .error .empty
  | '+' :: [] => .error .invalidDigit
  | '+' :: rest => readDigits limit 0 rest
  | cs => readDigits limit 0 cs

end QueryFrame.Numeral
