import QueryFrame.Binary64.Rounding
import QueryFrame.Json.Reader

/-!
# Numbers of a document

A number is read as its digits first and valued afterwards. Its significand is what of its
digits fits in 64 bits: later digits before the point only raise the exponent, later digits
behind it are dropped. The significand is rounded to floating point and then scaled by powers
of ten, one rounding each.
-/

namespace QueryFrame.Json

structure Number where
  negative : Bool
  whole : List Nat
  fraction : Option (List Nat)
  /-- Whether the exponent is negative, and its digits. -/
  exponent : Option (Bool × List Nat)
  deriving DecidableEq, Repr

def decimalDigit? (b : UInt8) : Option Nat :=
  if '0'.toUInt8 ≤ b ∧ b ≤ '9'.toUInt8 then some (b - '0'.toUInt8).toNat else none

def digits : (s : Bytes) → List Nat × Left s
  | [] => ([], .all [])
  | b :: s =>
    match decimalDigit? b with
    | some d => (d :: (digits s).1, ((digits s).2.after b).left)
    | none => ([], .all (b :: s))

/-- Reads one or more digits. Where the text ends before the first, `ended` is the failure. -/
def someDigits (ended : Failure) : Reader (List Nat)
  | [] => .error ended
  | b :: s =>
    match decimalDigit? b with
    | some d => .ok (d :: (digits s).1, (digits s).2.after b)
    | none => .error .malformed

/-- Reads the digits before the point; the first byte of the number is taken already. -/
def wholeDigits (ended : Failure) (b : UInt8) (s : Bytes) : Except Failure (List Nat × Left s) :=
  match decimalDigit? b with
  | some d => .ok (d :: (digits s).1, (digits s).2)
  | none => do
    let (ds, rest) ← someDigits ended s
    return (ds, rest.left)

def fractionDigits (ended : Failure) : (s : Bytes) → Except Failure (Option (List Nat) × Left s)
  | [] => .ok (none, .all [])
  | b :: s =>
    if b = '.'.toUInt8 then do
      let (ds, rest) ← someDigits ended s
      return (some ds, (rest.left.after b).left)
    else .ok (none, .all (b :: s))

/-- Takes the sign off an exponent: whether it is negative. -/
def exponentSign : (s : Bytes) → Bool × Left s
  | [] => (false, .all [])
  | b :: s =>
    if b = '-'.toUInt8 then (true, (Rest.tail b s).left)
    else if b = '+'.toUInt8 then (false, (Rest.tail b s).left)
    else (false, .all (b :: s))

def exponentDigits (ended : Failure) :
    (s : Bytes) → Except Failure (Option (Bool × List Nat) × Left s)
  | [] => .ok (none, .all [])
  | b :: s =>
    if b = 'e'.toUInt8 ∨ b = 'E'.toUInt8 then do
      let (negative, left) := exponentSign s
      let (ds, rest) ← someDigits ended left.val
      return (some (negative, ds), ((left.of rest.left).after b).left)
    else .ok (none, .all (b :: s))

def startsNumber (b : UInt8) : Bool :=
  b == '-'.toUInt8 || (decimalDigit? b).isSome

/-- Reads a number after its first byte `b`. Where the text ends inside the number, `ended` is the
failure. No zero stands before another digit of the whole part. -/
def number (ended : Failure) (b : UInt8) (s : Bytes) : Except Failure (Number × Left s) := do
  let (whole, left) ← wholeDigits ended b s
  if whole.head? = some 0 ∧ whole ≠ [0] then .error .malformed
  else
    let (fraction, left') ← fractionDigits ended left.val
    let left := left.of left'
    let (exponent, left') ← exponentDigits ended left.val
    return (⟨b == '-'.toUInt8, whole, fraction, exponent⟩, left.of left')

namespace Number

/-- Appends digits to a significand while it fits in 64 bits; the digits left over. -/
def absorb : Nat → List Nat → Nat × List Nat
  | value, [] => (value, [])
  | value, d :: ds =>
    if 10 * value + d < UInt64.size then absorb (10 * value + d) ds else (value, d :: ds)

/-- Divides by a power of ten, at most the 308th at a time. -/
def shrink (x : Binary64) (power : Nat) : Binary64 :=
  if power ≤ 308 then x.div (.powerOfTen power)
  else if x.isZero then x
  else shrink (x.div (.powerOfTen 308)) (power - 308)
termination_by power

/-- A significand times a power of ten; none where that passes the finite numbers. -/
def scale? (significand : Nat) (exponent : Int) : Option Binary64 :=
  let x := Binary64.nearest significand
  if exponent < 0 then some (shrink x (-exponent).toNat)
  else if x.isZero then some x
  else if 308 < exponent then none
  else
    let y := x.mul (.powerOfTen exponent.toNat)
    if y.isFinite then some y else none

/-- The greatest exponent that is looked at as a number. -/
def exponentLimit : Nat := 0x7fffffff

/-- The magnitude of a number as floating point; none where it is too large. -/
def magnitude? (n : Number) : Option Binary64 :=
  let (front, raised) := absorb 0 n.whole
  let behind := n.fraction.getD []
  let (significand, dropped) := absorb front behind
  let point : Int := raised.length - (behind.length - dropped.length : Nat)
  match n.exponent with
  | none => scale? significand point
  | some (isNegative, ds) =>
    let size := ds.foldl (fun value d => 10 * value + d) 0
    if exponentLimit < size then
      if significand = 0 ∨ isNegative then some .zero else none
    else scale? significand (if isNegative then point - size else point + size)

/-- The value of a number without point and exponent that fits in 64 bits. A negative number
must fit in a signed word, and zero has no negative integer. -/
def integer? (n : Number) : Option Int :=
  match n.fraction, n.exponent, absorb 0 n.whole with
  | none, none, (value, []) =>
    if !n.negative then some value
    else if 0 < value ∧ value ≤ UInt64.size / 2 then some (-value)
    else none
  | _, _, _ => none

/-- What a number is read as; none where it is too large for a finite one. -/
def found? (n : Number) : Option Found :=
  match n.integer? with
  | some value => some (.integer value)
  | none => n.magnitude?.map fun x => .number (if n.negative then x.neg else x)

end Number

end QueryFrame.Json
