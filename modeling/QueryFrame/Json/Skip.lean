import QueryFrame.Json.Number
import QueryFrame.Json.Text

/-!
# Passing over a value

A value that no one asks for is passed over: only its grammar is looked at. Nesting may go to
any depth, since the open brackets are kept in a list, innermost first.
-/

namespace QueryFrame.Json

inductive Bracket where
  | list
  | object
  deriving DecidableEq, Repr

def Bracket.close : Bracket → UInt8
  | .list => ']'.toUInt8
  | .object => '\x7d'.toUInt8

/-- Passes over a literal, a string or a number after its first byte `b`. -/
def skipScalar (b : UInt8) (s : Bytes) : Except Failure (Left s) :=
  if b = 'n'.toUInt8 then keyword (ascii "ull") s
  else if b = 't'.toUInt8 then keyword (ascii "rue") s
  else if b = 'f'.toUInt8 then keyword (ascii "alse") s
  else if b = '"'.toUInt8 then (skipText s).map Rest.left
  else if startsNumber b then (number .malformed b s).map Prod.snd
  else .error .malformed

/-- Passes over a scalar or an opening bracket; the bracket, if it is one. -/
def skipAtom : Reader (Option Bracket) := fun s =>
  match next? s with
  | none => .error .truncated
  | some (b, rest) =>
    if b = '['.toUInt8 then .ok (some .list, rest)
    else if b = '\x7b'.toUInt8 then .ok (some .object, rest)
    else (skipScalar b rest.val).map fun left => (none, rest.of left)

/-- Passes over what stands in a bracket before a value: in an object, the key and a colon. -/
def skipKey (bracket : Bracket) (s : Bytes) : Except Failure (Left s) :=
  match bracket with
  | .list => .ok (.all s)
  | .object => do
    let rest ← mark '"'.toUInt8 s
    let rest := rest.of (← skipText rest.val).left
    return (rest.of (← mark ':'.toUInt8 rest.val).left).left

/-- Passes over what is left of the open brackets, innermost first, up to the last that closes. -/
def skipInside (brackets : List Bracket) (atStart : Bool) (s : Bytes) :
    Except Failure (Left s) :=
  match brackets with
  | [] => .ok (.all s)
  | bracket :: outer =>
    match next? s with
    | none => .error .truncated
    | some (b, rest) =>
      if b = bracket.close then
        (skipInside outer false rest.val).map fun left => (rest.of left).left
      else do
        let left ← separator atStart s
        let left := left.of (← skipKey bracket left.val)
        let (opened, rest) ← skipAtom left.val
        let last ← skipInside (opened.toList ++ bracket :: outer) opened.isSome rest.val
        return left.of (rest.of last).left
termination_by s.length
decreasing_by
  · exact rest.property
  · exact Nat.lt_of_lt_of_le rest.property left.property

def skip (s : Bytes) : Except Failure (Rest s) := do
  let (opened, rest) ← skipAtom s
  return rest.of (← skipInside opened.toList true rest.val)

end QueryFrame.Json
