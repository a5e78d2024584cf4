import QueryFrame.Json.Number
import QueryFrame.Json.Text

/-!
# Values of a given kind

Readers for the kinds of values that records hold. A value of another kind is named in the
failure: a scalar is read to its end first, a list or an object is named at its bracket.
-/

namespace QueryFrame.Json

/-- The failure at a value of another kind than `wanted`, which begins with the byte `b`. -/
def mismatch (wanted : String) (b : UInt8) (s : Bytes) : Failure :=
  let report (found : Except Failure Found) : Failure :=
    match found with
    | .ok found => .unexpected found wanted
    | .error failure => failure
  if b = 'n'.toUInt8 then report ((keyword (ascii "ull") s).map fun _ => .null)
  else if b = 't'.toUInt8 then report ((keyword (ascii "rue") s).map fun _ => .boolean true)
  else if b = 'f'.toUInt8 then report ((keyword (ascii "alse") s).map fun _ => .boolean false)
  else if b = '"'.toUInt8 then report ((text s).map fun (value, _) => .text value)
  else if b = '['.toUInt8 then report (.ok .sequence)
  else if b = '\x7b'.toUInt8 then report (.ok .mapping)
  else if startsNumber b then
    match number .truncated b s with
    | .error failure => failure
    | .ok (n, _) =>
      match n.found? with
      | some found => report (.ok found)
      | none => .malformed
  else .malformed

def string (wanted : String) : Reader String := fun s =>
  match next? s with
  | none => .error .truncated
  | some (b, rest) =>
    if b = '"'.toUInt8 then Reader.after text rest
    else .error (mismatch wanted b rest.val)

def null (wanted : String) : Reader Unit := fun s =>
  match next? s with
  | none => .error .truncated
  | some (b, rest) =>
    if b = 'n'.toUInt8 then do
      return ((), rest.of (← keyword (ascii "ull") rest.val))
    else .error (mismatch wanted b rest.val)

def pick {α : Type} (known : List (String × α)) (name : String) : Except Failure α :=
  match known.lookup name with
  | some value => .ok value
  | none => .error (.unknownName name (known.map Prod.fst))

/-- Reads one of the known names: a string, or an object with the name as its only key and null
as the value. What stands there as the key must be a string, or the object is malformed. -/
def choice {α : Type} (known : List (String × α)) : Reader α := fun s =>
  match next? s with
  | none => .error .truncated
  | some (b, rest) =>
    if b = '"'.toUInt8 then do
      let (name, rest) ← Reader.after text rest
      return (← pick known name, rest)
    else if b = '\x7b'.toUInt8 then do
      let rest := rest.of (← mark '"'.toUInt8 rest.val).left
      let (name, rest) ← Reader.after text rest
      let value ← pick known name
      let rest := rest.of (← mark ':'.toUInt8 rest.val).left
      let (_, rest) ← Reader.after (null "unit") rest
      return (value, rest.of (← mark '\x7d'.toUInt8 rest.val).left)
    else .error .malformed

end QueryFrame.Json
