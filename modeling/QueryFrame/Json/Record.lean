import QueryFrame.Json.Skip
import QueryFrame.Json.Value

/-!
# Records

A record is written as an object with a member for each field that is not left out, in any
order, or as a list of the fields' values in their order, without the last ones. Members with
other keys are passed over.
-/

namespace QueryFrame.Json

/-- A field of a record `σ`: its key, and the reader that puts its value into a record. -/
structure Field (σ : Type) where
  key : String
  read : σ → Reader σ

def Field.string {σ : Type} (key : String) (put : String → σ → σ) : Field σ where
  key
  read value s := (Json.string "a string" s).map fun (text, rest) => (put text value, rest)

def Field.choice {σ α : Type} (key : String) (known : List (String × α)) (put : α → σ → σ) :
    Field σ where
  key
  read value s := (Json.choice known s).map fun (chosen, rest) => (put chosen value, rest)

/-- Reads a member: its key, a colon and its value. A field met before is refused as soon as its
key is read. -/
def member {σ : Type} (fields : List (Field σ)) (met : List String) (value : σ) :
    Reader (List String × σ) := fun s => do
  let rest ← mark '"'.toUInt8 s
  let (key, rest) ← Reader.after text rest
  match fields.find? (·.key == key) with
  | none =>
    let rest := rest.of (← mark ':'.toUInt8 rest.val).left
    return ((met, value), rest.of (← skip rest.val).left)
  | some field =>
    if key ∈ met then .error (.repeated key)
    else
      let rest := rest.of (← mark ':'.toUInt8 rest.val).left
      let (value, rest) ← Reader.after (field.read value) rest
      return ((key :: met, value), rest)

def members {σ : Type} (fields : List (Field σ)) (met : List String) (value : σ)
    (atStart : Bool) (s : Bytes) : Except Failure (σ × Rest s) :=
  match next? s with
  | none => .error .truncated
  | some (b, rest) =>
    if b = '\x7d'.toUInt8 then .ok (value, rest)
    else do
      let left ← separator atStart s
      let ((met, value), rest) ← member fields met value left.val
      let (value, last) ← members fields met value false rest.val
      return (value, ⟨last.val, Nat.lt_of_lt_of_le last.property (left.of rest.left).property⟩)
termination_by s.length
decreasing_by exact Nat.lt_of_lt_of_le rest.property left.property

/-- Reads the elements of a list, one for each field, up to its closing bracket. -/
def elements {σ : Type} (fields : List (Field σ)) (value : σ) (atStart : Bool) (s : Bytes) :
    Except Failure (σ × Rest s) :=
  match fields with
  | [] => (mark ']'.toUInt8 s).map fun rest => (value, rest)
  | field :: fields =>
    match next? s with
    | none => .error .truncated
    | some (b, rest) =>
      if b = ']'.toUInt8 then .ok (value, rest)
      else do
        let left ← separator atStart s
        let (value, rest) ← field.read value left.val
        let (value, last) ← elements fields value false rest.val
        return (value, ⟨last.val, Nat.lt_of_lt_of_le last.property (left.of rest.left).property⟩)

/-- Reads a document that is a record. Fields that are left out keep their value in `initial`. -/
def record {σ : Type} (name : String) (fields : List (Field σ)) (initial : σ) (s : Bytes) :
    Except Failure σ :=
  match next? s with
  | none => .error .truncated
  | some (b, rest) =>
    if b = '\x7b'.toUInt8 then do
      let (value, rest) ← members fields [] initial true rest.val
      finish rest.val
      return value
    else if b = '['.toUInt8 then do
      let (value, rest) ← elements fields initial true rest.val
      finish rest.val
      return value
    else .error (mismatch ("struct " ++ name) b rest.val)

end QueryFrame.Json
