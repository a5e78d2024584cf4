import QueryFrame.Binary64.Shortest
import QueryFrame.Text.Quoted

/-!
# Failures of reading a document

A document is read once from left to right, and the first failure met is the one reported. It
may end too early, break the grammar, or hold well-formed data that does not fit the record.
-/

namespace QueryFrame.Json

/-- The kind of value met in a place for another kind. -/
inductive Found where
  | null
  | boolean (value : Bool)
  | integer (value : Int)
  | number (value : Binary64)
  | text (value : String)
  | sequence
  | mapping
  deriving DecidableEq, Repr

def Found.describe : Found → String
  | .null => "null"
  | .boolean b => "boolean `" ++ (if b then "true" else "false") ++ "`"
  | .integer n => "integer `" ++ toString n ++ "`"
  | .number x => "floating point `" ++ x.text ++ "`"
  | .text s => "string " ++ Text.quote s
  | .sequence => "sequence"
  | .mapping => "map"

inductive Failure where
  /-- The text ends inside a value that was fine so far. -/
  | truncated
  /-- A byte, or the value it completes, has no place in the grammar. -/
  | malformed
  /-- A value is not of the kind that its place asks for. -/
  | unexpected (found : Found) (wanted : String)
  /-- A member of the record is there for the second time. -/
  | repeated (key : String)
  /-- A name is none of the known ones. -/
  | unknownName (name : String) (known : List String)
  deriving DecidableEq, Repr

inductive Category where
  | ended
  | grammar
  | data
  deriving DecidableEq, Repr

namespace Failure

def category : Failure → Category
  | .truncated => .ended
  | .malformed => .grammar
  | .unexpected .. | .repeated _ | .unknownName .. => .data

def message : Failure → String
  | .truncated => "the document ends inside a value"
  | .malformed => "the document breaks the grammar"
  | .unexpected found wanted => "invalid type: " ++ found.describe ++ ", expected " ++ wanted
  | .repeated key => "duplicate field `" ++ key ++ "`"
  | .unknownName name known =>
    "unknown variant `" ++ name ++ "`, expected one of " ++
      ", ".intercalate (known.map fun k => "`" ++ k ++ "`")

end Failure

end QueryFrame.Json
