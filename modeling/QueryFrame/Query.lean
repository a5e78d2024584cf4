import QueryFrame.Frame
import QueryFrame.Json.Record
import QueryFrame.Macro.Interpolation

/-!
# Queries

A query is raw SQL with the time range it looks at and an identifier for its answer. It is
answered in three steps: the macros are expanded, the database runs the SQL, and the raw result
becomes a frame. An error of one step is the answer, and later steps are not taken.
-/

namespace QueryFrame

/-- Raw SQL over a time range. -/
structure Query where
  refId : String
  rawSql : String
  range : TimeRange
  deriving DecidableEq, Repr

namespace Query

def documentFields : List (Json.Field (String × String)) :=
  [.string "refId" fun text (_, rawSql) => (text, rawSql),
    .string "rawSql" fun text (refId, _) => (refId, text)]

/-- Reads a query from its document. What the document leaves out is empty. -/
def ofDocument (document : List UInt8) (range : TimeRange) : Except QueryError Query :=
  match Json.record "QueryModel" documentFields ("", "") document with
  | .ok (refId, rawSql) => .ok { refId, rawSql, range }
  | .error failure => .error (.invalidJson failure)

/-- The SQL text that the database is asked to run. -/
def sql (q : Query) : Except QueryError String := interpolate q.rawSql q.range

def answer {σ : Type} (q : Query) (registry : Registry)
    (run : String → StateM σ (Except QueryError RawResult)) :
    StateM σ (Except QueryError Frame) :=
  match q.sql with
  | .error e => pure (.error e)
  | .ok sql => do
    let outcome ← run sql
    return outcome.bind fun raw => Frame.ofRaw q.refId raw registry

end Query

end QueryFrame
