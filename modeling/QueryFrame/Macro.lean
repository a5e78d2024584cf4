import QueryFrame.Instant
import QueryFrame.QueryError

/-!
# Macros

The macros that raw SQL may use, each with a name, a number of arguments and the SQL text that
stands in its place. Timestamps are written in whole microseconds.
-/

namespace QueryFrame

inductive Macro where
  | fromTimestamp
  | toTimestamp
  | timeFilter
  | varFallback
  deriving DecidableEq, Repr

namespace Macro

def all : List Macro := [.fromTimestamp, .toTimestamp, .timeFilter, .varFallback]

def name : Macro → String
  | .fromTimestamp => "fromTimestamp"
  | .toTimestamp => "toTimestamp"
  | .timeFilter => "timeFilter"
  | .varFallback => "varFallback"

def arity : Macro → Nat
  | .fromTimestamp | .toTimestamp => 0
  | .timeFilter => 1
  | .varFallback => 2

def ofName? (name : String) : Option Macro := all.find? (·.name == name)

theorem name_of_ofName? {name : String} {m : Macro} (h : ofName? name = some m) :
    m.name = name := by
  simpa using List.find?_some h

def timestamp (t : Instant) : String :=
  "CAST(" ++ toString t.micros ++ " AS TIMESTAMP)"

/-- The SQL text that stands for a macro. A wrong number of arguments is refused; a fallback stands
in for an empty value and must not be empty itself. -/
def expansion (m : Macro) (range : TimeRange) (arguments : List String) :
    Except QueryError String :=
  match m, arguments with
  | .fromTimestamp, [] => .ok (timestamp range.start)
  | .toTimestamp, [] => .ok (timestamp range.stop)
  | .timeFilter, [column] =>
    .ok (column ++ " >= " ++ timestamp range.start ++ " AND " ++ column ++ " <= " ++
      timestamp range.stop)
  | .varFallback, [fallback, value] =>
    if value ≠ "" then .ok value
    else if fallback ≠ "" then .ok fallback
    else .error .emptyFallback
  | m, arguments => .error (.macroArity m.name m.arity arguments.length)

def expandNamed (name : String) (range : TimeRange) (arguments : List String) :
    Except QueryError String :=
  match ofName? name with
  | some m => m.expansion range arguments
  | none => .error (.unknownMacro name)

end Macro

end QueryFrame
