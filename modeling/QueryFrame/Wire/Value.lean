import QueryFrame.QueryError
import QueryFrame.Scan

/-!
# Types and values of the wire

The column types of the PostgreSQL wire, the values that arrive in their columns, and the scalars
they are read as. A type of the server that is none of the ten built-in ones below is known by
its name alone, also where that name is the name of one of them.
-/

namespace QueryFrame.Wire

inductive ColumnType where
  | bool
  | int2
  | int4
  | int8
  | float4
  | float8
  | numeric
  | date
  | timestamp
  | timestamptz
  | other (name : String)
  deriving DecidableEq, Repr

namespace ColumnType

def name : ColumnType → String
  | .bool => "bool"
  | .int2 => "int2"
  | .int4 => "int4"
  | .int8 => "int8"
  | .float4 => "float4"
  | .float8 => "float8"
  | .numeric => "numeric"
  | .date => "date"
  | .timestamp => "timestamp"
  | .timestamptz => "timestamptz"
  | .other name => name

/-- The built-in types that have a converter. -/
def builtin : List ColumnType :=
  [.bool, .int2, .int4, .int8, .float4, .float8, .numeric, .date, .timestamp, .timestamptz]

/-- The type that a name stands for on a server without types that users have named alike. -/
def ofName (name : String) : ColumnType :=
  (builtin.find? (·.name == name)).getD (.other name)

/-- The name under which a converter is looked up. Every column of the wire may hold nulls, so
the built-in types go by the names of the optional ones; other types keep their name. -/
def typeName : ColumnType → String
  | .bool => "Optional<Bool>"
  | .int2 => "Optional<Int16>"
  | .int4 => "Optional<Int32>"
  | .int8 => "Optional<Int64>"
  | .float4 => "Optional<Float>"
  | .float8 => "Optional<Double>"
  | .numeric => "Optional<Decimal>"
  | .date => "Optional<Date>"
  | .timestamp | .timestamptz => "Optional<Timestamp>"
  | .other name => name

end ColumnType

inductive Value where
  | bool (value : Bool)
  | int2 (value : Int16)
  | int4 (value : Int32)
  | int8 (value : Int64)
  | float4 (value : Binary32)
  | float8 (value : Binary64)
  | numeric (value : Decimal)
  /-- Days since 1970-01-01. -/
  | date (days : Int)
  /-- Microseconds since 1970-01-01, without an offset. -/
  | timestamp (micros : Int)
  /-- Microseconds since 1970-01-01 in UTC. -/
  | timestamptz (micros : Int)
  | other (text : String)
  deriving DecidableEq, Repr

/-- A cell of a row; a null is no value. -/
abbrev Cell := Option Value

/-- Whether scalars of a kind can be read from columns of a type. -/
def readable : ScalarKind → ColumnType → Bool
  | .bool, .bool | .int16, .int2 | .int32, .int4 | .int64, .int8 | .float, .float4
  | .double, .float8 | .decimal, .numeric | .time, .date | .time, .timestamp
  | .time, .timestamptz => true
  | _, _ => false

/-- Whether a value can be decoded in a column of a type. Times must lie in the calendar. -/
def Value.decodes : ColumnType → Value → Bool
  | .bool, .bool _ | .int2, .int2 _ | .int4, .int4 _ | .int8, .int8 _ | .float4, .float4 _
  | .float8, .float8 _ | .numeric, .numeric _ => true
  | .date, .date days => decide (Instant.midnight days).InCalendar
  | .timestamp, .timestamp micros => decide (Instant.ofMicros micros).InCalendar
  | .timestamptz, .timestamptz micros => decide (Instant.ofMicros micros).InCalendar
  | _, _ => false

/-- The scalar of a decoded value. A date has one only if its day has a midnight. -/
def Value.scalar? : Value → Option Scalar
  | .bool b => some (.bool b)
  | .int2 n => some (.int16 n)
  | .int4 n => some (.int32 n)
  | .int8 n => some (.int64 n)
  | .float4 x => some (.float x)
  | .float8 x => some (.double x)
  | .numeric d => some (.decimal d)
  | .date days => (Instant.onDay? days 0 0 0).map .time
  | .timestamp micros => some (.time (.ofMicros micros))
  | .timestamptz micros => some (.time (.ofMicros micros))
  | .other _ => none

/-- Whether the wire has values for scalars of a kind. -/
def scannable : ScalarKind → Bool
  | .int8 | .uint8 | .uint16 | .uint32 | .uint64 => false
  | _ => true

/-- Scans a cell as a scalar of a kind. The kind must fit the column also where the cell is
null. -/
def scanScalar (kind : ScalarKind) (type : ColumnType) (cell : Cell) :
    Except QueryError (Option Scalar) :=
  if !scannable kind then
    .error (.queryFailed ("cannot scan " ++ kind.name ++ " from a " ++ type.name ++ " column"))
  else if !readable kind type then
    .error (.queryFailed ("a " ++ type.name ++ " column has no " ++ kind.name ++ " values"))
  else
    match cell with
    | none => .ok none
    | some value =>
      if value.decodes type then .ok value.scalar?
      else .error (.queryFailed ("a value of a " ++ type.name ++ " column is out of range"))

/-- Scans a cell in the shape that its converter asks for. -/
def scan (shape : ScanShape) (type : ColumnType) (cell : Cell) : Except QueryError ScanValue :=
  (scanScalar shape.kind type cell).map fun scalar =>
    match shape, scalar with
    | .optional _, scalar => .optional scalar
    | .plain _, some scalar => .plain scalar
    | .plain _, none => .missing

end QueryFrame.Wire
