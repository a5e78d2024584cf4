import QueryFrame.FieldType
import QueryFrame.Pattern
import QueryFrame.QueryError

/-!
# Converters

A converter turns the scanned cells of one database type into values of one field type. Most
pass a scalar of the declared shape through unchanged; decimals become floating-point numbers,
and intervals, counted in microseconds, become whole milliseconds.
-/

namespace QueryFrame

/-- The field value that holds a scalar. A decimal is held as the floating-point number it is
turned into. -/
def Scalar.toField : Scalar → FieldValue
  | .bool b => .bool b
  | .float x => .float32 x
  | .double x => .float64 x
  | .int8 n => .int8 n
  | .int16 n => .int16 n
  | .int32 n => .int32 n
  | .int64 n => .int64 n
  | .uint8 n => .uint8 n
  | .uint16 n => .uint16 n
  | .uint32 n => .uint32 n
  | .uint64 n => .uint64 n
  | .decimal d => .float64 d.toBinary64
  | .time t => .time t

structure Converter where
  name : String
  shape : ScanShape
  output : FieldType
  /-- Further type names that this converter is for. -/
  pattern : Option Pattern
  convert : ScanValue → Except QueryError FieldValue

namespace Converter

/-- The error at a value that does not have the declared shape. -/
def mismatch (shape : ScanShape) (v : ScanValue) : QueryError :=
  .shapeMismatch shape.describe v.describe

/-- Keeps a value of the declared shape as it is. A missing cell becomes the zero of the output
type, an empty box becomes null. -/
def passThrough (shape : ScanShape) (output : FieldType) (v : ScanValue) :
    Except QueryError FieldValue :=
  match shape, v with
  | _, .missing => .ok output.zero
  | .optional _, .optional none => .ok .null
  | .plain kind, .plain s =>
    if s.kind = kind then .ok s.toField else .error (mismatch shape v)
  | .optional kind, .optional (some s) =>
    if s.kind = kind then .ok s.toField else .error (mismatch shape v)
  | _, _ => .error (mismatch shape v)

/-- Turns a decimal into a floating-point number; a missing one is zero. -/
def decimalToFloat : ScanValue → Except QueryError FieldValue
  | .missing => .ok (.float64 .zero)
  | .plain (.decimal d) => .ok (.float64 d.toBinary64)
  | v => .error (mismatch (.plain .decimal) v)

def decimalToNullableFloat : ScanValue → Except QueryError FieldValue
  | .missing | .optional none => .ok .null
  | .optional (some (.decimal d)) => .ok (.float64 d.toBinary64)
  | v => .error (mismatch (.optional .decimal) v)

/-- Whole milliseconds of a number of microseconds, rounded toward zero. -/
def wholeMillis (micros : Int64) : Int64 := micros / 1000

/-- Turns an interval into milliseconds; a missing one is zero. -/
def intervalToMillis : ScanValue → Except QueryError FieldValue
  | .missing => .ok (.int64 0)
  | .plain (.int64 micros) => .ok (.int64 (wholeMillis micros))
  | v => .error (mismatch (.plain .int64) v)

def intervalToNullableMillis : ScanValue → Except QueryError FieldValue
  | .missing | .optional none => .ok .null
  | .optional (some (.int64 micros)) => .ok (.int64 (wholeMillis micros))
  | v => .error (mismatch (.optional .int64) v)

def passing (name : String) (shape : ScanShape) (output : FieldType) : Converter where
  name
  shape
  output
  pattern := none
  convert := passThrough shape output

def matchesPattern (c : Converter) (typeName : String) : Bool :=
  c.pattern.any (·.accepts typeName.toList)

end Converter

end QueryFrame
