import QueryFrame.Scan

/-!
# Typed field values

The types of a frame's fields and the values that stand in them. Each of the twelve base types
has a nullable twin.
-/

namespace QueryFrame

/-- The types of field values, apart from whether a value may be absent. -/
inductive BaseType where
  | bool
  | float32
  | float64
  | int8
  | int16
  | int32
  | int64
  | uint8
  | uint16
  | uint32
  | uint64
  | time
  deriving DecidableEq, Repr

namespace BaseType

def all : List BaseType :=
  [.bool, .float32, .float64, .int8, .int16, .int32, .int64, .uint8, .uint16, .uint32, .uint64,
    .time]

def name : BaseType → String
  | .bool => "Bool"
  | .float32 => "Float32"
  | .float64 => "Float64"
  | .int8 => "Int8"
  | .int16 => "Int16"
  | .int32 => "Int32"
  | .int64 => "Int64"
  | .uint8 => "Uint8"
  | .uint16 => "Uint16"
  | .uint32 => "Uint32"
  | .uint64 => "Uint64"
  | .time => "Time"

end BaseType

structure FieldType where
  base : BaseType
  isNullable : Bool
  deriving DecidableEq, Repr

inductive FieldValue where
  | null
  | bool (value : Bool)
  | float32 (value : Binary32)
  | float64 (value : Binary64)
  | int8 (value : Int8)
  | int16 (value : Int16)
  | int32 (value : Int32)
  | int64 (value : Int64)
  | uint8 (value : UInt8)
  | uint16 (value : UInt16)
  | uint32 (value : UInt32)
  | uint64 (value : UInt64)
  | time (value : Instant)
  deriving DecidableEq, Repr

def FieldValue.isNull (v : FieldValue) : Bool := v == .null

namespace BaseType

def plain (b : BaseType) : FieldType := ⟨b, false⟩

def zero : BaseType → FieldValue
  | .bool => .bool false
  | .float32 => .float32 .zero
  | .float64 => .float64 .zero
  | .int8 => .int8 0
  | .int16 => .int16 0
  | .int32 => .int32 0
  | .int64 => .int64 0
  | .uint8 => .uint8 0
  | .uint16 => .uint16 0
  | .uint32 => .uint32 0
  | .uint64 => .uint64 0
  | .time => .time .epoch

end BaseType

namespace FieldType

def name (t : FieldType) : String :=
  if t.isNullable then "Nullable" ++ t.base.name else t.base.name

def all : List FieldType :=
  BaseType.all.map (⟨·, false⟩) ++ BaseType.all.map (⟨·, true⟩)

def ofName? (name : String) : Option FieldType :=
  all.find? (·.name == name)

/-- The nullable twin; a nullable type is its own twin. -/
def nullable (t : FieldType) : FieldType := { t with isNullable := true }

/-- The value of a cell that is missing. -/
def zero (t : FieldType) : FieldValue :=
  if t.isNullable then .null else t.base.zero

end FieldType

end QueryFrame
