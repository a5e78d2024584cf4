import QueryFrame.Decimal
import QueryFrame.Instant

/-!
# Scanned values

What a driver delivers for a cell. A column is scanned in a shape: a kind of scalar, held
plainly or in a box that may be empty. A cell for which there is not even a box is missing.
-/

namespace QueryFrame

inductive ScalarKind where
  | bool
  | float
  | double
  | int8
  | int16
  | int32
  | int64
  | uint8
  | uint16
  | uint32
  | uint64
  | decimal
  | time
  deriving DecidableEq, Repr

/-- The short name of a kind, as used in descriptions of shapes. -/
def ScalarKind.name : ScalarKind → String
  | .bool => "bool"
  | .float => "f32"
  | .double => "f64"
  | .int8 => "i8"
  | .int16 => "i16"
  | .int32 => "i32"
  | .int64 => "i64"
  | .uint8 => "u8"
  | .uint16 => "u16"
  | .uint32 => "u32"
  | .uint64 => "u64"
  | .decimal => "decimal"
  | .time => "timestamp"

inductive Scalar where
  | bool (value : Bool)
  | float (value : Binary32)
  | double (value : Binary64)
  | int8 (value : Int8)
  | int16 (value : Int16)
  | int32 (value : Int32)
  | int64 (value : Int64)
  | uint8 (value : UInt8)
  | uint16 (value : UInt16)
  | uint32 (value : UInt32)
  | uint64 (value : UInt64)
  | decimal (value : Decimal)
  | time (value : Instant)
  deriving DecidableEq, Repr

def Scalar.kind : Scalar → ScalarKind
  | .bool _ => .bool
  | .float _ => .float
  | .double _ => .double
  | .int8 _ => .int8
  | .int16 _ => .int16
  | .int32 _ => .int32
  | .int64 _ => .int64
  | .uint8 _ => .uint8
  | .uint16 _ => .uint16
  | .uint32 _ => .uint32
  | .uint64 _ => .uint64
  | .decimal _ => .decimal
  | .time _ => .time

/-- The form in which the cells of a column are scanned. -/
inductive ScanShape where
  | plain (kind : ScalarKind)
  | optional (kind : ScalarKind)
  deriving DecidableEq, Repr

namespace ScanShape

def kind : ScanShape → ScalarKind
  | .plain k => k
  | .optional k => k

/-- Whether the scalar stands in a box that may be empty. -/
def isOptional : ScanShape → Bool
  | .plain _ => false
  | .optional _ => true

def describe : ScanShape → String
  | .plain k => k.name
  | .optional k => "Option<" ++ k.name ++ ">"

end ScanShape

/-- A scanned cell. A missing cell is not the same as an empty box. -/
inductive ScanValue where
  | missing
  | plain (scalar : Scalar)
  | optional (content : Option Scalar)
  deriving DecidableEq, Repr

namespace ScanValue

def scalar? : ScanValue → Option Scalar
  | .missing => none
  | .plain s => some s
  | .optional content => content

def describe : ScanValue → String
  | .missing => "null"
  | .plain s => s.kind.name
  | .optional (some s) => "Option<" ++ s.kind.name ++ ">"
  | .optional none => "Option<_>(None)"

end ScanValue

end QueryFrame
