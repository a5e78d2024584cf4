import QueryFrame.Registry

/-!
# The standard registry

The converters of the supported database types. Each type stands there once for columns whose
values are always present and once, written `Optional<…>`, for columns whose values may be absent.
-/

namespace QueryFrame.Registry

def scalarTypes : List (String × ScalarKind × BaseType) :=
  [("Bool", .bool, .bool), ("Double", .double, .float64), ("Float", .float, .float32),
    ("Int64", .int64, .int64), ("Int32", .int32, .int32), ("Int16", .int16, .int16),
    ("Int8", .int8, .int8), ("Uint64", .uint64, .uint64), ("Uint32", .uint32, .uint32),
    ("Uint16", .uint16, .uint16), ("Uint8", .uint8, .uint8), ("Date", .time, .time),
    ("Datetime", .time, .time), ("Timestamp", .time, .time)]

/-- The name of the type whose values may be absent. -/
def optionalName (name : String) : String := "Optional<" ++ name ++ ">"

/-- The converters of types whose values are always present. Decimals also go by names with their
precision, such as `Decimal(22,9)`. -/
def plainConverters : List Converter :=
  (scalarTypes.map fun (name, kind, base) => .passing name (.plain kind) base.plain) ++
    [{ name := "Decimal"
       shape := .plain .decimal
       output := BaseType.float64.plain
       pattern := some (.literal true "Decimal(".toList false)
       convert := Converter.decimalToFloat },
     { name := "Interval"
       shape := .plain .int64
       output := BaseType.int64.plain
       pattern := none
       convert := Converter.intervalToMillis }]

def optionalConverters : List Converter :=
  (scalarTypes.map fun (name, kind, base) =>
      .passing (optionalName name) (.optional kind) base.plain.nullable) ++
    [{ name := optionalName "Decimal"
       shape := .optional .decimal
       output := BaseType.float64.plain.nullable
       pattern := some (.literal true "Optional<Decimal(".toList false)
       convert := Converter.decimalToNullableFloat },
     { name := optionalName "Interval"
       shape := .optional .int64
       output := BaseType.int64.plain.nullable
       pattern := none
       convert := Converter.intervalToNullableMillis }]

/-- The registry of every supported type. -/
def standard : Registry where
  converters := plainConverters ++ optionalConverters
  nodup_names := by decide +kernel

end QueryFrame.Registry
