import QueryFrame.Registry

/-!
# Frames

A frame is a named table of typed columns. It is built from a raw result, whose rows hold cells
as a driver scanned them: the column types are resolved first, then every cell is converted, row
by row.
-/

namespace QueryFrame

/-- A column of a raw result: its name, and the name of its type in the database. -/
structure Column where
  name : String
  typeName : String
  deriving DecidableEq, Repr

/-- The result of a query as a driver delivers it. -/
structure RawResult where
  columns : List Column
  rows : List (List ScanValue)
  deriving DecidableEq, Repr

def RawResult.empty : RawResult := ⟨[], []⟩

structure Field where
  name : String
  type : FieldType
  values : List FieldValue
  deriving DecidableEq, Repr

/-- A named table with one field for each column of the result. -/
structure Frame where
  name : String
  fields : List Field
  deriving DecidableEq, Repr

namespace Frame

def empty (name : String) : Frame := ⟨name, []⟩

/-- Converts the cells of one row. A row of the wrong length is refused before its cells. -/
def convertRow (converters : List Converter) (row : List ScanValue) :
    Except QueryError (List FieldValue) :=
  if row.length = converters.length then
    (converters.zip row).mapM fun (c, v) => c.convert v
  else .error (.columnCountMismatch converters.length row.length)

def columnAt (rows : List (List FieldValue)) (place : Nat) : List FieldValue :=
  rows.filterMap (·[place]?)

/-- Builds the frame of a raw result. A column of an unsupported type fails the whole frame before
any row is looked at. -/
def ofRaw (name : String) (raw : RawResult) (registry : Registry) : Except QueryError Frame := do
  let converters ← raw.columns.mapM fun column => registry.resolve column.typeName
  let rows ← raw.rows.mapM (convertRow converters)
  let fields := (raw.columns.zip converters).mapIdx fun place (column, converter) =>
    { name := column.name, type := converter.output, values := columnAt rows place }
  return ⟨name, fields⟩

def field (f : Frame) (name : String) : Except QueryError Field :=
  match f.fields.find? (·.name == name) with
  | some found => .ok found
  | none => .error (.columnNotFound name)

/-- The number of rows; without fields there are none. -/
def rowCount (f : Frame) : Nat :=
  match f.fields.head? with
  | some first => first.values.length
  | none => 0

def isEmpty (f : Frame) : Bool := f.rowCount == 0

end Frame

end QueryFrame
