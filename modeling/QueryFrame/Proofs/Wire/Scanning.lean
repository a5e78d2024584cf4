import QueryFrame.Proofs.Traversal
import QueryFrame.Wire.Server

/-!
# Scanned cells

A column's cells are scanned in one shape. Each scanned cell has that shape and holds a scalar of
its kind, unless the cell is null: then it is an empty box or, where there are no boxes, missing.
-/

namespace QueryFrame

/-- The forms of the cells of a column that is scanned in a shape. -/
inductive ScanShape.Delivers : ScanShape → ScanValue → Prop
  | plain (s : Scalar) : Delivers (.plain s.kind) (.plain s)
  | missing (kind : ScalarKind) : Delivers (.plain kind) .missing
  | boxed (s : Scalar) : Delivers (.optional s.kind) (.optional (some s))
  | empty (kind : ScalarKind) : Delivers (.optional kind) (.optional none)

theorem Instant.onDay?_midnight (day : Int) : onDay? day 0 0 0 = some (midnight day) := by
  simp [onDay?, midnight]

namespace Wire

/-- The kind of the scalars that columns of a type have. -/
def ColumnType.kind? : ColumnType → Option ScalarKind
  | .bool => some .bool
  | .int2 => some .int16
  | .int4 => some .int32
  | .int8 => some .int64
  | .float4 => some .float
  | .float8 => some .double
  | .numeric => some .decimal
  | .date | .timestamp | .timestamptz => some .time
  | .other _ => none

theorem readable_iff {kind : ScalarKind} {type : ColumnType} :
    readable kind type = true ↔ type.kind? = some kind := by
  cases type <;> cases kind <;> simp [readable, ColumnType.kind?]

theorem Value.exists_scalar {type : ColumnType} {value : Value} (h : value.decodes type = true) :
    ∃ s, value.scalar? = some s ∧ type.kind? = some s.kind := by
  cases type <;> cases value <;> simp only [decodes, Bool.false_eq_true] at h
  case date.date days =>
    exact ⟨.time (.midnight days), by rw [scalar?, Instant.onDay?_midnight]; rfl, rfl⟩
  all_goals exact ⟨_, rfl, rfl⟩

theorem scanScalar_eq_ok_iff {kind : ScalarKind} {type : ColumnType} {cell : Cell}
    {content : Option Scalar} :
    scanScalar kind type cell = .ok content ↔ scannable kind = true ∧ readable kind type = true ∧
      (∀ value, cell = some value → value.decodes type = true) ∧
      content = cell.bind Value.scalar? := by
  cases cell with
  | none =>
    rw [scanScalar]
    cases scannable kind <;> cases readable kind type <;> simp [@eq_comm _ content]
  | some value =>
    rw [scanScalar]
    cases hdecodes : value.decodes type <;> cases scannable kind <;> cases readable kind type <;>
      simp [hdecodes, @eq_comm _ content]

/-- Kinds of which the wire has no values are refused, whether or not the cell is null. -/
theorem scan_unscannable {shape : ScanShape} (h : scannable shape.kind = false)
    (type : ColumnType) (cell : Cell) :
    scan shape type cell = .error (.queryFailed
      ("cannot scan " ++ shape.kind.name ++ " from a " ++ type.name ++ " column")) := by
  simp [scan, scanScalar, h, Except.map]

/-- A scanned cell has the shape it was scanned in, and no scalar only if the cell was null. -/
theorem scan_delivers {shape : ScanShape} {type : ColumnType} {cell : Cell} {value : ScanValue}
    (h : scan shape type cell = .ok value) :
    shape.Delivers value ∧ (value.scalar? = none ↔ cell = none) := by
  obtain ⟨content, hcontent, hvalue⟩ := map_eq_ok_iff.1 h
  obtain ⟨_, hreadable, hdecodes, rfl⟩ := scanScalar_eq_ok_iff.1 hcontent
  cases cell with
  | none =>
    subst hvalue
    cases shape with
    | plain kind => exact ⟨.missing kind, by simp [ScanValue.scalar?]⟩
    | optional kind => exact ⟨.empty kind, by simp [ScanValue.scalar?]⟩
  | some wireValue =>
    obtain ⟨s, hs, htype⟩ := Value.exists_scalar (hdecodes wireValue rfl)
    have hkind : s.kind = shape.kind := by
      rw [readable_iff, htype] at hreadable
      exact Option.some.inj hreadable
    rw [Option.bind_some, hs] at hvalue
    subst hvalue
    cases shape with
    | plain kind =>
      obtain rfl : s.kind = kind := hkind
      exact ⟨.plain s, by simp [ScanValue.scalar?]⟩
    | optional kind =>
      obtain rfl : s.kind = kind := hkind
      exact ⟨.boxed s, by simp [ScanValue.scalar?]⟩

private theorem scanRow_cons {shape : ScanShape} {type : ColumnType} {cell : Cell}
    {layout : List (ScanShape × ColumnType)} {row : List Cell} :
    scanRow ((shape, type) :: layout) (cell :: row) =
      (scan shape type cell).bind fun value => (scanRow layout row).map (value :: ·) := by
  rw [scanRow]
  cases scan shape type cell with
  | error e => rfl
  | ok value => cases scanRow layout row <;> rfl

/-- Scans a cell together with the shape and the type of its column. -/
def scanEntry (entry : (ScanShape × ColumnType) × Cell) : Except QueryError ScanValue :=
  scan entry.1.1 entry.1.2 entry.2

theorem scanRow_eq_mapM {layout : List (ScanShape × ColumnType)} {row : List Cell}
    (h : layout.length ≤ row.length) : scanRow layout row = (layout.zip row).mapM scanEntry := by
  induction layout generalizing row with
  | nil => rfl
  | cons entry layout ih =>
    cases row with
    | nil => simp at h
    | cons cell row =>
      have hrest : layout.length ≤ row.length := by simpa using h
      rw [scanRow_cons, ih hrest, List.zip_cons_cons]
      cases hscan : scan entry.1 entry.2 cell with
      | error e => exact (mapM_cons_of_error (x := (entry, cell)) hscan).symm
      | ok value => exact (mapM_cons_of_ok (x := (entry, cell)) hscan).symm

theorem scanRow_eq_ok_iff {layout : List (ScanShape × ColumnType)} {row : List Cell}
    {values : List ScanValue} :
    scanRow layout row = .ok values ↔ layout.length ≤ row.length ∧
      List.Forall₂ (fun (entry, cell) value => scan entry.1 entry.2 cell = .ok value)
        (layout.zip row) values := by
  induction layout generalizing row values with
  | nil => simp [scanRow, eq_comm]
  | cons entry layout ih =>
    cases row with
    | nil => simp [scanRow]
    | cons cell row =>
      rw [scanRow_cons, bind_eq_ok_iff, List.zip_cons_cons, List.forall₂_cons_left_iff]
      simp only [map_eq_ok_iff, ih, List.length_cons, Nat.add_le_add_iff_right]
      constructor
      · rintro ⟨value, hvalue, rest, ⟨hlength, hrest⟩, rfl⟩
        exact ⟨hlength, value, rest, hvalue, hrest, rfl⟩
      · rintro ⟨hlength, value, rest, hvalue, hrest, rfl⟩
        exact ⟨value, hvalue, rest, ⟨hlength, hrest⟩, rfl⟩

end Wire

end QueryFrame
