import QueryFrame.Proofs.Converter.Acceptance
import QueryFrame.Proofs.Frame.Failure
import QueryFrame.Proofs.Registry.Resolution
import QueryFrame.Proofs.Wire.Scanning

/-!
# Delivered results

A statement that runs delivers a result with the columns of the statement and a row for each row of
the server. Every cell has the shape that the converter of its column declares, so that a frame of
the result can fail only in a conversion that was written for another shape.
-/

namespace QueryFrame

private theorem ScanShape.Delivers.accepts {shape : ScanShape} {cell : ScanValue}
    (h : shape.Delivers cell) : shape.Accepts cell := by
  cases h with
  | plain s => exact .plain rfl
  | missing kind => exact .missing _
  | boxed s => exact .boxed rfl
  | empty kind => exact .empty kind

namespace Wire

variable {registry : Registry} {reply : Reply} {sql : String} {c : Connection} {raw : RawResult}

/-- Every column's cell in the row of the server is scanned in the shape of the converter of the
column. -/
structure ScannedRow (registry : Registry) (columns : List StatementColumn) (row : List Cell)
    (values : List ScanValue) : Prop where
  length : values.length = columns.length
  cell : ∀ (j : Nat) column, columns[j]? = some column → ∃ converter cell value,
    registry.resolve column.type.typeName = .ok converter ∧ row[j]? = some cell ∧
      values[j]? = some value ∧ scan converter.shape column.type cell = .ok value

/-- The result has the columns of the statement and the rows of the server, and each cell has the
shape that the converter of its column declares. -/
structure Delivered (registry : Registry) (reply : Reply) (raw : RawResult) : Prop where
  columns : raw.columns = reply.columns.map fun column => ⟨column.name, column.type.typeName⟩
  rows : raw.rows.length = reply.rows.length
  resolved : ∀ column ∈ raw.columns, ∃ converter, registry.resolve column.typeName = .ok converter
  widths : ∀ row ∈ raw.rows, row.length = raw.columns.length
  cells : ∀ (i j : Nat) column row cell, raw.columns[j]? = some column → raw.rows[i]? = some row →
    row[j]? = some cell → ∃ converter sent source,
      registry.resolve column.typeName = .ok converter ∧ converter.shape.Delivers cell ∧
        reply.rows[i]? = some sent ∧ sent[j]? = some source ∧
        (cell.scalar? = none ↔ source = none)

/-- For the cell of the result, which has the shape that its column's converter declares, the
conversion of that converter answers the error. -/
structure Answers (registry : Registry) (raw : RawResult) (converter : Converter) (cell : ScanValue)
    (e : QueryError) : Prop where
  place : ∃ row ∈ raw.rows, ∃ (j : Nat) (column : Column), raw.columns[j]? = some column ∧
    row[j]? = some cell ∧ registry.resolve column.typeName = .ok converter
  shape : converter.shape.Delivers cell
  answer : converter.convert cell = .error e

theorem run_eq_ok_iff :
    ((run registry reply sql).run c).1 = .ok raw ↔
      (c.isOpen = true ∧ isSendable sql = true ∧ reply.fault = none) ∧
        ∃ shapes, reply.shapes registry = .ok shapes ∧ reply.scanned shapes = .ok raw := by
  rw [run]
  simp only [StateT.run_bind, StateT.run_get, pure_bind]
  cases c.isOpen <;> cases isSendable sql
  · simp
  · simp
  · simp
  · cases hfault : reply.fault with
    | none =>
      cases reply.shapes registry with
      | error e => simp
      | ok shapes =>
        constructor
        · intro h
          exact ⟨⟨rfl, rfl, rfl⟩, shapes, rfl, h⟩
        · rintro ⟨-, shapes', hshapes, h⟩
          obtain rfl := Except.ok.inj hshapes
          exact h
    | some fault => cases fault <;> cases reply.shapes registry <;> simp

theorem shapes_eq_ok_iff {shapes : List ScanShape} :
    reply.shapes registry = .ok shapes ↔ List.Forall₂ (fun column shape => ∃ converter,
      registry.resolve column.type.typeName = .ok converter ∧ converter.shape = shape)
        reply.columns shapes := by
  rw [Reply.shapes, mapM_eq_ok_iff, Reply.resultColumns, List.forall₂_map_left_iff]
  simp only [map_eq_ok_iff]

theorem scanned_eq (shapes : List ScanShape) :
    reply.scanned shapes =
      (reply.rows.mapM (scanRow (shapes.zip (reply.columns.map StatementColumn.type)))).map
        fun rows => ⟨reply.resultColumns, rows⟩ := by
  rw [Reply.scanned]
  cases reply.rows.mapM (scanRow (shapes.zip (reply.columns.map StatementColumn.type))) <;> rfl

private theorem ScannedRow.of_scanRow {columns : List StatementColumn} {shapes : List ScanShape}
    {row : List Cell} {values : List ScanValue}
    (hshapes : List.Forall₂ (fun column shape => ∃ converter,
      registry.resolve column.type.typeName = .ok converter ∧ converter.shape = shape)
        columns shapes)
    (hrow : scanRow (shapes.zip (columns.map StatementColumn.type)) row = .ok values) :
    ScannedRow registry columns row values := by
  obtain ⟨hlength, hcells⟩ := scanRow_eq_ok_iff.1 hrow
  constructor
  · have hlayout : (shapes.zip (columns.map StatementColumn.type)).length = columns.length := by
      simp [hshapes.length_eq]
    rw [← hcells.length_eq, List.length_zip, Nat.min_eq_left hlength, hlayout]
  · intro j column hcolumn
    obtain ⟨shape, hshape, converter, hresolve, rfl⟩ := exists_getElem?_right hshapes hcolumn
    have htype : (columns.map StatementColumn.type)[j]? = some column.type := by
      rw [List.getElem?_map, hcolumn]
      rfl
    have hentry : (shapes.zip (columns.map StatementColumn.type))[j]? =
        some (converter.shape, column.type) := List.getElem?_zip_eq_some.2 ⟨hshape, htype⟩
    have hj : j < row.length :=
      Nat.lt_of_lt_of_le (List.getElem?_eq_some_iff.1 hentry).1 hlength
    have hcell : row[j]? = some row[j] := List.getElem?_eq_getElem hj
    have hpair : ((shapes.zip (columns.map StatementColumn.type)).zip row)[j]? =
        some ((converter.shape, column.type), row[j]) :=
      List.getElem?_zip_eq_some.2 ⟨hentry, hcell⟩
    obtain ⟨value, hvalue, hscan⟩ := exists_getElem?_right hcells hpair
    exact ⟨converter, row[j], value, hresolve, hcell, hvalue, hscan⟩

theorem run_rows (h : ((run registry reply sql).run c).1 = .ok raw) :
    raw.columns = reply.resultColumns ∧
      (∀ column ∈ reply.columns, ∃ converter,
        registry.resolve column.type.typeName = .ok converter) ∧
      List.Forall₂ (ScannedRow registry reply.columns) reply.rows raw.rows := by
  obtain ⟨-, shapes, hshapes, hscanned⟩ := run_eq_ok_iff.1 h
  rw [shapes_eq_ok_iff] at hshapes
  rw [scanned_eq, map_eq_ok_iff] at hscanned
  obtain ⟨rows, hrows, rfl⟩ := hscanned
  refine ⟨rfl, ?_, ?_⟩
  · intro column hcolumn
    obtain ⟨j, hj⟩ := List.mem_iff_getElem?.1 hcolumn
    obtain ⟨_, _, converter, hresolve, _⟩ := exists_getElem?_right hshapes hj
    exact ⟨converter, hresolve⟩
  · exact (mapM_eq_ok_iff.1 hrows).imp fun _ _ hrow => .of_scanRow hshapes hrow

theorem Delivered.of_run (h : ((run registry reply sql).run c).1 = .ok raw) :
    Delivered registry reply raw := by
  obtain ⟨hcolumns, hresolved, hrows⟩ := run_rows h
  have hlength : raw.columns.length = reply.columns.length := by
    simp [hcolumns, Reply.resultColumns]
  refine ⟨hcolumns, hrows.length_eq.symm, ?_, ?_, ?_⟩
  · intro column hmem
    rw [hcolumns, Reply.resultColumns, List.mem_map] at hmem
    obtain ⟨source, hsource, rfl⟩ := hmem
    exact hresolved source hsource
  · intro row hmem
    obtain ⟨i, hi⟩ := List.mem_iff_getElem?.1 hmem
    obtain ⟨sent, _, hscanned⟩ := exists_getElem?_left hrows hi
    rw [hscanned.length, hlength]
  · intro i j column row cell hcolumn hrow hcell
    obtain ⟨sent, hsent, hscanned⟩ := exists_getElem?_left hrows hrow
    rw [hcolumns, Reply.resultColumns, List.getElem?_map, Option.map_eq_some_iff] at hcolumn
    obtain ⟨statementColumn, hj, rfl⟩ := hcolumn
    obtain ⟨converter, source, value, hresolve, hsource, hvalue, hscan⟩ :=
      hscanned.cell j statementColumn hj
    obtain rfl : cell = value := Option.some.inj (hcell.symm.trans hvalue)
    obtain ⟨hshape, hnull⟩ := scan_delivers hscan
    exact ⟨converter, sent, source, hresolve, hshape, hsent, hsource, hnull⟩

theorem Delivered.ofRaw_error {name : String} {e : QueryError} (h : Delivered registry reply raw)
    (he : Frame.ofRaw name raw registry = .error e) :
    ∃ converter cell, Answers registry raw converter cell e ∧
      ¬ converter.Takes converter.shape := by
  rcases Frame.ofRaw_error_cases he with hcolumn | hrow | hcell
  · obtain ⟨column, hmem, hresolve⟩ := hcolumn
    obtain ⟨converter, hconverter⟩ := h.resolved column hmem
    rw [hconverter] at hresolve
    simp at hresolve
  · obtain ⟨row, hmem, hlength, -⟩ := hrow
    exact absurd (h.widths row hmem) hlength
  · obtain ⟨row, hmem, j, column, converter, cell, hcolumn, hresolve, hcell, herror⟩ := hcell
    obtain ⟨i, hi⟩ := List.mem_iff_getElem?.1 hmem
    obtain ⟨converter', _, _, hresolve', hshape, -⟩ := h.cells i j column row cell hcolumn hi hcell
    obtain rfl : converter = converter' := Except.ok.inj (hresolve.symm.trans hresolve')
    refine ⟨converter, cell, ⟨⟨row, hmem, j, column, hcolumn, hcell, hresolve⟩, hshape, herror⟩, ?_⟩
    intro htakes
    obtain ⟨value, hvalue⟩ := htakes.exists_value_iff.2 hshape.accepts
    rw [hvalue] at herror
    simp at herror

/-- What a statement that runs delivers. A frame of it fails only with an error that the conversion
of a cell answers itself, and that conversion is not one of those for the cells that its converter
declares. With an unsupported type or a wrong number of cells it fails only if that is what a
conversion of the registry's own answers. -/
theorem run_delivered (registry : Registry) (reply : Reply) (sql : String) (c : Connection)
    (raw : RawResult) (h : ((run registry reply sql).run c).1 = .ok raw) :
    Delivered registry reply raw ∧ ∀ name e, Frame.ofRaw name raw registry = .error e →
      ∃ converter cell, Answers registry raw converter cell e ∧ ¬ converter.Takes converter.shape ∧
        ((∃ shape, converter.Takes shape) →
          (∀ typeName, e ≠ .unsupportedType typeName) ∧
            ∀ expected actual, e ≠ .columnCountMismatch expected actual) := by
  have hdelivered := Delivered.of_run h
  refine ⟨hdelivered, ?_⟩
  intro name e he
  obtain ⟨converter, cell, hanswers, hother⟩ := hdelivered.ofRaw_error he
  refine ⟨converter, cell, hanswers, hother, ?_⟩
  rintro ⟨shape, htakes⟩
  rw [htakes.eq_mismatch hanswers.answer]
  simp [Converter.mismatch]

/-- A registry with a converter of bare integers and one whose conversion is for other cells than it
declares. -/
def crossed : Registry where
  converters := [.passing "Optional<Int32>" (.plain .int32) ⟨.int32, false⟩,
    { name := "Optional<Bool>"
      shape := .optional .bool
      output := ⟨.float64, false⟩
      pattern := none
      convert := Converter.decimalToFloat }]
  nodup_names := by decide

/-- A null, and a value for the conversion that expects another one. -/
def crossedReply : Reply where
  columns := [⟨"n", .int4⟩, ⟨"b", .bool⟩]
  rows := [[none, some (.bool true)]]

theorem run_delivered_crossed :
    ((run crossed crossedReply "SELECT n, b").run {}).1 =
      .ok ⟨[⟨"n", "Optional<Int32>"⟩, ⟨"b", "Optional<Bool>"⟩],
        [[.missing, .optional (some (.bool true))]]⟩ ∧
    Frame.ofRaw "A" ⟨[⟨"n", "Optional<Int32>"⟩, ⟨"b", "Optional<Bool>"⟩],
        [[.missing, .optional (some (.bool true))]]⟩ crossed =
      .error (.shapeMismatch "decimal" "Option<bool>") ∧
    ∃ converter cell, converter ∈ crossed.converters ∧ ¬ converter.Takes converter.shape ∧
      converter.convert cell = .error (.shapeMismatch "decimal" "Option<bool>") := by
  have hrun : ((run crossed crossedReply "SELECT n, b").run {}).1 =
      .ok ⟨[⟨"n", "Optional<Int32>"⟩, ⟨"b", "Optional<Bool>"⟩],
        [[.missing, .optional (some (.bool true))]]⟩ := by decide +kernel
  have hframe : Frame.ofRaw "A" ⟨[⟨"n", "Optional<Int32>"⟩, ⟨"b", "Optional<Bool>"⟩],
        [[.missing, .optional (some (.bool true))]]⟩ crossed =
      .error (.shapeMismatch "decimal" "Option<bool>") := by decide +kernel
  obtain ⟨converter, cell, hanswers, hother, -⟩ :=
    (run_delivered crossed crossedReply _ _ _ hrun).2 _ _ hframe
  obtain ⟨_, _, _, _, _, _, hresolve⟩ := hanswers.place
  exact ⟨hrun, hframe, converter, cell, Registry.mem_of_resolve hresolve, hother, hanswers.answer⟩

/-- Keeps numbers of two bytes, and finds that others are of an unsupported type. -/
def narrow : ScanValue → Except QueryError FieldValue
  | .optional (some (.int32 n)) =>
    if n.toInt16.toInt32 = n then .ok (.int16 n.toInt16) else .error (.unsupportedType "Int32")
  | _ => .ok .null

def narrowing : Registry where
  converters := [{ name := "Optional<Int32>"
                   shape := .optional .int32
                   output := ⟨.int16, true⟩
                   pattern := none
                   convert := narrow }]
  nodup_names := by decide

/-- A conversion of the registry's own may answer that a type is unsupported, and the frame of a
delivered result then fails with this error. -/
theorem ofRaw_narrowing :
    ¬ ∀ (registry : Registry) (reply : Reply) (sql : String) (c : Connection) (raw : RawResult),
      ((run registry reply sql).run c).1 = .ok raw →
        ∀ name typeName, Frame.ofRaw name raw registry ≠ .error (.unsupportedType typeName) := by
  intro h
  have hframe := h narrowing { columns := [⟨"n", .int4⟩], rows := [[some (.int4 70000)]] }
    "SELECT n" {} ⟨[⟨"n", "Optional<Int32>"⟩], [[.optional (some (.int32 70000))]]⟩
    (by decide +kernel) "A" "Int32"
  exact hframe (by decide +kernel)

end Wire

end QueryFrame
