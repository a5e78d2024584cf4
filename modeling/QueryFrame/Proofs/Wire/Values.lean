import QueryFrame.Proofs.Wire.Delivery
import QueryFrame.Registry.Standard

/-!
# Values of the wire in frames

With the standard registry a statement whose columns have built-in types, and whose values can be
decoded, becomes a frame of nullable fields. Nulls of the wire are the nulls of the frame, and every
value of the wire stands in the frame as the value that it is decoded to.
-/

namespace QueryFrame.Wire

/-- The field value that a value of a column of a built-in type stands for. -/
inductive Value.Shown : ColumnType → Value → FieldValue → Prop
  | bool (b : Bool) : Shown .bool (.bool b) (.bool b)
  | int2 (n : Int16) : Shown .int2 (.int2 n) (.int16 n)
  | int4 (n : Int32) : Shown .int4 (.int4 n) (.int32 n)
  | int8 (n : Int64) : Shown .int8 (.int8 n) (.int64 n)
  | float4 (x : Binary32) : Shown .float4 (.float4 x) (.float32 x)
  | float8 (x : Binary64) : Shown .float8 (.float8 x) (.float64 x)
  | numeric (d : Decimal) : Shown .numeric (.numeric d) (.float64 d.toBinary64)
  | date (days : Int) : Shown .date (.date days) (.time (.midnight days))
  | timestamp (micros : Int) : Shown .timestamp (.timestamp micros) (.time (.ofMicros micros))
  | timestamptz (micros : Int) :
    Shown .timestamptz (.timestamptz micros) (.time (.ofMicros micros))

/-- The server runs the statement, its columns have built-in types, and each row has a cell for each
column that is null or can be decoded. -/
structure Reply.Readable (reply : Reply) : Prop where
  fault : reply.fault = none
  types : ∀ column ∈ reply.columns, column.type ∈ ColumnType.builtin
  rows : ∀ row ∈ reply.rows, List.Forall₂ (fun (column : StatementColumn) (cell : Cell) =>
    ∀ source, cell = some source → source.decodes column.type = true) reply.columns row

variable {type : ColumnType}

private theorem Value.Shown.ne_null {source : Value} {value : FieldValue}
    (h : source.Shown type value) :
    value ≠ .null := by
  cases h <;> simp

theorem resolve_builtin (h : type ∈ ColumnType.builtin) :
    ∃ converter kind, Registry.standard.resolve type.typeName = .ok converter ∧
      converter.shape = .optional kind ∧ type.kind? = some kind ∧
      converter.output.isNullable = true ∧ ∀ cell,
        converter.convert cell = Converter.passThrough (.optional kind) converter.output cell := by
  cases type with
  | numeric => exact ⟨_, _, rfl, rfl, rfl, rfl, Converter.decimalToNullableFloat_eq⟩
  | other name => simp [ColumnType.builtin] at h
  | _ => exact ⟨_, _, rfl, rfl, rfl, rfl, fun _ => rfl⟩

private theorem passes_builtin (h : type ∈ ColumnType.builtin) {converter : Converter}
    (hresolve : Registry.standard.resolve type.typeName = .ok converter) :
    ∃ kind, converter.shape = .optional kind ∧ type.kind? = some kind ∧
      converter.output.isNullable = true ∧ ∀ cell,
        converter.convert cell = Converter.passThrough (.optional kind) converter.output cell := by
  obtain ⟨converter', kind, hresolve', hpasses⟩ := resolve_builtin h
  obtain rfl : converter = converter' := Except.ok.inj (hresolve.symm.trans hresolve')
  exact ⟨kind, hpasses⟩

private theorem scannable_of_kind? {kind : ScalarKind} (h : type.kind? = some kind) :
    scannable kind = true := by
  cases type <;> simp only [ColumnType.kind?, Option.some.injEq, reduceCtorEq] at h <;>
    subst h <;> rfl

theorem scan_eq_ok {kind : ScalarKind} {cell : Cell} (hkind : type.kind? = some kind)
    (hcell : ∀ source, cell = some source → source.decodes type = true) :
    scan (.optional kind) type cell = .ok (.optional (cell.bind Value.scalar?)) := by
  have hscalar : scanScalar kind type cell = .ok (cell.bind Value.scalar?) :=
    scanScalar_eq_ok_iff.2 ⟨scannable_of_kind? hkind, readable_iff.2 hkind, hcell, rfl⟩
  rw [scan, ScanShape.kind, hscalar]
  rfl

private theorem exists_scanRow_eq_ok {layout : List (ScanShape × ColumnType)} {row : List Cell}
    (hlength : layout.length ≤ row.length)
    (hcells : ∀ (j : Nat) shape type cell, layout[j]? = some (shape, type) →
      row[j]? = some cell → ∃ value, scan shape type cell = .ok value) :
    ∃ values, scanRow layout row = .ok values := by
  have hscans : ∀ entry ∈ layout.zip row,
      ∃ value, scan entry.1.1 entry.1.2 entry.2 = .ok value := by
    intro entry hentry
    obtain ⟨j, hj⟩ := List.mem_iff_getElem?.1 hentry
    obtain ⟨hlayout, hrow⟩ := List.getElem?_zip_eq_some.1 hj
    exact hcells j _ _ _ hlayout hrow
  obtain ⟨values, hvalues⟩ := exists_mapM_eq_ok_iff.2 hscans
  exact ⟨values, scanRow_eq_ok_iff.2 ⟨hlength, mapM_eq_ok_iff.1 hvalues⟩⟩

section

variable {reply : Reply} {name sql : String} {c : Connection} {raw : RawResult}

private theorem exists_shapes (h : reply.Readable) :
    ∃ shapes, reply.shapes .standard = .ok shapes := by
  rw [Reply.shapes, exists_mapM_eq_ok_iff]
  intro column hcolumn
  obtain ⟨source, hsource, rfl⟩ := List.mem_map.1 hcolumn
  obtain ⟨converter, _, hresolve, -⟩ := resolve_builtin (h.types source hsource)
  exact ⟨converter.shape, by rw [hresolve]; rfl⟩

private theorem exists_run (hopen : c.isOpen = true) (hsql : isSendable sql = true)
    (h : reply.Readable) :
    ∃ raw, ((run .standard reply sql).run c).1 = .ok raw := by
  obtain ⟨shapes, hshapes⟩ := exists_shapes h
  have hresolved := shapes_eq_ok_iff.1 hshapes
  have hrows : ∀ row ∈ reply.rows, ∃ values,
      scanRow (shapes.zip (reply.columns.map StatementColumn.type)) row = .ok values := by
    intro row hrow
    have hcells := h.rows row hrow
    apply exists_scanRow_eq_ok
    · simp [← hresolved.length_eq, hcells.length_eq]
    · intro j shape type cell hentry hcell
      obtain ⟨hshape, htype⟩ := List.getElem?_zip_eq_some.1 hentry
      obtain ⟨column, hcolumn, converter, hresolve, rfl⟩ := exists_getElem?_left hresolved hshape
      obtain ⟨column', hcolumn', hdecodes⟩ := exists_getElem?_left hcells hcell
      obtain rfl : column = column' := Option.some.inj (hcolumn.symm.trans hcolumn')
      obtain rfl : column.type = type := by simpa [hcolumn] using htype
      obtain ⟨kind, hkindShape, hkind, -⟩ :=
        passes_builtin (h.types column (List.mem_of_getElem? hcolumn)) hresolve
      rw [hkindShape]
      exact ⟨_, scan_eq_ok hkind hdecodes⟩
  obtain ⟨rows, hscanned⟩ := exists_mapM_eq_ok_iff.2 hrows
  have hraw : reply.scanned shapes = .ok ⟨reply.resultColumns, rows⟩ := by
    rw [scanned_eq, hscanned]
    rfl
  exact ⟨_, run_eq_ok_iff.2 ⟨⟨hopen, hsql, h.fault⟩, shapes, hshapes, hraw⟩⟩

end

end QueryFrame.Wire
