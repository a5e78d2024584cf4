import QueryFrame.Frame
import QueryFrame.Proofs.Traversal
import QueryFrame.Registry.Standard

/-!
# What stands in a frame

A frame is built if all column types resolve, all rows have a cell for each column and all cells
convert. Its fields are then the columns: each has the name of its column, the output type of the
converter of its column and, row by row, the converted cells at its column's place.
-/

namespace QueryFrame

/-- The field holds the column at a place of a raw result: for each row the converted cell. -/
structure Field.Represents (field : Field) (registry : Registry) (raw : RawResult) (place : Nat)
    (column : Column) : Prop where
  name : field.name = column.name
  converted : ∃ c, registry.resolve column.typeName = .ok c ∧ field.type = c.output ∧
    List.Forall₂ (fun row value => ∃ cell, row[place]? = some cell ∧ c.convert cell = .ok value)
      raw.rows field.values

namespace Frame

/-- The fields of a frame, by its columns, their converters and its rows. -/
def fieldsOf (columns : List Column) (converters : List Converter)
    (rows : List (List FieldValue)) : List Field :=
  (columns.zip converters).mapIdx fun place (column, converter) =>
    { name := column.name, type := converter.output, values := columnAt rows place }

/-- A frame is built in three stages: the converters, the rows, the fields. -/
theorem ofRaw_eq (name : String) (raw : RawResult) (registry : Registry) :
    ofRaw name raw registry =
      (raw.columns.mapM fun column => registry.resolve column.typeName).bind fun converters =>
        (raw.rows.mapM (convertRow converters)).map fun rows =>
          ⟨name, fieldsOf raw.columns converters rows⟩ := by
  rw [ofRaw]
  cases raw.columns.mapM fun column => registry.resolve column.typeName with
  | error e => rfl
  | ok converters =>
    let build (rows : List (List FieldValue)) : Frame :=
      ⟨name, fieldsOf raw.columns converters rows⟩
    change (raw.rows.mapM (convertRow converters)).bind (fun rows => .ok (build rows)) =
      (raw.rows.mapM (convertRow converters)).map build
    cases raw.rows.mapM (convertRow converters) <;> rfl

theorem ofRaw_eq_ok_iff {name : String} {raw : RawResult} {registry : Registry} {frame : Frame} :
    ofRaw name raw registry = .ok frame ↔ ∃ converters rows,
      raw.columns.mapM (fun column => registry.resolve column.typeName) = .ok converters ∧
        raw.rows.mapM (convertRow converters) = .ok rows ∧
        ⟨name, fieldsOf raw.columns converters rows⟩ = frame := by
  simp only [ofRaw_eq, bind_eq_ok_iff, map_eq_ok_iff, exists_and_left]

theorem convertRow_eq_ok_iff {converters : List Converter} {row : List ScanValue}
    {values : List FieldValue} :
    convertRow converters row = .ok values ↔ row.length = converters.length ∧
      List.Forall₂ (fun (c, cell) value => c.convert cell = .ok value)
        (converters.zip row) values := by
  rw [convertRow]
  by_cases h : row.length = converters.length
  · rw [if_pos h, mapM_eq_ok_iff]
    simp [h]
  · rw [if_neg h]
    simp [h]

theorem exists_convertRow_eq_ok_iff {converters : List Converter} {row : List ScanValue} :
    (∃ values, convertRow converters row = .ok values) ↔ row.length = converters.length ∧
      ∀ (j : Nat) c cell, converters[j]? = some c → row[j]? = some cell →
        ∃ value, c.convert cell = .ok value := by
  rw [convertRow]
  by_cases h : row.length = converters.length
  · rw [if_pos h, exists_mapM_eq_ok_iff]
    refine ⟨fun hzip => ⟨h, ?_⟩, fun hcells => ?_⟩
    · intro j c cell hc hcell
      exact hzip (c, cell) (List.mem_of_getElem? (List.getElem?_zip_eq_some.2 ⟨hc, hcell⟩))
    · intro entry hentry
      obtain ⟨j, hj⟩ := List.mem_iff_getElem?.1 hentry
      obtain ⟨hc, hcell⟩ := List.getElem?_zip_eq_some.1 hj
      exact hcells.2 j entry.1 entry.2 hc hcell
  · rw [if_neg h]
    simp [h]

private theorem convertRow_getElem? {converters : List Converter} {row : List ScanValue}
    {values : List FieldValue} (h : convertRow converters row = .ok values) {j : Nat}
    {c : Converter} (hc : converters[j]? = some c) :
    ∃ cell value, row[j]? = some cell ∧ values[j]? = some value ∧ c.convert cell = .ok value := by
  obtain ⟨hlength, hvalues⟩ := convertRow_eq_ok_iff.1 h
  have hj : j < row.length := by
    rw [hlength]
    exact (List.getElem?_eq_some_iff.1 hc).1
  have hcell : row[j]? = some row[j] := List.getElem?_eq_getElem hj
  have hzip : (converters.zip row)[j]? = some (c, row[j]) :=
    List.getElem?_zip_eq_some.2 ⟨hc, hcell⟩
  obtain ⟨value, hvalue, hconvert⟩ := exists_getElem?_right hvalues hzip
  exact ⟨row[j], value, hcell, hvalue, hconvert⟩

private theorem forall₂_columnAt {converters : List Converter} {raws : List (List ScanValue)}
    {rows : List (List FieldValue)} (h : raws.mapM (convertRow converters) = .ok rows) {j : Nat}
    {c : Converter} (hc : converters[j]? = some c) :
    List.Forall₂ (fun row value => ∃ cell, row[j]? = some cell ∧ c.convert cell = .ok value)
      raws (columnAt rows j) := by
  have hrows := mapM_eq_ok_iff.1 h
  clear h
  induction hrows with
  | nil => exact .nil
  | @cons row values raws rows hrow _ ih =>
    obtain ⟨cell, value, hcell, hvalue, hconvert⟩ := convertRow_getElem? hrow hc
    have hcons : columnAt (values :: rows) j = value :: columnAt rows j := by
      simp [columnAt, hvalue]
    rw [hcons]
    exact .cons ⟨cell, hcell, hconvert⟩ ih

theorem exists_ofRaw_eq_ok_iff {name : String} {raw : RawResult} {registry : Registry} :
    (∃ frame, ofRaw name raw registry = .ok frame) ↔ ∃ converters,
      raw.columns.mapM (fun column => registry.resolve column.typeName) = .ok converters ∧
        ∀ row ∈ raw.rows, ∃ values, convertRow converters row = .ok values := by
  simp only [ofRaw_eq_ok_iff]
  constructor
  · intro h
    obtain ⟨_, converters, rows, hconverters, hrows, _⟩ := h
    exact ⟨converters, hconverters, exists_mapM_eq_ok_iff.1 ⟨rows, hrows⟩⟩
  · intro h
    obtain ⟨converters, hconverters, hrows⟩ := h
    obtain ⟨rows, hrows⟩ := exists_mapM_eq_ok_iff.2 hrows
    exact ⟨_, converters, rows, hconverters, hrows, rfl⟩

section

variable {name : String} {raw : RawResult} {registry : Registry} {frame : Frame}

theorem ofRaw_name (h : ofRaw name raw registry = .ok frame) : frame.name = name := by
  obtain ⟨converters, rows, _, _, rfl⟩ := ofRaw_eq_ok_iff.1 h
  rfl

theorem ofRaw_length (h : ofRaw name raw registry = .ok frame) :
    frame.fields.length = raw.columns.length := by
  obtain ⟨converters, rows, hconverters, _, rfl⟩ := ofRaw_eq_ok_iff.1 h
  have hlength := (mapM_eq_ok_iff.1 hconverters).length_eq
  simp [fieldsOf, hlength]

theorem ofRaw_represents (h : ofRaw name raw registry = .ok frame) {j : Nat} {field : Field}
    (hfield : frame.fields[j]? = some field) :
    ∃ column, raw.columns[j]? = some column ∧ field.Represents registry raw j column := by
  obtain ⟨converters, rows, hconverters, hrows, rfl⟩ := ofRaw_eq_ok_iff.1 h
  rw [fieldsOf, List.getElem?_mapIdx, Option.map_eq_some_iff] at hfield
  obtain ⟨⟨column, c⟩, hzip, rfl⟩ := hfield
  obtain ⟨hcolumn, hc⟩ := List.getElem?_zip_eq_some.1 hzip
  obtain ⟨column', hcolumn', hresolve⟩ :=
    exists_getElem?_left (mapM_eq_ok_iff.1 hconverters) hc
  obtain rfl : column = column' := Option.some.inj (hcolumn.symm.trans hcolumn')
  exact ⟨column, hcolumn, rfl, c, hresolve, rfl, forall₂_columnAt hrows hc⟩

theorem ofRaw_rowCount (h : ofRaw name raw registry = .ok frame) :
    frame.rowCount = if raw.columns = [] then 0 else raw.rows.length := by
  have hlength := ofRaw_length h
  rw [rowCount]
  cases hfields : frame.fields with
  | nil =>
    rw [hfields, List.length_nil, eq_comm, List.length_eq_zero_iff] at hlength
    rw [if_pos hlength]
    rfl
  | cons field fields =>
    have hne : raw.columns ≠ [] := by
      intro hnil
      simp [hfields, hnil] at hlength
    obtain ⟨column, _, _, c, _, _, hvalues⟩ := ofRaw_represents h (j := 0) (by rw [hfields]; rfl)
    rw [if_neg hne, hvalues.length_eq]
    rfl

theorem exists_convertRow_iff {converters : List Converter} {row : List ScanValue}
    (h : raw.columns.mapM (fun column => registry.resolve column.typeName) = .ok converters) :
    (∃ values, convertRow converters row = .ok values) ↔ row.length = raw.columns.length ∧
      ∀ (j : Nat) column c cell, raw.columns[j]? = some column →
        registry.resolve column.typeName = .ok c → row[j]? = some cell →
          ∃ value, c.convert cell = .ok value := by
  have hresolved := mapM_eq_ok_iff.1 h
  rw [exists_convertRow_eq_ok_iff, ← hresolved.length_eq]
  refine and_congr_right fun _ => ⟨fun hcells => ?_, fun hcells => ?_⟩
  · intro j column c cell hcolumn hc hcell
    obtain ⟨c', hc', hresolve⟩ := exists_getElem?_right hresolved hcolumn
    obtain rfl : c = c' := Except.ok.inj (hc.symm.trans hresolve)
    exact hcells j c cell hc' hcell
  · intro j c cell hc hcell
    obtain ⟨column, hcolumn, hresolve⟩ := exists_getElem?_left hresolved hc
    exact hcells j column c cell hcolumn hresolve hcell

end

/-- When a frame is built, and what stands in it. -/
theorem ofRaw_contents (name : String) (raw : RawResult) (registry : Registry) :
    ((∃ frame, ofRaw name raw registry = .ok frame) ↔
      (∀ column ∈ raw.columns, ∃ c, registry.resolve column.typeName = .ok c) ∧
      (∀ row ∈ raw.rows, row.length = raw.columns.length) ∧
      ∀ row ∈ raw.rows, ∀ (j : Nat) column c cell, raw.columns[j]? = some column →
        registry.resolve column.typeName = .ok c → row[j]? = some cell →
          ∃ value, c.convert cell = .ok value) ∧
    ∀ frame, ofRaw name raw registry = .ok frame →
      frame.name = name ∧
      frame.fields.length = raw.columns.length ∧
      (∀ (j : Nat) column, raw.columns[j]? = some column →
        ∃ field, frame.fields[j]? = some field ∧ field.Represents registry raw j column) ∧
      (∀ field ∈ frame.fields, field.values.length = raw.rows.length) ∧
      frame.rowCount = if raw.columns = [] then 0 else raw.rows.length := by
  constructor
  · rw [exists_ofRaw_eq_ok_iff]
    constructor
    · intro h
      obtain ⟨converters, hconverters, hrows⟩ := h
      have hcells (row : List ScanValue) (hrow : row ∈ raw.rows) :=
        (exists_convertRow_iff hconverters).1 (hrows row hrow)
      exact ⟨exists_mapM_eq_ok_iff.1 ⟨converters, hconverters⟩,
        fun row hrow => (hcells row hrow).1, fun row hrow => (hcells row hrow).2⟩
    · intro h
      obtain ⟨hcolumns, hlengths, hcells⟩ := h
      obtain ⟨converters, hconverters⟩ := exists_mapM_eq_ok_iff.2 hcolumns
      refine ⟨converters, hconverters, ?_⟩
      intro row hrow
      exact (exists_convertRow_iff hconverters).2 ⟨hlengths row hrow, hcells row hrow⟩
  · intro frame h
    have hlength := ofRaw_length h
    refine ⟨ofRaw_name h, hlength, ?_, ?_, ofRaw_rowCount h⟩
    · intro j column hcolumn
      have hj : j < frame.fields.length := by
        rw [hlength]
        exact (List.getElem?_eq_some_iff.1 hcolumn).1
      have hfield : frame.fields[j]? = some frame.fields[j] := List.getElem?_eq_getElem hj
      obtain ⟨column', hcolumn', hrepresents⟩ := ofRaw_represents h hfield
      obtain rfl : column = column' := Option.some.inj (hcolumn.symm.trans hcolumn')
      exact ⟨_, hfield, hrepresents⟩
    · intro field hfield
      obtain ⟨j, hj⟩ := List.mem_iff_getElem?.1 hfield
      obtain ⟨column, _, _, c, _, _, hvalues⟩ := ofRaw_represents h hj
      exact hvalues.length_eq.symm

theorem ofRaw_contents_scores :
    ofRaw "A" ⟨[⟨"id", "Uint64"⟩, ⟨"span", "Optional<Interval>"⟩],
        [[.plain (.uint64 1), .optional (some (.int64 (-1500)))],
          [.missing, .optional none]]⟩ .standard =
      .ok ⟨"A", [⟨"id", ⟨.uint64, false⟩, [.uint64 1, .uint64 0]⟩,
        ⟨"span", ⟨.int64, true⟩, [.int64 (-1), .null]⟩]⟩ ∧
    rowCount ⟨"A", [⟨"id", ⟨.uint64, false⟩, [.uint64 1, .uint64 0]⟩,
        ⟨"span", ⟨.int64, true⟩, [.int64 (-1), .null]⟩]⟩ = 2 := by
  have h : ofRaw "A" ⟨[⟨"id", "Uint64"⟩, ⟨"span", "Optional<Interval>"⟩],
        [[.plain (.uint64 1), .optional (some (.int64 (-1500)))],
          [.missing, .optional none]]⟩ .standard =
      .ok ⟨"A", [⟨"id", ⟨.uint64, false⟩, [.uint64 1, .uint64 0]⟩,
        ⟨"span", ⟨.int64, true⟩, [.int64 (-1), .null]⟩]⟩ := by decide +kernel
  exact ⟨h, ((ofRaw_contents "A" _ .standard).2 _ h).2.2.2.2⟩

end Frame

end QueryFrame
