import QueryFrame.Proofs.Frame.Failure
import QueryFrame.Proofs.Registry.Resolution

/-!
# The first fault of a raw result

A frame that is not built fails with the first fault of the raw result: with the first column of an
unsupported type, whatever the rows are, and otherwise with the first row that does not fit the
columns. Rows behind a fault change nothing, and where there is none the rows of two results over
the same columns can be put one behind the other.
-/

namespace QueryFrame

def Field.followedBy (field next : Field) : Field :=
  { field with values := field.values ++ next.values }

namespace Frame

/-- The cell at a place of the row does not convert as the column there demands. -/
def RefusedAt (registry : Registry) (columns : List Column) (row : List ScanValue) (place : Nat)
    (e : QueryError) : Prop :=
  ∃ column c cell, columns[place]? = some column ∧ registry.resolve column.typeName = .ok c ∧
    row[place]? = some cell ∧ c.convert cell = .error e

def IsBad (registry : Registry) (columns : List Column) (row : List ScanValue) : Prop :=
  row.length ≠ columns.length ∨ ∃ place e, RefusedAt registry columns row place e

/-- The fault of a row: the number of its cells if that is wrong, whatever they are, and otherwise
what is wrong with the leftmost cell that does not convert. -/
inductive RowFault (registry : Registry) (columns : List Column) (row : List ScanValue) :
    QueryError → Prop
  | width (length : row.length ≠ columns.length) :
    RowFault registry columns row (.columnCountMismatch columns.length row.length)
  | cell {place : Nat} {e : QueryError} (length : row.length = columns.length)
    (refused : RefusedAt registry columns row place e)
    (leftmost : ∀ i < place, ∀ e', ¬ RefusedAt registry columns row i e') :
    RowFault registry columns row e

/-- The first fault of a raw result. The rows count only where the types of all columns are
supported. -/
inductive FirstFault (registry : Registry) (columns : List Column) (rows : List (List ScanValue)) :
    QueryError → Prop
  | column {before : List Column} {column : Column} {after : List Column}
    (split : columns = before ++ column :: after)
    (supported : ∀ b ∈ before, registry.resolve? b.typeName ≠ none)
    (unsupported : registry.resolve? column.typeName = none) :
    FirstFault registry columns rows (.unsupportedType column.typeName)
  | row {before : List (List ScanValue)} {row : List ScanValue} {after : List (List ScanValue)}
    {e : QueryError} (supported : ∀ column ∈ columns, registry.resolve? column.typeName ≠ none)
    (split : rows = before ++ row :: after)
    (good : ∀ b ∈ before, ¬ IsBad registry columns b)
    (fault : RowFault registry columns row e) :
    FirstFault registry columns rows e

section

variable {registry : Registry} {columns : List Column} {row : List ScanValue}
  {converters : List Converter} {place : Nat} {e : QueryError}

private theorem refusedAt_iff
    (h : columns.mapM (fun column => registry.resolve column.typeName) = .ok converters) :
    RefusedAt registry columns row place e ↔
      ∃ x, (converters.zip row)[place]? = some x ∧ x.1.convert x.2 = .error e := by
  have hresolved := mapM_eq_ok_iff.1 h
  constructor
  · intro hrefused
    obtain ⟨column, c, cell, hcolumn, hc, hcell, he⟩ := hrefused
    obtain ⟨c', hc', hresolve⟩ := exists_getElem?_right hresolved hcolumn
    have hsame : c = c' := Except.ok.inj (hc.symm.trans hresolve)
    rw [← hsame] at hc'
    exact ⟨(c, cell), List.getElem?_zip_eq_some.2 ⟨hc', hcell⟩, he⟩
  · intro hrefused
    obtain ⟨⟨c, cell⟩, hzip, he⟩ := hrefused
    obtain ⟨hc, hcell⟩ := List.getElem?_zip_eq_some.1 hzip
    obtain ⟨column, hcolumn, hresolve⟩ := exists_getElem?_left hresolved hc
    exact ⟨column, c, cell, hcolumn, hresolve, hcell, he⟩

theorem convertRow_eq_error_iff
    (h : columns.mapM (fun column => registry.resolve column.typeName) = .ok converters) :
    convertRow converters row = .error e ↔ RowFault registry columns row e := by
  have hlength := (mapM_eq_ok_iff.1 h).length_eq
  rw [convertRow, ← hlength]
  by_cases hwidth : row.length = columns.length
  · rw [if_pos hwidth, mapM_eq_error_iff_getElem?]
    simp only [← refusedAt_iff h]
    constructor
    · intro hfirst
      obtain ⟨place, hrefused, hleftmost⟩ := hfirst
      exact .cell hwidth hrefused hleftmost
    · intro hfault
      cases hfault with
      | width hne => exact absurd hwidth hne
      | cell _ hrefused hleftmost => exact ⟨_, hrefused, hleftmost⟩
  · rw [if_neg hwidth, Except.error.injEq]
    constructor
    · intro he
      rw [← he]
      exact .width hwidth
    · intro hfault
      cases hfault with
      | width _ => rfl
      | cell heq _ _ => exact absurd heq hwidth

private theorem not_isBad_iff
    (h : columns.mapM (fun column => registry.resolve column.typeName) = .ok converters) :
    ¬ IsBad registry columns row ↔ ∃ values, convertRow converters row = .ok values := by
  constructor
  · intro hgood
    cases hrow : convertRow converters row with
    | ok values => exact ⟨values, rfl⟩
    | error e =>
      apply absurd _ hgood
      cases (convertRow_eq_error_iff h).1 hrow with
      | width hne => exact .inl hne
      | cell _ hrefused _ => exact .inr ⟨_, e, hrefused⟩
  · intro hrow hbad
    obtain ⟨hlength, hcells⟩ := exists_convertRow_eq_ok_iff.1 hrow
    rcases hbad with hne | ⟨place, e, hrefused⟩
    · exact hne (hlength.trans (mapM_eq_ok_iff.1 h).length_eq.symm)
    · obtain ⟨⟨c, cell⟩, hzip, he⟩ := (refusedAt_iff h).1 hrefused
      obtain ⟨hc, hcell⟩ := List.getElem?_zip_eq_some.1 hzip
      obtain ⟨value, hvalue⟩ := hcells place c cell hc hcell
      rw [he] at hvalue
      simp at hvalue

theorem columns_eq_error_iff :
    columns.mapM (fun column => registry.resolve column.typeName) = .error e ↔
      ∃ before column after, columns = before ++ column :: after ∧
        (∀ b ∈ before, registry.resolve? b.typeName ≠ none) ∧
        registry.resolve? column.typeName = none ∧ e = .unsupportedType column.typeName := by
  simp only [mapM_eq_error_iff, Registry.exists_resolve_eq_ok_iff, Registry.resolve_eq_error_iff]

private theorem exists_columns_iff :
    (∃ converters, columns.mapM (fun column => registry.resolve column.typeName) = .ok converters) ↔
      ∀ column ∈ columns, registry.resolve? column.typeName ≠ none := by
  simp only [exists_mapM_eq_ok_iff, Registry.exists_resolve_eq_ok_iff]

theorem ofRaw_eq_error_iff_firstFault {name : String} {rows : List (List ScanValue)} :
    ofRaw name ⟨columns, rows⟩ registry = .error e ↔ FirstFault registry columns rows e := by
  rw [ofRaw_eq_error_iff]
  constructor
  · intro h
    rcases h with hcolumns | ⟨converters, hconverters, hrows⟩
    · obtain ⟨before, column, after, hsplit, hbefore, hnone, he⟩ := columns_eq_error_iff.1 hcolumns
      rw [he]
      exact .column hsplit hbefore hnone
    · obtain ⟨before, row, after, hsplit, hbefore, hrow⟩ := mapM_eq_error_iff.1 hrows
      have hgood : ∀ b ∈ before, ¬ IsBad registry columns b := fun b hb =>
        (not_isBad_iff hconverters).2 (hbefore b hb)
      exact .row (exists_columns_iff.1 ⟨converters, hconverters⟩) hsplit hgood
        ((convertRow_eq_error_iff hconverters).1 hrow)
  · intro h
    cases h with
    | column hsplit hbefore hnone =>
      exact .inl (columns_eq_error_iff.2 ⟨_, _, _, hsplit, hbefore, hnone, rfl⟩)
    | row hsupported hsplit hgood hfault =>
      obtain ⟨converters, hconverters⟩ := exists_columns_iff.2 hsupported
      refine .inr ⟨converters, hconverters, mapM_eq_error_iff.2 ⟨_, _, _, hsplit, ?_, ?_⟩⟩
      · exact fun b hb => (not_isBad_iff hconverters).1 (hgood b hb)
      · exact (convertRow_eq_error_iff hconverters).2 hfault

end

private theorem columnAt_append (rows more : List (List FieldValue)) (place : Nat) :
    columnAt (rows ++ more) place = columnAt rows place ++ columnAt more place :=
  List.filterMap_append

private theorem fieldsOf_append (columns : List Column) (converters : List Converter)
    (rows more : List (List FieldValue)) :
    fieldsOf columns converters (rows ++ more) =
      List.zipWith Field.followedBy (fieldsOf columns converters rows)
        (fieldsOf columns converters more) := by
  apply List.ext_getElem
  · simp [fieldsOf]
  · intro place _ _
    simp [fieldsOf, Field.followedBy, columnAt_append]

/-- Which error a frame fails with, and what becomes of a raw result when rows are added to it. -/
theorem ofRaw_first_fault (name : String) (columns : List Column) (registry : Registry) :
    (∀ rows e, ofRaw name ⟨columns, rows⟩ registry = .error e ↔
      FirstFault registry columns rows e) ∧
    (∀ rows more e, ofRaw name ⟨columns, rows⟩ registry = .error e →
      ofRaw name ⟨columns, rows ++ more⟩ registry = .error e) ∧
    ∀ rows more first second, ofRaw name ⟨columns, rows⟩ registry = .ok first →
      ofRaw name ⟨columns, more⟩ registry = .ok second →
        first.fields.length = columns.length ∧ second.fields.length = columns.length ∧
          ofRaw name ⟨columns, rows ++ more⟩ registry =
            .ok ⟨name, List.zipWith Field.followedBy first.fields second.fields⟩ := by
  refine ⟨fun rows e => ofRaw_eq_error_iff_firstFault, ?_, ?_⟩
  · intro rows more e h
    rw [ofRaw_eq_error_iff] at h ⊢
    rcases h with hcolumns | ⟨converters, hconverters, hrows⟩
    · exact .inl hcolumns
    · exact .inr ⟨converters, hconverters, mapM_append_of_error hrows more⟩
  · intro rows more first second hfirst hsecond
    refine ⟨ofRaw_length hfirst, ofRaw_length hsecond, ?_⟩
    obtain ⟨converters, values, hconverters, hvalues, rfl⟩ := ofRaw_eq_ok_iff.1 hfirst
    obtain ⟨converters', values', hconverters', hvalues', rfl⟩ := ofRaw_eq_ok_iff.1 hsecond
    have hsame : converters = converters' := Except.ok.inj (hconverters.symm.trans hconverters')
    rw [← hsame] at hvalues' ⊢
    rw [ofRaw_eq_ok_iff]
    refine ⟨converters, values ++ values', hconverters, ?_, ?_⟩
    · rw [mapM_append_of_ok hvalues, hvalues']
      rfl
    · rw [fieldsOf_append]

/-- A row that converts, and behind it one with a wrong cell in both columns. -/
def misread : List (List ScanValue) :=
  [[.plain (.uint64 1), .optional none], [.plain (.bool true), .plain (.int64 5)]]

theorem ofRaw_first_fault_misread :
    ofRaw "A" ⟨[⟨"id", "Uint64"⟩, ⟨"delay", "Optional<Interval>"⟩], misread ++ [[.missing]]⟩
        .standard = .error (.shapeMismatch "u64" "bool") ∧
    ofRaw "A" ⟨[⟨"id", "Uint64"⟩, ⟨"delay", "Optional<Interval>"⟩],
        [[.plain (.uint64 1), .optional none]] ++
          [[.missing, .optional (some (.int64 (-2500)))]]⟩ .standard =
      .ok ⟨"A", [⟨"id", ⟨.uint64, false⟩, [.uint64 1, .uint64 0]⟩,
        ⟨"delay", ⟨.int64, true⟩, [.null, .int64 (-2)]⟩]⟩ := by
  have hfails : ofRaw "A" ⟨[⟨"id", "Uint64"⟩, ⟨"delay", "Optional<Interval>"⟩], misread⟩
      .standard = .error (.shapeMismatch "u64" "bool") := by decide +kernel
  have hfirst : ofRaw "A" ⟨[⟨"id", "Uint64"⟩, ⟨"delay", "Optional<Interval>"⟩],
      [[.plain (.uint64 1), .optional none]]⟩ .standard =
        .ok ⟨"A", [⟨"id", ⟨.uint64, false⟩, [.uint64 1]⟩,
          ⟨"delay", ⟨.int64, true⟩, [.null]⟩]⟩ := by decide +kernel
  have hsecond : ofRaw "A" ⟨[⟨"id", "Uint64"⟩, ⟨"delay", "Optional<Interval>"⟩],
      [[.missing, .optional (some (.int64 (-2500)))]]⟩ .standard =
        .ok ⟨"A", [⟨"id", ⟨.uint64, false⟩, [.uint64 0]⟩,
          ⟨"delay", ⟨.int64, true⟩, [.int64 (-2)]⟩]⟩ := by decide +kernel
  have h := ofRaw_first_fault "A" [⟨"id", "Uint64"⟩, ⟨"delay", "Optional<Interval>"⟩] .standard
  exact ⟨h.2.1 misread [[.missing]] _ hfails, (h.2.2 _ _ _ _ hfirst hsecond).2.2⟩

end Frame

end QueryFrame
