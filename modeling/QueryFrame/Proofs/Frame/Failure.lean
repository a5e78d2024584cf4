import QueryFrame.Proofs.Frame.Contents

/-!
# Frames that are not built

A frame fails with the error of a column type, with the count of the cells of a row, or with the
error of the conversion of a cell.
-/

namespace QueryFrame.Frame

variable {name : String} {raw : RawResult} {registry : Registry} {e : QueryError}

theorem ofRaw_eq_error_iff :
    ofRaw name raw registry = .error e ↔
      raw.columns.mapM (fun column => registry.resolve column.typeName) = .error e ∨
      ∃ converters,
        raw.columns.mapM (fun column => registry.resolve column.typeName) = .ok converters ∧
          raw.rows.mapM (convertRow converters) = .error e := by
  simp only [ofRaw_eq, bind_eq_error_iff, map_eq_error_iff]

private theorem convertRow_error_cases {converters : List Converter} {row : List ScanValue}
    (h : convertRow converters row = .error e) :
    (row.length ≠ converters.length ∧ e = .columnCountMismatch converters.length row.length) ∨
      ∃ (j : Nat) (c : Converter) (cell : ScanValue), converters[j]? = some c ∧
        row[j]? = some cell ∧ c.convert cell = .error e := by
  rw [convertRow] at h
  by_cases hlength : row.length = converters.length
  · rw [if_pos hlength] at h
    obtain ⟨⟨c, cell⟩, hmem, hcell⟩ := exists_mem_of_mapM_eq_error h
    obtain ⟨j, hj⟩ := List.mem_iff_getElem?.1 hmem
    obtain ⟨hc, hrow⟩ := List.getElem?_zip_eq_some.1 hj
    exact .inr ⟨j, c, cell, hc, hrow, hcell⟩
  · rw [if_neg hlength] at h
    exact .inl ⟨hlength, (Except.error.inj h).symm⟩

theorem ofRaw_error_cases (h : ofRaw name raw registry = .error e) :
    (∃ column ∈ raw.columns, registry.resolve column.typeName = .error e) ∨
      (∃ row ∈ raw.rows, row.length ≠ raw.columns.length ∧
        e = .columnCountMismatch raw.columns.length row.length) ∨
      ∃ row ∈ raw.rows, ∃ (j : Nat) (column : Column) (c : Converter) (cell : ScanValue),
        raw.columns[j]? = some column ∧ registry.resolve column.typeName = .ok c ∧
          row[j]? = some cell ∧ c.convert cell = .error e := by
  rcases ofRaw_eq_error_iff.1 h with hcolumns | ⟨converters, hconverters, hrows⟩
  · exact .inl (exists_mem_of_mapM_eq_error hcolumns)
  · have hresolved := mapM_eq_ok_iff.1 hconverters
    obtain ⟨row, hmem, hrow⟩ := exists_mem_of_mapM_eq_error hrows
    rcases convertRow_error_cases hrow with ⟨hlength, he⟩ | ⟨j, c, cell, hc, hcell, he⟩
    · rw [← hresolved.length_eq] at hlength he
      exact .inr (.inl ⟨row, hmem, hlength, he⟩)
    · obtain ⟨column, hcolumn, hresolve⟩ := exists_getElem?_left hresolved hc
      exact .inr (.inr ⟨row, hmem, j, column, c, cell, hcolumn, hresolve, hcell, he⟩)

end QueryFrame.Frame
