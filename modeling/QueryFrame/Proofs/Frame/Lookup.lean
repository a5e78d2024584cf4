import QueryFrame.Proofs.Frame.Contents

/-!
# Looking up columns

A field is found by the name of its column. Where several columns of a result have the same name the
leftmost one is found; the fields of the other ones stay in the frame and can be reached by their
places.
-/

namespace QueryFrame

/-- The column at a place is the leftmost one of its name. -/
structure IsLeftmost (columns : List Column) (place : Nat) (column : Column) : Prop where
  getElem? : columns[place]? = some column
  leftmost : ∀ i < place, ∀ other, columns[i]? = some other → other.name ≠ column.name

private theorem exists_isLeftmost_iff {columns : List Column} {n : String} :
    (∃ place column, IsLeftmost columns place column ∧ column.name = n) ↔
      ∃ column ∈ columns, column.name = n := by
  constructor
  · intro h
    obtain ⟨place, column, hleftmost, hn⟩ := h
    exact ⟨column, List.mem_of_getElem? hleftmost.getElem?, hn⟩
  · intro h
    obtain ⟨column, hmem, hn⟩ := h
    induction columns with
    | nil => simp at hmem
    | cons first columns ih =>
      by_cases hfirst : first.name = n
      · exact ⟨0, first, ⟨rfl, by simp⟩, hfirst⟩
      · have htail : column ∈ columns := by
          rcases List.mem_cons.1 hmem with rfl | htail
          · exact absurd hn hfirst
          · exact htail
        obtain ⟨place, found, hfound, hname⟩ := ih htail
        refine ⟨place + 1, found, ⟨hfound.getElem?, ?_⟩, hname⟩
        intro i hi other hother
        cases i with
        | zero =>
          obtain rfl : first = other := Option.some.inj hother
          rwa [hname]
        | succ i => exact hfound.leftmost i (Nat.lt_of_succ_lt_succ hi) other hother

namespace Frame

section

variable {name : String} {raw : RawResult} {registry : Registry} {frame : Frame}

theorem field_eq_ok_iff {n : String} {field : Field} :
    frame.field n = .ok field ↔ field.name = n ∧ ∃ place : Nat, frame.fields[place]? = some field ∧
      ∀ i < place, ∀ other, frame.fields[i]? = some other → other.name ≠ n := by
  have hfind : frame.field n = .ok field ↔ frame.fields.find? (·.name == n) = some field := by
    rw [Frame.field]
    cases frame.fields.find? (·.name == n) <;> simp
  rw [hfind, List.find?_eq_some_iff_getElem, beq_iff_eq]
  refine and_congr_right fun _ => ⟨?_, ?_⟩
  · intro h
    obtain ⟨place, hplace, hfield, hbefore⟩ := h
    refine ⟨place, List.getElem?_eq_some_iff.2 ⟨hplace, hfield⟩, ?_⟩
    intro i hi other hother
    obtain ⟨_, rfl⟩ := List.getElem?_eq_some_iff.1 hother
    simpa using hbefore i hi
  · intro h
    obtain ⟨place, hfield, hbefore⟩ := h
    obtain ⟨hplace, hfield⟩ := List.getElem?_eq_some_iff.1 hfield
    refine ⟨place, hplace, hfield, ?_⟩
    intro i hi
    simpa using hbefore i hi _ (List.getElem?_eq_getElem (Nat.lt_trans hi hplace))

theorem field_eq_error {n : String} (h : ∀ field ∈ frame.fields, field.name ≠ n) :
    frame.field n = .error (.columnNotFound n) := by
  have hnone : frame.fields.find? (·.name == n) = none := by simpa using h
  rw [Frame.field, hnone]

private theorem exists_represents (h : ofRaw name raw registry = .ok frame) {place : Nat}
    {column : Column} (hcolumn : raw.columns[place]? = some column) :
    ∃ field, frame.fields[place]? = some field ∧
      field.Represents registry raw place column := by
  have hplace : place < frame.fields.length := by
    rw [ofRaw_length h]
    exact (List.getElem?_eq_some_iff.1 hcolumn).1
  have hfield : frame.fields[place]? = some frame.fields[place] := List.getElem?_eq_getElem hplace
  obtain ⟨column', hcolumn', hrepresents⟩ := ofRaw_represents h hfield
  obtain rfl : column = column' := Option.some.inj (hcolumn.symm.trans hcolumn')
  exact ⟨_, hfield, hrepresents⟩

theorem field_eq_ok_iff_isLeftmost (h : ofRaw name raw registry = .ok frame) {n : String}
    {field : Field} :
    frame.field n = .ok field ↔ ∃ place column, IsLeftmost raw.columns place column ∧
      column.name = n ∧ frame.fields[place]? = some field := by
  rw [field_eq_ok_iff]
  constructor
  · intro hfound
    obtain ⟨hn, place, hfield, hbefore⟩ := hfound
    obtain ⟨column, hcolumn, hrepresents⟩ := ofRaw_represents h hfield
    have hname : column.name = n := by rw [← hrepresents.name, hn]
    refine ⟨place, column, ⟨hcolumn, ?_⟩, hname, hfield⟩
    intro i hi other hother
    obtain ⟨field', hfield', hother'⟩ := exists_represents h hother
    rw [hname, ← hother'.name]
    exact hbefore i hi field' hfield'
  · intro hfound
    obtain ⟨place, column, hleftmost, rfl, hfield⟩ := hfound
    obtain ⟨column', hcolumn', hrepresents⟩ := ofRaw_represents h hfield
    obtain rfl : column = column' := Option.some.inj (hleftmost.getElem?.symm.trans hcolumn')
    refine ⟨hrepresents.name, place, hfield, ?_⟩
    intro i hi other hother
    obtain ⟨column', hcolumn', hother'⟩ := ofRaw_represents h hother
    rw [hother'.name]
    exact hleftmost.leftmost i hi column' hcolumn'

/-- Which names are found in a frame, and what the field that is found holds at each index: the
converted cell of that row in the leftmost column of the name, and nothing behind the last row. -/
theorem ofRaw_field (h : ofRaw name raw registry = .ok frame) (n : String) :
    ((∃ field, frame.field n = .ok field) ↔ ∃ column ∈ raw.columns, column.name = n) ∧
    ((∀ column ∈ raw.columns, column.name ≠ n) →
      frame.field n = .error (.columnNotFound n)) ∧
    (∀ field, frame.field n = .ok field → ∃ place column c,
      IsLeftmost raw.columns place column ∧ column.name = n ∧
        frame.fields[place]? = some field ∧ registry.resolve column.typeName = .ok c ∧
        (∀ (i : Nat) row, raw.rows[i]? = some row → ∃ cell value, row[place]? = some cell ∧
          c.convert cell = .ok value ∧ field.values[i]? = some value) ∧
        ∀ i, raw.rows.length ≤ i → field.values[i]? = none) ∧
    ∀ (place : Nat) column, raw.columns[place]? = some column →
      ∃ field, frame.fields[place]? = some field ∧
        field.Represents registry raw place column := by
  refine ⟨?_, ?_, ?_, fun place column => exists_represents h⟩
  · rw [← exists_isLeftmost_iff]
    simp only [field_eq_ok_iff_isLeftmost h]
    constructor
    · intro hfound
      obtain ⟨field, place, column, hleftmost, hn, -⟩ := hfound
      exact ⟨place, column, hleftmost, hn⟩
    · intro hcolumn
      obtain ⟨place, column, hleftmost, hn⟩ := hcolumn
      obtain ⟨field, hfield, -⟩ := exists_represents h hleftmost.getElem?
      exact ⟨field, place, column, hleftmost, hn, hfield⟩
  · intro hnone
    apply field_eq_error
    intro field hfield
    obtain ⟨place, hplace⟩ := List.mem_iff_getElem?.1 hfield
    obtain ⟨column, hcolumn, hrepresents⟩ := ofRaw_represents h hplace
    rw [hrepresents.name]
    exact hnone column (List.mem_of_getElem? hcolumn)
  · intro field hfound
    obtain ⟨place, column, hleftmost, hn, hplace⟩ := (field_eq_ok_iff_isLeftmost h).1 hfound
    obtain ⟨column', hcolumn', -, c, hresolve, -, hvalues⟩ := ofRaw_represents h hplace
    obtain rfl : column = column' := Option.some.inj (hleftmost.getElem?.symm.trans hcolumn')
    refine ⟨place, column, c, hleftmost, hn, hplace, hresolve, ?_, ?_⟩
    · intro i row hrow
      obtain ⟨value, hvalue, cell, hcell, hconvert⟩ := exists_getElem?_right hvalues hrow
      exact ⟨cell, value, hcell, hconvert, hvalue⟩
    · intro i hi
      rw [List.getElem?_eq_none_iff, ← hvalues.length_eq]
      exact hi

end

/-- Two columns of one name, the second with an interval in it. -/
def doubled : RawResult where
  columns := [⟨"id", "Uint64"⟩, ⟨"n", "Optional<Bool>"⟩, ⟨"n", "Interval"⟩]
  rows := [[.plain (.uint64 1), .optional (some (.bool true)), .plain (.int64 (-1500))],
    [.missing, .optional none, .missing]]

theorem ofRaw_field_doubled : ∃ frame, ofRaw "A" doubled .standard = .ok frame ∧
    (∃ field, frame.field "n" = .ok field ∧ frame.fields[1]? = some field ∧
      field.values[0]? = some (.bool true) ∧ field.values[2]? = none) ∧
    frame.field "N" = .error (.columnNotFound "N") ∧
    ∃ field, frame.fields[2]? = some field ∧ field.name = "n" := by
  have h : ofRaw "A" doubled .standard =
      .ok ⟨"A", [⟨"id", ⟨.uint64, false⟩, [.uint64 1, .uint64 0]⟩,
        ⟨"n", ⟨.bool, true⟩, [.bool true, .null]⟩,
        ⟨"n", ⟨.int64, false⟩, [.int64 (-1), .int64 0]⟩]⟩ := by decide +kernel
  obtain ⟨hiff, -, hholds, hstays⟩ := ofRaw_field h "n"
  refine ⟨_, h, ?_, (ofRaw_field h "N").2.1 (by decide), ?_⟩
  · obtain ⟨field, hfound⟩ := hiff.2 ⟨⟨"n", "Interval"⟩, by decide, rfl⟩
    obtain ⟨place, column, c, -, -, -, -, -, hbehind⟩ := hholds field hfound
    obtain rfl := Except.ok.inj hfound
    exact ⟨_, rfl, rfl, rfl, hbehind 2 (Nat.le_refl 2)⟩
  · obtain ⟨field, hfield, hrepresents⟩ := hstays 2 ⟨"n", "Interval"⟩ rfl
    exact ⟨field, hfield, hrepresents.name⟩

end Frame

end QueryFrame
