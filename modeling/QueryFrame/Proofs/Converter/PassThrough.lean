import QueryFrame.Converter
import QueryFrame.Proofs.Traversal

/-!
# Passing values through

What passing through makes of a cell, and the other conversions in terms of it: a decimal is passed
through as the floating-point number that holds it, and an interval is passed through as its
microseconds, which are then made milliseconds.
-/

namespace QueryFrame.Converter

variable {shape : ScanShape} {output : FieldType} {cell : ScanValue} {value : FieldValue}

theorem passThrough_eq_ok_iff :
    passThrough shape output cell = .ok value ↔
      (cell = .missing ∧ value = output.zero) ∨
      (∃ s, shape = .plain s.kind ∧ cell = .plain s ∧ value = s.toField) ∨
      (shape.isOptional = true ∧ cell = .optional none ∧ value = .null) ∨
      ∃ s, shape = .optional s.kind ∧ cell = .optional (some s) ∧ value = s.toField := by
  cases cell with
  | missing => cases shape <;> simp [passThrough, @eq_comm _ value]
  | plain s =>
    cases shape with
    | plain kind =>
      by_cases h : s.kind = kind
      · simp [passThrough, h, @eq_comm _ value]
      · simp [passThrough, h, Ne.symm h]
    | optional kind => simp [passThrough]
  | optional content =>
    cases content with
    | none => cases shape <;> simp [passThrough, ScanShape.isOptional, @eq_comm _ value]
    | some s =>
      cases shape with
      | plain kind => simp [passThrough]
      | optional kind =>
        by_cases h : s.kind = kind
        · simp [passThrough, h, @eq_comm _ value]
        · simp [passThrough, h, Ne.symm h]

private theorem passThrough_eq_error {e : QueryError}
    (h : passThrough shape output cell = .error e) :
    e = mismatch shape cell := by
  rw [passThrough.eq_def] at h
  split at h
  · simp at h
  · simp at h
  · split at h
    · simp at h
    · exact (Except.error.inj h).symm
  · split at h
    · simp at h
    · exact (Except.error.inj h).symm
  · exact (Except.error.inj h).symm

/-- Makes the microseconds that a value counts whole milliseconds. -/
def inMillis : FieldValue → FieldValue
  | .int64 micros => .int64 (wholeMillis micros)
  | value => value

theorem decimalToFloat_eq (cell : ScanValue) :
    decimalToFloat cell = passThrough (.plain .decimal) ⟨.float64, false⟩ cell := by
  cases cell with
  | missing => rfl
  | plain s => cases s <;> rfl
  | optional content => cases content <;> rfl

theorem decimalToNullableFloat_eq (cell : ScanValue) :
    decimalToNullableFloat cell = passThrough (.optional .decimal) ⟨.float64, true⟩ cell := by
  cases cell with
  | missing => rfl
  | plain s => rfl
  | optional content =>
    cases content with
    | none => rfl
    | some s => cases s <;> rfl

theorem intervalToMillis_eq (cell : ScanValue) :
    intervalToMillis cell = (passThrough (.plain .int64) ⟨.int64, false⟩ cell).map inMillis := by
  cases cell with
  | missing => rfl
  | plain s => cases s <;> rfl
  | optional content => cases content <;> rfl

theorem intervalToNullableMillis_eq (cell : ScanValue) :
    intervalToNullableMillis cell =
      (passThrough (.optional .int64) ⟨.int64, true⟩ cell).map inMillis := by
  cases cell with
  | missing => rfl
  | plain s => rfl
  | optional content =>
    cases content with
    | none => rfl
    | some s => cases s <;> rfl

/-- The conversion is one of those that come with the converters, and is for cells of the shape. -/
inductive Takes (c : Converter) : ScanShape → Prop
  | passThrough (convert : c.convert = Converter.passThrough c.shape c.output) : c.Takes c.shape
  | decimalToFloat (convert : c.convert = Converter.decimalToFloat) : c.Takes (.plain .decimal)
  | decimalToNullableFloat (convert : c.convert = Converter.decimalToNullableFloat) :
    c.Takes (.optional .decimal)
  | intervalToMillis (convert : c.convert = Converter.intervalToMillis) : c.Takes (.plain .int64)
  | intervalToNullableMillis (convert : c.convert = Converter.intervalToNullableMillis) :
    c.Takes (.optional .int64)

theorem Takes.exists_passThrough {c : Converter} (h : c.Takes shape) :
    ∃ output after, ∀ cell,
      c.convert cell = (Converter.passThrough shape output cell).map after := by
  cases h with
  | passThrough h => exact ⟨_, id, fun cell => by rw [h, ← eq_map_id]⟩
  | decimalToFloat h => exact ⟨_, id, fun cell => by rw [h, decimalToFloat_eq, ← eq_map_id]⟩
  | decimalToNullableFloat h =>
    exact ⟨_, id, fun cell => by rw [h, decimalToNullableFloat_eq, ← eq_map_id]⟩
  | intervalToMillis h => exact ⟨_, inMillis, fun cell => by rw [h, intervalToMillis_eq]⟩
  | intervalToNullableMillis h =>
    exact ⟨_, inMillis, fun cell => by rw [h, intervalToNullableMillis_eq]⟩

theorem Takes.eq_mismatch {c : Converter} (h : c.Takes shape) {e : QueryError}
    (he : c.convert cell = .error e) : e = mismatch shape cell := by
  obtain ⟨output, after, hconvert⟩ := h.exists_passThrough
  rw [hconvert, map_eq_error_iff] at he
  exact passThrough_eq_error he

end QueryFrame.Converter
