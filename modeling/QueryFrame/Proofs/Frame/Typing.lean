import QueryFrame.Proofs.Converter.Acceptance
import QueryFrame.Proofs.Frame.Contents
import QueryFrame.Proofs.Registry.Resolution

/-!
# Well-typed frames

A value inhabits a field type if it is of the type's base type, or if it is null and the type is
nullable. A converter whose declared output type fits its conversion delivers inhabitants only,
and a frame built with such converters has in every field inhabitants of the field's type.
-/

namespace QueryFrame

/-- The base type that a value is of; null is of none. -/
def FieldValue.base? : FieldValue → Option BaseType
  | .null => none
  | .bool _ => some .bool
  | .float32 _ => some .float32
  | .float64 _ => some .float64
  | .int8 _ => some .int8
  | .int16 _ => some .int16
  | .int32 _ => some .int32
  | .int64 _ => some .int64
  | .uint8 _ => some .uint8
  | .uint16 _ => some .uint16
  | .uint32 _ => some .uint32
  | .uint64 _ => some .uint64
  | .time _ => some .time

/-- The value may stand in a field of the type. -/
def FieldValue.Inhabits (value : FieldValue) (type : FieldType) : Prop :=
  value.base? = some type.base ∨ value = .null ∧ type.isNullable = true

def ScalarKind.base : ScalarKind → BaseType
  | .bool => .bool
  | .float => .float32
  | .double => .float64
  | .int8 => .int8
  | .int16 => .int16
  | .int32 => .int32
  | .int64 => .int64
  | .uint8 => .uint8
  | .uint16 => .uint16
  | .uint32 => .uint32
  | .uint64 => .uint64
  | .decimal => .float64
  | .time => .time

/-- The declared output type is the one that the conversion delivers. -/
inductive Converter.Fits (c : Converter) : Prop
  | passThrough (convert : c.convert = Converter.passThrough c.shape c.output)
      (output : c.output = ⟨c.shape.kind.base, c.shape.isOptional⟩)
  | decimalToFloat (convert : c.convert = Converter.decimalToFloat)
      (output : c.output = ⟨.float64, false⟩)
  | decimalToNullableFloat (convert : c.convert = Converter.decimalToNullableFloat)
      (output : c.output = ⟨.float64, true⟩)
  | intervalToMillis (convert : c.convert = Converter.intervalToMillis)
      (output : c.output = ⟨.int64, false⟩)
  | intervalToNullableMillis (convert : c.convert = Converter.intervalToNullableMillis)
      (output : c.output = ⟨.int64, true⟩)

private theorem Scalar.base?_toField (s : Scalar) : s.toField.base? = some s.kind.base := by
  cases s <;> rfl

private theorem BaseType.base?_zero (b : BaseType) : b.zero.base? = some b := by
  cases b <;> rfl

private theorem FieldType.inhabits_zero (type : FieldType) : type.zero.Inhabits type := by
  rw [FieldType.zero]
  by_cases h : type.isNullable
  · rw [if_pos h]
    exact .inr ⟨rfl, h⟩
  · rw [if_neg h]
    exact .inl (BaseType.base?_zero type.base)

theorem FieldValue.Inhabits.ne_null {value : FieldValue} {type : FieldType}
    (h : value.Inhabits type) (hn : type.isNullable = false) : value ≠ .null := by
  intro hnull
  subst hnull
  rcases h with h | h
  · simp [FieldValue.base?] at h
  · simp [hn] at h

namespace Converter

variable {cell : ScanValue} {value : FieldValue}

private theorem inhabits_passThrough {shape : ScanShape}
    (h : passThrough shape ⟨shape.kind.base, shape.isOptional⟩ cell = .ok value) :
    value.Inhabits ⟨shape.kind.base, shape.isOptional⟩ := by
  rcases passThrough_eq_ok_iff.1 h with
    ⟨-, rfl⟩ | ⟨s, rfl, -, rfl⟩ | ⟨hoptional, -, rfl⟩ | ⟨s, rfl, -, rfl⟩
  · exact FieldType.inhabits_zero _
  · exact .inl s.base?_toField
  · exact .inr ⟨rfl, hoptional⟩
  · exact .inl s.base?_toField

private theorem inhabits_inMillis {type : FieldType} (h : value.Inhabits type) :
    (inMillis value).Inhabits type := by
  cases value with
  | int64 micros =>
    rcases h with h | h
    · exact .inl h
    · simp at h
  | _ => exact h

private theorem Fits.inhabits {c : Converter} (hc : c.Fits) (h : c.convert cell = .ok value) :
    value.Inhabits c.output := by
  cases hc with
  | passThrough hconvert houtput =>
    rw [hconvert, houtput] at h
    rw [houtput]
    exact inhabits_passThrough h
  | decimalToFloat hconvert houtput =>
    rw [hconvert, decimalToFloat_eq] at h
    rw [houtput]
    exact inhabits_passThrough h
  | decimalToNullableFloat hconvert houtput =>
    rw [hconvert, decimalToNullableFloat_eq] at h
    rw [houtput]
    exact inhabits_passThrough h
  | intervalToMillis hconvert houtput =>
    rw [hconvert, intervalToMillis_eq] at h
    obtain ⟨micros, hmicros, rfl⟩ := map_eq_ok_iff.1 h
    rw [houtput]
    exact inhabits_inMillis (inhabits_passThrough hmicros)
  | intervalToNullableMillis hconvert houtput =>
    rw [hconvert, intervalToNullableMillis_eq] at h
    obtain ⟨micros, hmicros, rfl⟩ := map_eq_ok_iff.1 h
    rw [houtput]
    exact inhabits_inMillis (inhabits_passThrough hmicros)

private theorem Takes.fits {c : Converter} {shape : ScanShape} (h : c.Takes shape)
    (houtput : c.output = ⟨shape.kind.base, shape.isOptional⟩) : c.Fits := by
  cases h with
  | passThrough hconvert => exact .passThrough hconvert houtput
  | decimalToFloat hconvert => exact .decimalToFloat hconvert houtput
  | decimalToNullableFloat hconvert => exact .decimalToNullableFloat hconvert houtput
  | intervalToMillis hconvert => exact .intervalToMillis hconvert houtput
  | intervalToNullableMillis hconvert => exact .intervalToNullableMillis hconvert houtput

end Converter

namespace Registry

theorem output_standard {c : Converter} (h : c ∈ standard.converters) :
    c.output = ⟨c.shape.kind.base, c.shape.isOptional⟩ := by
  have htable : ∀ c ∈ standard.converters, c.output = ⟨c.shape.kind.base, c.shape.isOptional⟩ := by
    decide +kernel
  exact htable c h

private theorem fits_standard {c : Converter} (h : c ∈ standard.converters) : c.Fits :=
  (takes_standard h).fits (output_standard h)

end Registry

namespace Frame

/-- Every value of a frame inhabits the type of its field. -/
def WellTyped (frame : Frame) : Prop :=
  ∀ field ∈ frame.fields, ∀ value ∈ field.values, value.Inhabits field.type

private theorem exists_convert_eq {name : String} {raw : RawResult} {registry : Registry}
    {frame : Frame}
    (h : ofRaw name raw registry = .ok frame) {field : Field} (hfield : field ∈ frame.fields)
    {value : FieldValue} (hvalue : value ∈ field.values) :
    ∃ c ∈ registry.converters, field.type = c.output ∧ ∃ cell, c.convert cell = .ok value := by
  obtain ⟨j, hj⟩ := List.mem_iff_getElem?.1 hfield
  obtain ⟨column, _, _, c, hresolve, htype, hvalues⟩ := ofRaw_represents h hj
  obtain ⟨i, hi⟩ := List.mem_iff_getElem?.1 hvalue
  obtain ⟨row, _, cell, _, hconvert⟩ := exists_getElem?_left hvalues hi
  exact ⟨c, Registry.mem_of_resolve hresolve, htype, cell, hconvert⟩

theorem wellTyped_of_fits {name : String} {raw : RawResult} {registry : Registry} {frame : Frame}
    (hfits : ∀ c ∈ registry.converters, c.Fits) (h : ofRaw name raw registry = .ok frame) :
    frame.WellTyped := by
  intro field hfield value hvalue
  obtain ⟨c, hc, htype, cell, hconvert⟩ := exists_convert_eq h hfield hvalue
  rw [htype]
  exact (hfits c hc).inhabits hconvert

theorem WellTyped.null_notMem {frame : Frame} (h : frame.WellTyped) {field : Field}
    (hfield : field ∈ frame.fields) (hn : field.type.isNullable = false) :
    .null ∉ field.values := by
  intro hnull
  exact (h field hfield .null hnull).ne_null hn rfl

/-- Frames of the standard registry are well typed, and so are those of every registry whose
converters declare what they deliver. Fields that are not nullable have no null in them. -/
theorem ofRaw_wellTyped :
    (∀ name raw frame, ofRaw name raw .standard = .ok frame → frame.WellTyped ∧
      ∀ field ∈ frame.fields, field.type.isNullable = false → .null ∉ field.values) ∧
    ∀ registry : Registry, (∀ c ∈ registry.converters, c.Fits) →
      ∀ name raw frame, ofRaw name raw registry = .ok frame → frame.WellTyped ∧
        ∀ field ∈ frame.fields, field.type.isNullable = false → .null ∉ field.values := by
  have hgeneral (registry : Registry) (hfits : ∀ c ∈ registry.converters, c.Fits) (name : String)
      (raw : RawResult) (frame : Frame) (h : ofRaw name raw registry = .ok frame) :
      frame.WellTyped ∧
        ∀ field ∈ frame.fields, field.type.isNullable = false → .null ∉ field.values := by
    have htyped := wellTyped_of_fits hfits h
    exact ⟨htyped, fun field hfield hn => htyped.null_notMem hfield hn⟩
  exact ⟨hgeneral .standard fun c hc => Registry.fits_standard hc, hgeneral⟩

/-- Cells that are missing and a box that is empty. -/
def sparse : RawResult where
  columns := [⟨"amount", "Amount"⟩, ⟨"delay", "Delay"⟩]
  rows := [[.missing, .missing], [.optional none, .plain (.int64 (-1500))]]

/-- A registry with a converter that passes decimals through and one for intervals. -/
def ledger : Registry where
  converters := [.passing "Amount" (.optional .decimal) ⟨.float64, true⟩,
    { name := "Delay"
      shape := .plain .int64
      output := ⟨.int64, false⟩
      pattern := none
      convert := Converter.intervalToMillis }]
  nodup_names := by decide

theorem ofRaw_wellTyped_sparse :
    (∀ c ∈ ledger.converters, c.Fits) ∧
    ofRaw "A" sparse ledger =
      .ok ⟨"A", [⟨"amount", ⟨.float64, true⟩, [.null, .null]⟩,
        ⟨"delay", ⟨.int64, false⟩, [.int64 0, .int64 (-1)]⟩]⟩ ∧
    .null ∉ [FieldValue.int64 0, .int64 (-1)] := by
  have hfits : ∀ c ∈ ledger.converters, c.Fits := by
    intro c hc
    simp only [ledger, List.mem_cons, List.not_mem_nil, or_false] at hc
    rcases hc with rfl | rfl
    · exact .passThrough rfl rfl
    · exact .intervalToMillis rfl rfl
  have h : ofRaw "A" sparse ledger =
      .ok ⟨"A", [⟨"amount", ⟨.float64, true⟩, [.null, .null]⟩,
        ⟨"delay", ⟨.int64, false⟩, [.int64 0, .int64 (-1)]⟩]⟩ := by decide +kernel
  have hnull := (ofRaw_wellTyped.2 ledger hfits "A" sparse _ h).2
  exact ⟨hfits, h, hnull _ (.tail _ (.head _)) rfl⟩

end Frame

end QueryFrame
