import QueryFrame.Proofs.Converter.PassThrough
import QueryFrame.Registry.Standard

/-!
# Accepted cells

A converter accepts a cell that is missing, and one that has the declared shape. At any other cell
it names the two shapes, which are never described in the same words.
-/

namespace QueryFrame

/-- The cells that a converter of a shape can convert. -/
inductive ScanShape.Accepts : ScanShape → ScanValue → Prop
  | missing (shape : ScanShape) : Accepts shape .missing
  | plain {kind : ScalarKind} {s : Scalar} (same : s.kind = kind) : Accepts (.plain kind) (.plain s)
  | boxed {kind : ScalarKind} {s : Scalar} (same : s.kind = kind) :
      Accepts (.optional kind) (.optional (some s))
  | empty (kind : ScalarKind) : Accepts (.optional kind) (.optional none)

/-- The scalar that a value is, in the variant of its kind. Of a decimal only the floating-point
number is left. -/
def FieldValue.scalar? : FieldValue → Option Scalar
  | .null => none
  | .bool b => some (.bool b)
  | .float32 x => some (.float x)
  | .float64 x => some (.double x)
  | .int8 n => some (.int8 n)
  | .int16 n => some (.int16 n)
  | .int32 n => some (.int32 n)
  | .int64 n => some (.int64 n)
  | .uint8 n => some (.uint8 n)
  | .uint16 n => some (.uint16 n)
  | .uint32 n => some (.uint32 n)
  | .uint64 n => some (.uint64 n)
  | .time t => some (.time t)

private theorem Scalar.scalar?_toField {s : Scalar} (h : s.kind ≠ .decimal) :
    s.toField.scalar? = some s := by
  cases s with
  | decimal d => exact absurd rfl h
  | _ => rfl

theorem ScalarKind.name_inj {k l : ScalarKind} (h : k.name = l.name) : k = l := by
  cases k <;> cases l <;> simp_all [ScalarKind.name]

private theorem ScalarKind.name_ne_box (k : ScalarKind) (content : String) :
    k.name ≠ "Option<" ++ content := by
  intro h
  have hhead : "Option<".toList <+: k.name.toList := by
    rw [h, String.toList_append]
    exact List.prefix_append _ _
  cases k <;> simp [ScalarKind.name] at hhead

private theorem ScanShape.describe_ne {shape : ScanShape} {cell : ScanValue}
    (h : ¬ shape.Accepts cell) :
    shape.describe ≠ cell.describe := by
  cases cell with
  | missing => exact absurd (.missing shape) h
  | plain s =>
    cases shape with
    | plain k =>
      intro hname
      exact h (.plain (ScalarKind.name_inj hname).symm)
    | optional k =>
      rw [describe, String.append_assoc]
      exact (s.kind.name_ne_box _).symm
  | optional content =>
    cases shape with
    | plain k =>
      cases content with
      | none => exact k.name_ne_box "_>(None)"
      | some s =>
        rw [ScanValue.describe, String.append_assoc]
        exact k.name_ne_box _
    | optional k =>
      cases content with
      | none => exact absurd (.empty k) h
      | some s =>
        intro hname
        rw [describe, ScanValue.describe, String.append_left_inj, String.append_right_inj] at hname
        exact h (.boxed (ScalarKind.name_inj hname).symm)

namespace Converter

variable {c : Converter} {shape : ScanShape} {output : FieldType} {cell : ScanValue}

theorem exists_passThrough_iff :
    (∃ value, passThrough shape output cell = .ok value) ↔ shape.Accepts cell := by
  simp only [passThrough_eq_ok_iff]
  constructor
  · intro h
    obtain ⟨value, ⟨rfl, -⟩ | ⟨s, rfl, rfl, -⟩ | ⟨hoptional, rfl, -⟩ | ⟨s, rfl, rfl, -⟩⟩ := h
    · exact .missing shape
    · exact .plain rfl
    · cases shape with
      | plain k => simp [ScanShape.isOptional] at hoptional
      | optional k => exact .empty k
    · exact .boxed rfl
  · intro h
    cases h with
    | missing => exact ⟨_, .inl ⟨rfl, rfl⟩⟩
    | plain same => exact ⟨_, .inr (.inl ⟨_, by rw [same], rfl, rfl⟩)⟩
    | boxed same => exact ⟨_, .inr (.inr (.inr ⟨_, by rw [same], rfl, rfl⟩))⟩
    | empty k => exact ⟨_, .inr (.inr (.inl ⟨rfl, rfl, rfl⟩))⟩

theorem Takes.exists_value_iff (h : c.Takes shape) :
    (∃ value, c.convert cell = .ok value) ↔ shape.Accepts cell := by
  obtain ⟨output, after, hconvert⟩ := h.exists_passThrough
  have hpass :
      (∃ value, Converter.passThrough shape output cell = .ok value) ↔ shape.Accepts cell :=
    exists_passThrough_iff
  rw [← hpass]
  simp only [hconvert, map_eq_ok_iff]
  constructor
  · intro h
    obtain ⟨_, value, hvalue, -⟩ := h
    exact ⟨value, hvalue⟩
  · intro h
    obtain ⟨value, hvalue⟩ := h
    exact ⟨after value, value, hvalue, rfl⟩

private theorem Takes.convert_of_not_accepts (h : c.Takes shape) (hcell : ¬ shape.Accepts cell) :
    c.convert cell = .error (mismatch shape cell) := by
  cases hconvert : c.convert cell with
  | ok value => exact absurd (h.exists_value_iff.1 ⟨value, hconvert⟩) hcell
  | error e => rw [h.eq_mismatch hconvert]

private theorem scalar?_of_passThrough {value : FieldValue} {s : Scalar}
    (h : passThrough shape output cell = .ok value) (hs : cell.scalar? = some s)
    (hkind : s.kind ≠ .decimal) : value.scalar? = some s := by
  rcases passThrough_eq_ok_iff.1 h with
    ⟨rfl, -⟩ | ⟨t, -, rfl, rfl⟩ | ⟨-, rfl, -⟩ | ⟨t, -, rfl, rfl⟩
  · simp [ScanValue.scalar?] at hs
  · obtain rfl := Option.some.inj hs
    exact Scalar.scalar?_toField hkind
  · simp [ScanValue.scalar?] at hs
  · obtain rfl := Option.some.inj hs
    exact Scalar.scalar?_toField hkind

end Converter

namespace Registry

theorem takes_standard {c : Converter} (h : c ∈ standard.converters) : c.Takes c.shape := by
  rcases List.mem_append.1 h with h | h
  · rcases List.mem_append.1 h with h | h
    · obtain ⟨entry, -, rfl⟩ := List.mem_map.1 h
      exact .passThrough rfl
    · simp only [List.mem_cons, List.not_mem_nil, or_false] at h
      rcases h with rfl | rfl
      · exact .decimalToFloat rfl
      · exact .intervalToMillis rfl
  · rcases List.mem_append.1 h with h | h
    · obtain ⟨entry, -, rfl⟩ := List.mem_map.1 h
      exact .passThrough rfl
    · simp only [List.mem_cons, List.not_mem_nil, or_false] at h
      rcases h with rfl | rfl
      · exact .decimalToNullableFloat rfl
      · exact .intervalToNullableMillis rfl

end Registry

namespace Converter

/-- Which cells are converted, and what becomes of them and of the other ones, for the converters of
the standard registry and for all that pass through. -/
theorem convert_accepts (c : Converter)
    (hc : c ∈ Registry.standard.converters ∨ c.convert = passThrough c.shape c.output)
    (cell : ScanValue) :
    ((∃ value, c.convert cell = .ok value) ↔ c.shape.Accepts cell) ∧
    (¬ c.shape.Accepts cell →
      c.convert cell = .error (.shapeMismatch c.shape.describe cell.describe) ∧
        c.shape.describe ≠ cell.describe) ∧
    (∀ number, c.convert cell ≠ .error (.decimalOutOfRange number)) ∧
    (c.convert = passThrough c.shape c.output → ∀ s value, cell.scalar? = some s →
      s.kind ≠ .decimal → c.convert cell = .ok value → value.scalar? = some s) := by
  have htakes : c.Takes c.shape := hc.elim Registry.takes_standard .passThrough
  refine ⟨htakes.exists_value_iff, ?_, ?_, ?_⟩
  · intro hcell
    exact ⟨htakes.convert_of_not_accepts hcell, ScanShape.describe_ne hcell⟩
  · intro number hnumber
    have hmismatch := htakes.eq_mismatch hnumber
    simp [mismatch] at hmismatch
  · intro hpass s value hs hkind hvalue
    rw [hpass] at hvalue
    exact scalar?_of_passThrough hvalue hs hkind

def misdeclared : Converter := .passing "Reading" (.optional .float) BaseType.uint8.plain

/-- A number that is none, with a mark of its own. -/
def markedNaN : Scalar := .float ⟨0x7FC00001⟩

theorem convert_accepts_marked :
    misdeclared.convert = passThrough misdeclared.shape misdeclared.output ∧
      (∃ value, misdeclared.convert (.optional (some markedNaN)) = .ok value ∧
        value.scalar? = some markedNaN) ∧
      misdeclared.convert (.plain markedNaN) = .error (.shapeMismatch "Option<f32>" "f32") := by
  have hpass : misdeclared.convert = passThrough misdeclared.shape misdeclared.output := rfl
  have hboxed := convert_accepts misdeclared (.inr hpass) (.optional (some markedNaN))
  have hplain := convert_accepts misdeclared (.inr hpass) (.plain markedNaN)
  obtain ⟨value, hvalue⟩ := hboxed.1.2 (.boxed rfl)
  have hkept := hboxed.2.2.2 hpass markedNaN value rfl (by decide) hvalue
  have hbare : ¬ misdeclared.shape.Accepts (.plain markedNaN) := by
    have hshape : misdeclared.shape = .optional .float := rfl
    rw [hshape]
    nofun
  exact ⟨hpass, ⟨value, hvalue, hkept⟩, (hplain.2.1 hbare).1⟩

end Converter

end QueryFrame
