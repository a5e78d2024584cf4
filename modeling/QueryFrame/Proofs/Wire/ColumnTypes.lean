import QueryFrame.Proofs.Registry.SupportedNames
import QueryFrame.Proofs.Wire.Values
import QueryFrame.Wire.Catalog

/-!
# Types of the wire and types of the database

The built-in types of the wire go by names of the database's types, exactly as they are declared.
Every other type of the wire keeps its own name. Those of the server's own types are all names that
the database does not have. With the types that users define the two kinds of names are not kept
apart: one that has the name of a database type is taken for that type, although no cell of its
columns can be scanned.
-/

namespace QueryFrame.Wire

variable {type : ColumnType}

private theorem get?_builtin (h : type ∈ ColumnType.builtin) {converter : Converter}
    (hresolve : Registry.standard.resolve type.typeName = .ok converter) :
    Registry.standard.get? type.typeName = some converter := by
  have hnames : ∀ type ∈ ColumnType.builtin,
      Registry.declaredName type.typeName = type.typeName := by decide +kernel
  rw [Registry.resolve_eq_ok_iff, Registry.resolve?_standard, hnames type h] at hresolve
  exact hresolve

private theorem exists_other (h : type ∉ ColumnType.builtin) : ∃ name, type = .other name := by
  cases type with
  | other name => exact ⟨name, rfl⟩
  | _ => simp [ColumnType.builtin] at h

private theorem scan_other (shape : ScanShape) (name : String) (cell : Cell) :
    ∃ reason, scan shape (.other name) cell = .error (.queryFailed reason) := by
  have hunreadable : readable shape.kind (.other name) = false := by
    cases shape.kind <;> rfl
  cases hscannable : scannable shape.kind with
  | false => exact ⟨_, scan_unscannable hscannable _ cell⟩
  | true => exact ⟨_, by simp [scan, scanScalar, hscannable, hunreadable, Except.map]; rfl⟩

private theorem ofName_eq_other {name : String} (h : ColumnType.ofName name ∉ ColumnType.builtin) :
    ColumnType.ofName name = .other name := by
  rw [ColumnType.ofName] at h ⊢
  cases hfound : ColumnType.builtin.find? (·.name == name) with
  | none => rfl
  | some found =>
    rw [hfound] at h
    exact absurd (List.mem_of_find?_eq_some hfound) h

theorem not_isSupported_of_mem_catalog {name : String} (h : name ∈ catalog) :
    ¬ Registry.IsSupported name := by
  have hnames : ∀ name ∈ catalog, Registry.hasInitial name.toList = false := by decide +kernel
  intro hsupported
  have hinitial := Registry.hasInitial_of_isSupported hsupported
  rw [hnames name h] at hinitial
  exact absurd hinitial Bool.false_ne_true

private theorem resolve_of_ofName? {name : String} (h : ColumnType.ofName? name = some type)
    (hother : type ∉ ColumnType.builtin) :
    Registry.standard.resolve type.typeName = .error (.unsupportedType name) := by
  rw [ColumnType.ofName?] at h
  split at h
  · next hmem =>
    obtain rfl := Option.some.inj h
    rw [ofName_eq_other hother]
    exact Registry.resolve_eq_unsupportedType (not_isSupported_of_mem_catalog hmem)
  · simp at h

/-- Columns of a built-in type go by exact name to a converter of boxes in which their cells can be
scanned. Columns of any other type are refused by its name, unless the database supports a type of
that name; even then none of their cells is scanned. The server's own types have no such name. -/
theorem resolve_typeName (type : ColumnType) :
    (type ∈ ColumnType.builtin → ∃ converter kind,
      Registry.standard.get? type.typeName = some converter ∧
        Registry.standard.resolve type.typeName = .ok converter ∧
        converter.shape = .optional kind ∧
        ∀ cell : Cell, (∀ value, cell = some value → value.decodes type = true) →
          ∃ scanned, scan converter.shape type cell = .ok scanned) ∧
    (type ∉ ColumnType.builtin →
      (Registry.standard.resolve type.typeName = .error (.unsupportedType type.name) ↔
        ¬ Registry.IsSupported type.name) ∧
      (∀ shape cell, ∃ reason, scan shape type cell = .error (.queryFailed reason)) ∧
      ∀ name, ColumnType.ofName? name = some type →
        Registry.standard.resolve type.typeName = .error (.unsupportedType name)) := by
  constructor
  · intro h
    obtain ⟨converter, kind, hresolve, hshape, hkind, -⟩ := resolve_builtin h
    refine ⟨converter, kind, get?_builtin h hresolve, hresolve, hshape, ?_⟩
    intro cell hcell
    rw [hshape]
    exact ⟨_, scan_eq_ok hkind hcell⟩
  · intro h
    refine ⟨?_, ?_, fun name hname => resolve_of_ofName? hname h⟩
    · obtain ⟨name, rfl⟩ := exists_other h
      simp only [ColumnType.typeName, ColumnType.name, Registry.resolve_standard_eq_error_iff,
        and_true]
    · intro shape cell
      obtain ⟨name, rfl⟩ := exists_other h
      exact scan_other shape name cell

theorem resolve_typeName_date :
    ColumnType.date ∈ ColumnType.builtin ∧ ColumnType.other "jsonb" ∉ ColumnType.builtin ∧
      ColumnType.other "Money" ∉ ColumnType.builtin ∧
      (∃ converter, Registry.standard.get? "Optional<Date>" = some converter ∧
        converter.shape.isOptional = true) ∧
      ColumnType.ofName? "jsonb" = some (.other "jsonb") ∧
      Registry.standard.resolve "jsonb" = .error (.unsupportedType "jsonb") ∧
      ColumnType.ofName? "Money" = none ∧
      Registry.standard.resolve "Money" = .error (.unsupportedType "Money") := by
  have hdate : ColumnType.date ∈ ColumnType.builtin := by decide
  have hjsonb : ColumnType.other "jsonb" ∉ ColumnType.builtin := by decide
  have hmoney : ColumnType.other "Money" ∉ ColumnType.builtin := by decide
  have hown : ColumnType.ofName? "jsonb" = some (.other "jsonb") := by decide +kernel
  obtain ⟨converter, _, hget, -, hshape, -⟩ := (resolve_typeName .date).1 hdate
  obtain ⟨-, -, hrefused⟩ := (resolve_typeName (.other "jsonb")).2 hjsonb
  obtain ⟨hiff, -, -⟩ := (resolve_typeName (.other "Money")).2 hmoney
  exact ⟨hdate, hjsonb, hmoney, ⟨converter, hget, by rw [hshape]; rfl⟩, hown,
    hrefused "jsonb" hown, by decide +kernel, hiff.2 (by decide +kernel)⟩

/-- A type that a user has named `Bool` goes to the converter of the database's own `Bool`. -/
theorem resolve_other_bool :
    ColumnType.other "Bool" ∉ ColumnType.builtin ∧
      Registry.standard.resolve (ColumnType.other "Bool").typeName ≠
        .error (.unsupportedType (ColumnType.other "Bool").name) ∧
      ∃ converter, Registry.standard.resolve (ColumnType.other "Bool").typeName = .ok converter ∧
        converter.name = "Bool" ∧ converter.shape = .plain .bool := by
  have hresolve : ∃ converter,
      Registry.standard.resolve (ColumnType.other "Bool").typeName = .ok converter ∧
        converter.name = "Bool" ∧ converter.shape = .plain .bool := ⟨_, rfl, rfl, rfl⟩
  refine ⟨by decide, ?_, hresolve⟩
  obtain ⟨converter, hconverter, -⟩ := hresolve
  rw [hconverter]
  exact nofun

end QueryFrame.Wire
