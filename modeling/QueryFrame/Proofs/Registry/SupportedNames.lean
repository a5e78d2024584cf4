import QueryFrame.Proofs.Registry.Resolution
import QueryFrame.Text.Blank

/-!
# The supported type names

The standard registry resolves its declared names, the names that begin like a decimal with a
precision, and the names that begin like an optional decimal with one. No name is of two of these
kinds, and no other name is resolved. How a name begins tells whether values may be absent.
-/

namespace QueryFrame.Registry

/-- The converter to which a type name belongs in the standard registry. -/
inductive Serves (typeName : String) (c : Converter) : Prop
  | declared (mem : c ∈ standard.converters) (name : c.name = typeName)
  | decimal (mem : c ∈ standard.converters) (name : c.name = "Decimal")
    (head : decimalHead <+: typeName.toList)
  | optionalDecimal (mem : c ∈ standard.converters) (name : c.name = optionalName "Decimal")
    (head : optionalDecimalHead <+: typeName.toList)

def lowerCase (name : String) : List Char := name.toList.map Char.toLower

def initials : List Char := "BDFIUTO".toList

section

variable {typeName name : String} {c : Converter}

private theorem not_optionalDecimalHead (h : decimalHead <+: typeName.toList) :
    ¬ optionalDecimalHead <+: typeName.toList := by
  have hapart : ¬ decimalHead <+: optionalDecimalHead ∧ ¬ optionalDecimalHead <+: decimalHead := by
    decide +kernel
  exact not_prefix_of_prefix hapart.1 hapart.2 h

theorem resolve_standard_eq_ok_iff : standard.resolve typeName = .ok c ↔ Serves typeName c := by
  rw [resolve_eq_ok_iff, resolve?_standard, get?_eq_some_iff]
  constructor
  · intro h
    obtain ⟨hmem, hname⟩ := h
    rw [declaredName] at hname
    split at hname
    · exact .decimal hmem hname ‹_›
    · split at hname
      · exact .optionalDecimal hmem hname ‹_›
      · exact .declared hmem hname
  · intro h
    cases h with
    | declared hmem hname =>
      have hdeclared : typeName ∈ standard.converters.map Converter.name :=
        hname ▸ List.mem_map_of_mem hmem
      have hheads := not_or.1 (not_head_of_declared hdeclared)
      exact ⟨hmem, by rw [declaredName, if_neg hheads.1, if_neg hheads.2, hname]⟩
    | decimal hmem hname hhead => exact ⟨hmem, by rw [declaredName, if_pos hhead, hname]⟩
    | optionalDecimal hmem hname hhead =>
      have hplain : ¬ decimalHead <+: typeName.toList := fun h => not_optionalDecimalHead h hhead
      exact ⟨hmem, by rw [declaredName, if_neg hplain, if_pos hhead, hname]⟩

theorem resolve_eq_unsupportedType (h : ¬ IsSupported typeName) :
    standard.resolve typeName = .error (.unsupportedType typeName) :=
  resolve_standard_eq_error_iff.2 ⟨h, rfl⟩

private theorem optionalHead_of_optionalDecimalHead (h : optionalDecimalHead <+: typeName.toList) :
    optionalHead <+: typeName.toList := by
  have hhead : optionalHead <+: optionalDecimalHead := by decide +kernel
  exact hhead.trans h

private theorem Serves.mem (h : Serves typeName c) : c ∈ standard.converters := by
  cases h with
  | declared hmem => exact hmem
  | decimal hmem => exact hmem
  | optionalDecimal hmem => exact hmem

private theorem Serves.optionalHead_iff (h : Serves typeName c) :
    optionalHead <+: c.name.toList ↔ optionalHead <+: typeName.toList := by
  have hdecimal : ¬ optionalHead <+: "Decimal".toList ∧
      optionalHead <+: (optionalName "Decimal").toList := by decide +kernel
  cases h with
  | declared _ hname => rw [hname]
  | decimal _ hname hhead =>
    have hplain : ¬ optionalHead <+: typeName.toList := fun h =>
      not_decimalHead_of_optionalHead h hhead
    simp only [hname, hdecimal.1, hplain]
  | optionalDecimal _ hname hhead =>
    simp only [hname, hdecimal.2, optionalHead_of_optionalDecimalHead hhead]

theorem Serves.isOptional_iff (h : Serves typeName c) :
    (c.shape.isOptional = true ↔ optionalHead <+: typeName.toList) ∧
      c.output.isNullable = c.shape.isOptional := by
  have htable : ∀ d ∈ standard.converters,
      (d.shape.isOptional = true ↔ optionalHead <+: d.name.toList) ∧
        d.output.isNullable = d.shape.isOptional := by decide +kernel
  rw [← h.optionalHead_iff]
  exact htable c h.mem

def hasInitial (text : List Char) : Bool := text.head?.any initials.contains

/-- Supported names are not empty, and begin with one of few capital letters. -/
theorem hasInitial_of_isSupported (h : IsSupported typeName) :
    hasInitial typeName.toList = true := by
  have hnames : ∀ name ∈ standard.converters.map Converter.name,
      hasInitial name.toList = true := by decide +kernel
  rcases h with h | ⟨rest, h⟩ | ⟨rest, h⟩
  · exact hnames typeName h
  · rw [← h]
    rfl
  · rw [← h]
    rfl

private theorem not_isSupported_empty : ¬ IsSupported "" := by
  intro h
  simpa [hasInitial] using hasInitial_of_isSupported h

private theorem not_isSupported_blank {blank : Char} (hblank : Text.isBlank blank = true)
    (name : String) :
    ¬ IsSupported (String.singleton blank ++ name) := by
  have hvisible : initials.all (!Text.isBlank ·) = true := by decide +kernel
  intro h
  have hinitial : blank ∈ initials := by simpa [hasInitial] using hasInitial_of_isSupported h
  simpa [hblank] using List.all_eq_true.1 hvisible blank hinitial

theorem not_isSupported_lowerCase (hname : name ∈ standard.converters.map Converter.name)
    (hcase : lowerCase typeName = lowerCase name) (hne : typeName ≠ name) :
    ¬ IsSupported typeName := by
  have hnodup : ((standard.converters.map Converter.name).map lowerCase).Nodup := by
    decide +kernel
  have hheads : ∀ name ∈ standard.converters.map Converter.name,
      ¬ decimalHead.map Char.toLower <+: lowerCase name ∧
        ¬ optionalDecimalHead.map Char.toLower <+: lowerCase name := by decide +kernel
  intro h
  rcases h with h | h | h
  · exact hne (List.inj_on_of_nodup_map hnodup h hname hcase)
  · exact (hheads name hname).1 (hcase ▸ h.map Char.toLower)
  · exact (hheads name hname).2 (hcase ▸ h.map Char.toLower)

theorem not_isSupported_optionalName_optionalName (name : String) :
    ¬ IsSupported (optionalName (optionalName name)) := by
  have hnames : ∀ name ∈ standard.converters.map Converter.name,
      ¬ optionalHead ++ optionalHead <+: name.toList := by decide +kernel
  have hdouble : optionalHead ++ optionalHead <+: (optionalName (optionalName name)).toList := by
    rw [toList_optionalName (optionalName name), List.prefix_append_right_inj]
    exact (optionalHead_optionalName name).trans (List.prefix_append _ _)
  intro h
  rcases h with h | h | h
  · exact hnames _ h hdouble
  · exact not_decimalHead_optionalName _ h
  · exact not_decimalHead_optionalName _ ((optionalDecimalHead_optionalName_iff _).1 h)

end

/-- Which type names the standard registry resolves, and to what. -/
theorem standard_resolves :
    (standard.converters.map Converter.name).length = 32 ∧
    (∀ typeName, ((∃ c, standard.resolve typeName = .ok c) ↔ IsSupported typeName) ∧
      (∀ c, standard.resolve typeName = .ok c ↔ Serves typeName c) ∧
      ∀ e, standard.resolve typeName = .error e ↔
        ¬ IsSupported typeName ∧ e = .unsupportedType typeName) ∧
    (∀ typeName : String, (typeName ∈ standard.converters.map Converter.name →
        ¬ decimalHead <+: typeName.toList ∧ ¬ optionalDecimalHead <+: typeName.toList) ∧
      (decimalHead <+: typeName.toList → ¬ optionalDecimalHead <+: typeName.toList)) ∧
    (∀ typeName c, standard.resolve typeName = .ok c →
      (c.shape.isOptional = true ↔ optionalHead <+: typeName.toList) ∧
        c.output.isNullable = c.shape.isOptional) ∧
    standard.resolve "" = .error (.unsupportedType "") ∧
    (∀ blank name, Text.isBlank blank = true → standard.resolve (String.singleton blank ++ name) =
      .error (.unsupportedType (String.singleton blank ++ name))) ∧
    (∀ typeName, ∀ name ∈ standard.converters.map Converter.name,
      lowerCase typeName = lowerCase name → typeName ≠ name →
        standard.resolve typeName = .error (.unsupportedType typeName)) ∧
    ∀ name, standard.resolve (optionalName (optionalName name)) =
      .error (.unsupportedType (optionalName (optionalName name))) := by
  refine ⟨by decide +kernel, ?_, ?_, ?_, ?_, ?_, ?_, ?_⟩
  · intro typeName
    refine ⟨?_, fun c => resolve_standard_eq_ok_iff, fun e => resolve_standard_eq_error_iff⟩
    rw [exists_resolve_eq_ok_iff, resolve?_standard, ne_eq, get?_eq_none_iff, not_not,
      isSupported_iff]
  · intro typeName
    exact ⟨fun h => not_or.1 (not_head_of_declared h), not_optionalDecimalHead⟩
  · intro typeName c h
    exact (resolve_standard_eq_ok_iff.1 h).isOptional_iff
  · exact resolve_eq_unsupportedType not_isSupported_empty
  · intro blank name hblank
    exact resolve_eq_unsupportedType (not_isSupported_blank hblank name)
  · intro typeName name hname hcase hne
    exact resolve_eq_unsupportedType (not_isSupported_lowerCase hname hcase hne)
  · intro name
    exact resolve_eq_unsupportedType (not_isSupported_optionalName_optionalName name)

/-- The written forms of the patterns. -/
example : standard.converters.filterMap (·.pattern.map Pattern.write) =
    ["^Decimal\\(".toList, "^Optional<Decimal\\(".toList] := by decide +kernel

theorem standard_resolves_decimal :
    ∃ c, standard.resolve "Optional<Decimal(22,9)>" = .ok c ∧ c.name = "Optional<Decimal>" ∧
      c.shape.isOptional = true ∧
      standard.resolve " Int32" = .error (.unsupportedType " Int32") ∧
      standard.resolve "int32" = .error (.unsupportedType "int32") ∧
      standard.resolve "Optional<Optional<Decimal(22,9)>>" =
        .error (.unsupportedType "Optional<Optional<Decimal(22,9)>>") := by
  obtain ⟨-, hresolves, -, hoptional, -, hblank, hcase, htwice⟩ := standard_resolves
  obtain ⟨c, hc⟩ := (hresolves "Optional<Decimal(22,9)>").1.2 (by decide +kernel)
  have hserves := ((hresolves "Optional<Decimal(22,9)>").2.1 c).1 hc
  have hname : c.name = "Optional<Decimal>" := by
    have hheads : "Optional<Decimal(22,9)>" ∉ standard.converters.map Converter.name ∧
        ¬ decimalHead <+: "Optional<Decimal(22,9)>".toList := by decide +kernel
    cases hserves with
    | declared hmem hname => exact absurd (hname ▸ List.mem_map_of_mem hmem) hheads.1
    | decimal _ _ hhead => exact absurd hhead hheads.2
    | optionalDecimal _ hname _ => exact hname
  refine ⟨c, hc, hname, (hoptional _ c hc).1.2 (by decide +kernel), ?_, ?_, ?_⟩
  · exact hblank ' ' "Int32" (by decide)
  · exact hcase "int32" "Int32" (by decide +kernel) (by decide +kernel) (by decide)
  · exact htwice "Decimal(22,9)"

end QueryFrame.Registry
