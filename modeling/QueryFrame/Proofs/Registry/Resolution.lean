import Mathlib.Data.List.Nodup
import QueryFrame.Registry.Standard

/-!
# Resolution of type names

A registry finds each converter under the converter's own name. In the standard registry every
supported type name stands for a declared one: the names of decimals with a precision stand for the
bare decimal types, and all other names for themselves.
-/

namespace QueryFrame

/-- Whether a type name matches the converter's pattern, if patterns match what `accepts` says. -/
def Converter.matchesAs (accepts : Pattern → List Char → Bool) (c : Converter)
    (typeName : String) : Bool :=
  c.pattern.any (accepts · typeName.toList)

namespace Registry

variable {r : Registry} {name : String} {c : Converter}

theorem get?_eq_some_iff : r.get? name = some c ↔ c ∈ r.converters ∧ c.name = name := by
  rw [get?]
  constructor
  · intro h
    exact ⟨List.mem_of_find?_eq_some h, by simpa using List.find?_some h⟩
  · rintro ⟨hmem, rfl⟩
    cases hfound : r.converters.find? (·.name == c.name) with
    | none => simpa using List.find?_eq_none.1 hfound c hmem
    | some found =>
      have hname : found.name = c.name := by simpa using List.find?_some hfound
      have hfoundMem := List.mem_of_find?_eq_some hfound
      rw [List.inj_on_of_nodup_map r.nodup_names hfoundMem hmem hname]

theorem resolve_eq_ok_iff {typeName : String} :
    r.resolve typeName = .ok c ↔ r.resolve? typeName = some c := by
  rw [resolve]
  cases r.resolve? typeName <;> simp

theorem exists_resolve_eq_ok_iff {typeName : String} :
    (∃ c, r.resolve typeName = .ok c) ↔ r.resolve? typeName ≠ none := by
  simp only [resolve_eq_ok_iff, Option.ne_none_iff_exists']

theorem resolve_eq_error_iff {typeName : String} {e : QueryError} :
    r.resolve typeName = .error e ↔ r.resolve? typeName = none ∧ e = .unsupportedType typeName := by
  rw [resolve]
  cases r.resolve? typeName <;> simp [@eq_comm _ e]

theorem mem_of_resolve {typeName : String} (h : r.resolve typeName = .ok c) :
    c ∈ r.converters := by
  rw [resolve_eq_ok_iff] at h
  rcases Option.or_eq_some_iff.1 h with hname | ⟨_, hpattern⟩
  · exact List.mem_of_find?_eq_some hname
  · exact List.mem_of_find?_eq_some hpattern

theorem find?_matchesAs (accepts : Pattern → List Char → Bool) (cs : List Converter)
    (typeName : String) :
    cs.find? (·.matchesAs accepts typeName) =
      (cs.filter (·.pattern.isSome)).find? (·.matchesAs accepts typeName) := by
  rw [List.find?_filter]
  congr 1
  funext c
  cases h : c.pattern <;> simp [Converter.matchesAs, h]

private theorem find?_matchesPattern (r : Registry) (typeName : String) :
    r.converters.find? (·.matchesPattern typeName) =
      (r.converters.filter (·.pattern.isSome)).find? (·.matchesPattern typeName) :=
  find?_matchesAs Pattern.accepts r.converters typeName

/-- What the names of decimals with a precision begin with. -/
def decimalHead : List Char := "Decimal(".toList

def optionalDecimalHead : List Char := "Optional<Decimal(".toList

/-- The declared name that a type name stands for. -/
def declaredName (typeName : String) : String :=
  if decimalHead <+: typeName.toList then "Decimal"
  else if optionalDecimalHead <+: typeName.toList then optionalName "Decimal"
  else typeName

theorem patterned_standard :
    ∃ decimal optional, standard.converters.filter (·.pattern.isSome) = [decimal, optional] ∧
      (decimal.name = "Decimal" ∧ decimal.pattern = some (.literal true decimalHead false)) ∧
      optional.name = optionalName "Decimal" ∧
        optional.pattern = some (.literal true optionalDecimalHead false) :=
  ⟨_, _, rfl, ⟨rfl, rfl⟩, rfl, rfl⟩

private theorem matchesPattern_head {head : List Char}
    (h : c.pattern = some (.literal true head false))
    (typeName : String) : c.matchesPattern typeName = decide (head <+: typeName.toList) := by
  rw [Converter.matchesPattern, h, Bool.eq_iff_iff, decide_eq_true_iff,
    ← List.isPrefixOf_iff_prefix]
  rfl

theorem not_head_of_declared {typeName : String}
    (h : typeName ∈ standard.converters.map Converter.name) :
    ¬ (decimalHead <+: typeName.toList ∨ optionalDecimalHead <+: typeName.toList) := by
  have hnames : ∀ name ∈ standard.converters.map Converter.name,
      ¬ (decimalHead <+: name.toList ∨ optionalDecimalHead <+: name.toList) := by decide +kernel
  exact hnames typeName h

theorem get?_eq_none_iff : r.get? name = none ↔ name ∉ r.converters.map Converter.name := by
  simp [get?, List.find?_eq_none]

private theorem get?_head {typeName : String}
    (h : decimalHead <+: typeName.toList ∨ optionalDecimalHead <+: typeName.toList) :
    standard.get? typeName = none :=
  get?_eq_none_iff.2 fun hdeclared => not_head_of_declared hdeclared h

/-- The patterns of the standard registry do no more than to give declared names further forms. -/
theorem resolve?_standard (typeName : String) :
    standard.resolve? typeName = standard.get? (declaredName typeName) := by
  obtain ⟨decimal, optional, hfilter, ⟨hdecimal, hhead⟩, hoptional, hoptionalHead⟩ :=
    patterned_standard
  have hmem (c : Converter) (hc : c ∈ [decimal, optional]) : standard.get? c.name = some c := by
    rw [← hfilter] at hc
    exact get?_eq_some_iff.2 ⟨List.mem_of_mem_filter hc, rfl⟩
  rw [resolve?, find?_matchesPattern, hfilter, List.find?_cons, List.find?_cons, List.find?_nil,
    matchesPattern_head hhead, matchesPattern_head hoptionalHead, declaredName]
  by_cases h : decimalHead <+: typeName.toList
  · rw [get?_head (.inl h), if_pos h, ← hdecimal, hmem decimal (by simp)]
    simp [h]
  · by_cases h' : optionalDecimalHead <+: typeName.toList
    · rw [get?_head (.inr h'), if_neg h, if_pos h', ← hoptional, hmem optional (by simp)]
      simp [h, h']
    · simp [h, h']

/-- The name is a declared one, or that of a decimal with a precision. -/
def IsSupported (typeName : String) : Prop :=
  typeName ∈ standard.converters.map Converter.name ∨
    decimalHead <+: typeName.toList ∨ optionalDecimalHead <+: typeName.toList

instance (typeName : String) : Decidable (IsSupported typeName) :=
  inferInstanceAs (Decidable (_ ∨ _))

theorem isSupported_iff {typeName : String} :
    IsSupported typeName ↔ declaredName typeName ∈ standard.converters.map Converter.name := by
  have hdeclared : "Decimal" ∈ standard.converters.map Converter.name ∧
      optionalName "Decimal" ∈ standard.converters.map Converter.name := by decide +kernel
  by_cases h : decimalHead <+: typeName.toList
  · simp only [IsSupported, declaredName, h, if_true, hdeclared, true_or, or_true]
  · by_cases h' : optionalDecimalHead <+: typeName.toList
    · simp only [IsSupported, declaredName, h, h', if_true, if_false, hdeclared, or_true]
    · simp only [IsSupported, declaredName, h, h', if_false, or_false]

theorem resolve_standard_eq_error_iff {typeName : String} {e : QueryError} :
    standard.resolve typeName = .error e ↔
      ¬ IsSupported typeName ∧ e = .unsupportedType typeName := by
  rw [resolve_eq_error_iff, resolve?_standard, get?_eq_none_iff, isSupported_iff]

theorem not_prefix_of_prefix {head other text : List Char} (h : ¬ head <+: other)
    (h' : ¬ other <+: head) (hhead : head <+: text) : ¬ other <+: text := by
  intro hother
  exact (List.prefix_or_prefix_of_prefix hhead hother).elim h h'

/-- What the names of types with absent values begin with. -/
def optionalHead : List Char := "Optional<".toList

theorem toList_optionalName (name : String) :
    (optionalName name).toList = optionalHead ++ (name.toList ++ ['>']) := by
  have hhead : optionalHead = "Optional<".toList := rfl
  simp [hhead, optionalName]

theorem optionalHead_optionalName (name : String) :
    optionalHead <+: (optionalName name).toList := by
  rw [toList_optionalName]
  exact List.prefix_append _ _

theorem not_decimalHead_of_optionalHead {text : List Char} (h : optionalHead <+: text) :
    ¬ decimalHead <+: text := by
  have hapart : ¬ optionalHead <+: decimalHead ∧ ¬ decimalHead <+: optionalHead := by
    decide +kernel
  exact not_prefix_of_prefix hapart.1 hapart.2 h

theorem not_decimalHead_optionalName (name : String) :
    ¬ decimalHead <+: (optionalName name).toList :=
  not_decimalHead_of_optionalHead (optionalHead_optionalName name)

theorem optionalDecimalHead_optionalName_iff (name : String) :
    optionalDecimalHead <+: (optionalName name).toList ↔ decimalHead <+: name.toList := by
  have hhead : optionalDecimalHead = optionalHead ++ decimalHead := by decide +kernel
  rw [toList_optionalName, hhead, List.prefix_append_right_inj, List.prefix_concat_iff]
  constructor
  · rintro (hwhole | hname)
    · -- the head would end with the bracket that closes the optional name
      have hlast := congrArg List.getLast? hwhole
      rw [List.getLast?_concat] at hlast
      have hne : decimalHead.getLast? ≠ some '>' := by decide +kernel
      exact absurd hlast hne
    · exact hname
  · exact .inr

theorem declaredName_optionalName {name : String} (h : declaredName name ≠ optionalName "Decimal") :
    declaredName (optionalName name) = optionalName (declaredName name) := by
  have hplain := not_decimalHead_optionalName name
  have hoptional := optionalDecimalHead_optionalName_iff name
  by_cases hdecimal : decimalHead <+: name.toList
  · simp only [declaredName, hplain, hoptional, hdecimal, if_true, if_false]
  · have hhead : ¬ optionalDecimalHead <+: name.toList := by
      intro hhead
      exact h (by simp only [declaredName, hdecimal, hhead, if_true, if_false])
    simp only [declaredName, hplain, hoptional, hdecimal, hhead, if_false]

end Registry

end QueryFrame
