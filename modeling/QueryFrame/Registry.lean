import QueryFrame.Converter

/-!
# Registries of converters

A registry is a list of converters with distinct names. A type name belongs to the converter of
that name, wherever it stands; a name that no converter has belongs to the first converter whose
pattern it matches.
-/

namespace QueryFrame

/-- Converters with distinct names, in the order in which patterns are tried. -/
structure Registry where
  converters : List Converter
  nodup_names : (converters.map Converter.name).Nodup

namespace Registry

/-- The first of the names that is in `met` or stands behind an equal one. -/
def firstRepeated? (met : List String) : List String → Option String
  | [] => none
  | name :: names => if name ∈ met then some name else firstRepeated? (name :: met) names

theorem firstRepeated?_eq_none_iff (met names : List String) :
    firstRepeated? met names = none ↔ names.Nodup ∧ ∀ name ∈ names, name ∉ met := by
  induction names generalizing met with
  | nil => simp [firstRepeated?]
  | cons name names ih =>
    by_cases h : name ∈ met
    · simp [firstRepeated?, h]
    · simp only [firstRepeated?, h, if_false, ih, List.nodup_cons, List.mem_cons, not_or]
      constructor
      · rintro ⟨hn, hm⟩
        refine ⟨⟨fun hmem => (hm name hmem).1 rfl, hn⟩, ?_⟩
        rintro x (rfl | hx)
        · exact h
        · exact (hm x hx).2
      · rintro ⟨⟨hname, hn⟩, hm⟩
        exact ⟨hn, fun x hx => ⟨fun e => hname (e ▸ hx), hm x (.inr hx)⟩⟩

/-- The registry of the given converters, unless a name is declared twice. -/
def ofConverters (converters : List Converter) : Except QueryError Registry :=
  match h : firstRepeated? [] (converters.map Converter.name) with
  | some name => .error (.duplicateConverter name)
  | none => .ok ⟨converters, ((firstRepeated?_eq_none_iff _ _).1 h).1⟩

def get? (r : Registry) (name : String) : Option Converter :=
  r.converters.find? (·.name == name)

def resolve? (r : Registry) (typeName : String) : Option Converter :=
  (r.get? typeName).or (r.converters.find? (·.matchesPattern typeName))

/-- The converter that a type name belongs to; an unsupported name is an error. -/
def resolve (r : Registry) (typeName : String) : Except QueryError Converter :=
  match r.resolve? typeName with
  | some c => .ok c
  | none => .error (.unsupportedType typeName)

end Registry

end QueryFrame
