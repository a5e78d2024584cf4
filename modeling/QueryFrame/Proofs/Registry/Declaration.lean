import QueryFrame.Proofs.Registry.Resolution
import QueryFrame.Proofs.Traversal

/-!
# Declared converters

A list of converters makes a registry unless a name is declared twice; it is refused with the first
name that repeats an earlier one. In a registry a type name belongs to the converter of that name,
wherever that one stands and whatever the patterns are, and otherwise to the first converter whose
pattern matches. This holds for every meaning of patterns and not only for that of literal texts.
-/

namespace QueryFrame.Registry

/-- Resolution of a type name, if patterns match what `accepts` says. -/
def resolveAs (accepts : Pattern → List Char → Bool) (r : Registry) (typeName : String) :
    Except QueryError Converter :=
  match (r.get? typeName).or (r.converters.find? (·.matchesAs accepts typeName)) with
  | some c => .ok c
  | none => .error (.unsupportedType typeName)

theorem resolveAs_accepts (r : Registry) : r.resolveAs Pattern.accepts = r.resolve := rfl

/-- The first of the converters whose pattern matches the type name. -/
def IsFirstMatch (accepts : Pattern → List Char → Bool) (cs : List Converter) (typeName : String)
    (c : Converter) : Prop :=
  ∃ before after, cs = before ++ c :: after ∧ c.matchesAs accepts typeName = true ∧
    ∀ b ∈ before, b.matchesAs accepts typeName = false

/-- The names before the first repeated one are all new and differ from each other. -/
theorem firstRepeated?_eq_some_iff {met names : List String} {name : String} :
    firstRepeated? met names = some name ↔ ∃ before repeated after,
      names = before ++ repeated :: after ∧ (before.Nodup ∧ ∀ b ∈ before, b ∉ met) ∧
        (repeated ∈ met ∨ repeated ∈ before) ∧ repeated = name := by
  induction names generalizing met with
  | nil => simp [firstRepeated?]
  | cons first names ih =>
    rw [exists_split_cons]
    by_cases hfirst : first ∈ met
    · simp [firstRepeated?, hfirst]
    · -- the name that was met last may stand among the names met or before the repeated one
      have hmove (before : List String) (repeated : String) :
          (before.Nodup ∧ ∀ b ∈ before, b ∉ first :: met) ∧
              (repeated ∈ first :: met ∨ repeated ∈ before) ∧ repeated = name ↔
            ((first :: before).Nodup ∧ ∀ b ∈ first :: before, b ∉ met) ∧
              (repeated ∈ met ∨ repeated ∈ first :: before) ∧ repeated = name := by grind
      rw [firstRepeated?, if_neg hfirst, ih, or_iff_right (by simp [hfirst])]
      simp only [hmove]

section

variable {cs : List Converter} {r : Registry} {c : Converter} {e : QueryError}
  {accepts : Pattern → List Char → Bool} {typeName : String}

private theorem firstRepeated?_names (r : Registry) :
    firstRepeated? [] (r.converters.map Converter.name) = none :=
  (firstRepeated?_eq_none_iff _ _).2 ⟨r.nodup_names, by simp⟩

theorem ofConverters_eq_ok_iff : ofConverters cs = .ok r ↔ r.converters = cs := by
  rw [ofConverters]
  constructor
  · intro h
    split at h
    · simp at h
    · rw [← Except.ok.inj h]
  · intro h
    subst h
    split
    · rename_i name hname
      rw [firstRepeated?_names] at hname
      simp at hname
    · rfl

theorem exists_ofConverters_iff :
    (∃ r, ofConverters cs = .ok r) ↔ (cs.map Converter.name).Nodup := by
  simp only [ofConverters_eq_ok_iff]
  constructor
  · intro h
    obtain ⟨r, hr⟩ := h
    rw [← hr]
    exact r.nodup_names
  · intro h
    exact ⟨⟨cs, h⟩, rfl⟩

theorem ofConverters_eq_error_iff :
    ofConverters cs = .error e ↔ ∃ before c after, cs = before ++ c :: after ∧
      (before.map Converter.name).Nodup ∧ c.name ∈ before.map Converter.name ∧
      e = .duplicateConverter c.name := by
  have hrepeated : ofConverters cs = .error e ↔ ∃ name,
      firstRepeated? [] (cs.map Converter.name) = some name ∧ e = .duplicateConverter name := by
    rw [ofConverters]
    split <;> simp [*, @eq_comm _ e]
  simp only [hrepeated, firstRepeated?_eq_some_iff, List.not_mem_nil, false_or]
  constructor
  · intro h
    obtain ⟨name, ⟨names, repeated, rest, hsplit, hnew, hmem, hname⟩, he⟩ := h
    obtain ⟨before, tail, hcs, hbefore, htail⟩ := List.map_eq_append_iff.1 hsplit
    obtain ⟨c, after, hcons, hc, -⟩ := List.map_eq_cons_iff.1 htail
    subst hbefore hc hcons hname
    exact ⟨before, c, after, hcs, hnew.1, hmem, he⟩
  · intro h
    obtain ⟨before, c, after, hcs, hnodup, hmem, he⟩ := h
    refine ⟨c.name, ⟨before.map Converter.name, c.name, after.map Converter.name, ?_, ?_⟩, he⟩
    · rw [hcs, List.map_append, List.map_cons]
    · exact ⟨⟨hnodup, by simp⟩, hmem, rfl⟩

theorem resolveAs_of_get? (h : r.get? typeName = some c) :
    r.resolveAs accepts typeName = .ok c := by
  rw [resolveAs, h]
  rfl

theorem resolveAs_eq_ok_iff_of_get? (h : r.get? typeName = none) :
    r.resolveAs accepts typeName = .ok c ↔
      r.converters.find? (·.matchesAs accepts typeName) = some c := by
  rw [resolveAs, h, Option.none_or]
  cases r.converters.find? (·.matchesAs accepts typeName) <;> simp

theorem find?_matchesAs_iff :
    cs.find? (·.matchesAs accepts typeName) = some c ↔ IsFirstMatch accepts cs typeName c := by
  rw [List.find?_eq_some_iff_append, IsFirstMatch]
  simp only [Bool.not_eq_true', exists_and_right]
  tauto

theorem resolveAs_eq_error_iff :
    r.resolveAs accepts typeName = .error e ↔
      (∀ c ∈ r.converters, c.name ≠ typeName ∧ c.matchesAs accepts typeName = false) ∧
        e = .unsupportedType typeName := by
  have hnone : (r.get? typeName).or (r.converters.find? (·.matchesAs accepts typeName)) = none ↔
      ∀ c ∈ r.converters, c.name ≠ typeName ∧ c.matchesAs accepts typeName = false := by
    rw [Option.or_eq_none_iff, get?, List.find?_eq_none, List.find?_eq_none, ← forall₂_and]
    simp
  rw [resolveAs, ← hnone]
  cases (r.get? typeName).or (r.converters.find? (·.matchesAs accepts typeName)) <;>
    simp [@eq_comm _ e]

end

/-- Which lists of converters make a registry, and to which of them a type name belongs. -/
theorem ofConverters_resolves (cs : List Converter) :
    ((∃ r, ofConverters cs = .ok r) ↔ (cs.map Converter.name).Nodup) ∧
    (∀ e, ofConverters cs = .error e ↔ ∃ before c after, cs = before ++ c :: after ∧
      (before.map Converter.name).Nodup ∧ c.name ∈ before.map Converter.name ∧
      e = .duplicateConverter c.name) ∧
    ∀ r, ofConverters cs = .ok r → r.converters = cs ∧
      r.resolve = r.resolveAs Pattern.accepts ∧
      (∀ typeName c, r.get? typeName = some c ↔ c ∈ cs ∧ c.name = typeName) ∧
      ∀ accepts typeName,
        (∀ c ∈ cs, c.name = typeName → r.resolveAs accepts typeName = .ok c) ∧
        ((∀ c ∈ cs, c.name ≠ typeName) → ∀ c,
          r.resolveAs accepts typeName = .ok c ↔ IsFirstMatch accepts cs typeName c) ∧
        ∀ e, r.resolveAs accepts typeName = .error e ↔
          (∀ c ∈ cs, c.name ≠ typeName ∧ c.matchesAs accepts typeName = false) ∧
            e = .unsupportedType typeName := by
  refine ⟨exists_ofConverters_iff, fun e => ofConverters_eq_error_iff, ?_⟩
  intro r hr
  rw [ofConverters_eq_ok_iff] at hr
  subst hr
  refine ⟨rfl, (resolveAs_accepts r).symm, fun typeName c => get?_eq_some_iff, ?_⟩
  intro accepts typeName
  refine ⟨?_, ?_, fun e => resolveAs_eq_error_iff⟩
  · intro c hc hname
    exact resolveAs_of_get? (get?_eq_some_iff.2 ⟨hc, hname⟩)
  · intro hnames c
    have hget : r.get? typeName = none := by simpa [get?_eq_none_iff] using hnames
    rw [resolveAs_eq_ok_iff_of_get? hget, find?_matchesAs_iff]

def anyType : Converter :=
  { Converter.passing "Any" (.plain .int64) ⟨.int64, false⟩ with pattern := some .anything }

def boolType : Converter := .passing "Bool" (.plain .bool) ⟨.bool, false⟩

theorem ofConverters_resolves_greedy :
    ∃ r, ofConverters [anyType, boolType] = .ok r ∧
      r.get? "Bool" = some boolType ∧ r.resolve "Bool" = .ok boolType ∧
      r.resolve "Utf8" = .ok anyType ∧
      ofConverters [anyType, boolType, anyType, boolType] =
        .error (.duplicateConverter "Any") := by
  have h := ofConverters_resolves [anyType, boolType]
  obtain ⟨r, hr⟩ := h.1.2 (by decide)
  obtain ⟨-, hresolve, hget, hresolves⟩ := h.2.2 r hr
  have hbool : boolType ∈ [anyType, boolType] := by simp
  have hunnamed : ∀ c ∈ [anyType, boolType], c.name ≠ "Utf8" := by decide
  refine ⟨r, hr, (hget "Bool" boolType).2 ⟨hbool, rfl⟩, ?_, ?_, ?_⟩
  · rw [hresolve]
    exact (hresolves Pattern.accepts "Bool").1 boolType hbool rfl
  · rw [hresolve, (hresolves Pattern.accepts "Utf8").2.1 hunnamed]
    exact ⟨[], [boolType], rfl, rfl, by simp⟩
  · rw [(ofConverters_resolves _).2.1]
    exact ⟨[anyType, boolType], anyType, [boolType], rfl, by decide, by decide, rfl⟩

end QueryFrame.Registry
