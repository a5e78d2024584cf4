import QueryFrame.Proofs.Converter.PassThrough
import QueryFrame.Proofs.Registry.Resolution

/-!
# Twins for optional values

In the standard registry every converter of values that are always present has a twin for values
that may be absent. The twin goes by the optional name, also where the name carries a precision, and
makes of a scalar in a box what the first converter makes of the bare scalar.
-/

namespace QueryFrame

/-- The twin converts those values of the first converter's type that may be absent. -/
structure Converter.IsTwin (c twin : Converter) : Prop where
  name : twin.name = Registry.optionalName c.name
  shape : ∃ kind, c.shape = .plain kind ∧ twin.shape = .optional kind
  output : c.output.isNullable = false ∧ twin.output = c.output.nullable
  kept : ∀ s value, c.convert (.plain s) = .ok value →
    twin.convert (.optional (some s)) = .ok value
  refused : ∀ s e, c.convert (.plain s) = .error e → ∃ expected received,
    e = .shapeMismatch expected received ∧ twin.convert (.optional (some s)) =
      .error (.shapeMismatch ("Option<" ++ expected ++ ">") ("Option<" ++ received ++ ">"))
  absent : twin.convert (.optional none) = .ok .null
  missing : c.convert .missing = .ok c.output.zero ∧ twin.convert .missing = .ok .null

namespace Converter

/-- Converters are twins if they pass scalars of one kind through, bare and in boxes, and change
them afterwards in one way that leaves null and zero alone. -/
private theorem IsTwin.of_passThrough {c twin : Converter} {kind : ScalarKind} {base : BaseType}
    (after : FieldValue → FieldValue) (hname : twin.name = Registry.optionalName c.name)
    (hshape : c.shape = .plain kind ∧ twin.shape = .optional kind)
    (houtput : c.output = base.plain ∧ twin.output = base.plain.nullable)
    (hc : ∀ cell, c.convert cell = (passThrough (.plain kind) base.plain cell).map after)
    (htwin : ∀ cell, twin.convert cell =
      (passThrough (.optional kind) base.plain.nullable cell).map after)
    (hnull : after .null = .null) (hzero : after base.zero = base.zero) : c.IsTwin twin where
  name := hname
  shape := ⟨kind, hshape⟩
  output := by
    rw [houtput.1, houtput.2]
    exact ⟨rfl, rfl⟩
  kept := by
    intro s value h
    by_cases hkind : s.kind = kind
    · rw [hc, passThrough, if_pos hkind] at h
      rw [htwin, passThrough, if_pos hkind]
      exact h
    · rw [hc, passThrough, if_neg hkind] at h
      simp [Except.map] at h
  refused := by
    intro s e h
    by_cases hkind : s.kind = kind
    · rw [hc, passThrough, if_pos hkind] at h
      simp [Except.map] at h
    · rw [hc, passThrough, if_neg hkind] at h
      refine ⟨kind.name, s.kind.name, (Except.error.inj h).symm, ?_⟩
      rw [htwin, passThrough, if_neg hkind]
      rfl
  absent := by
    rw [htwin]
    exact congrArg Except.ok hnull
  missing := by
    rw [hc, htwin, houtput.1]
    exact ⟨congrArg Except.ok hzero, congrArg Except.ok hnull⟩

end Converter

namespace Registry

private theorem forall₂_isTwin :
    List.Forall₂ Converter.IsTwin plainConverters optionalConverters := by
  rw [plainConverters, optionalConverters]
  apply List.rel_append
  · rw [List.forall₂_map_left_iff, List.forall₂_map_right_iff, List.forall₂_same]
    intro entry _
    exact .of_passThrough id rfl ⟨rfl, rfl⟩ ⟨rfl, rfl⟩ (fun _ => eq_map_id _)
      (fun _ => eq_map_id _) rfl rfl
  · refine .cons ?_ (.cons ?_ .nil)
    · apply Converter.IsTwin.of_passThrough id rfl ⟨rfl, rfl⟩ ⟨rfl, rfl⟩ _ _ rfl rfl
      · intro cell
        exact (Converter.decimalToFloat_eq cell).trans (eq_map_id _)
      · intro cell
        exact (Converter.decimalToNullableFloat_eq cell).trans (eq_map_id _)
    · exact .of_passThrough Converter.inMillis rfl ⟨rfl, rfl⟩ ⟨rfl, rfl⟩
        Converter.intervalToMillis_eq Converter.intervalToNullableMillis_eq rfl rfl

variable {c : Converter} {kind : ScalarKind}

private theorem mem_plainConverters (hc : c ∈ standard.converters)
    (hshape : c.shape = .plain kind) :
    c ∈ plainConverters := by
  rcases List.mem_append.1 hc with hplain | hoptional
  · exact hplain
  · obtain ⟨j, hj⟩ := List.mem_iff_getElem?.1 hoptional
    obtain ⟨first, _, htwin⟩ := exists_getElem?_left forall₂_isTwin hj
    obtain ⟨kind', _, hkind'⟩ := htwin.shape
    simp [hshape] at hkind'

private theorem exists_isTwin (hc : c ∈ standard.converters) (hshape : c.shape = .plain kind) :
    ∃ twin ∈ standard.converters, c.IsTwin twin := by
  obtain ⟨j, hj⟩ := List.mem_iff_getElem?.1 (mem_plainConverters hc hshape)
  obtain ⟨twin, htwin, h⟩ := exists_getElem?_right forall₂_isTwin hj
  exact ⟨twin, List.mem_append_right _ (List.mem_of_getElem? htwin), h⟩

private theorem name_ne_optional_decimal (hc : c ∈ plainConverters) :
    c.name ≠ optionalName "Decimal" := by
  have hnames : ∀ name ∈ plainConverters.map Converter.name, name ≠ optionalName "Decimal" := by
    decide +kernel
  exact hnames c.name (List.mem_map_of_mem hc)

/-- Every type name with values that are always present has an optional twin, and so have all names
of decimals with a precision. -/
theorem resolve_optionalName :
    (∀ typeName c kind, standard.resolve typeName = .ok c → c.shape = .plain kind →
      ∃ twin, standard.resolve (optionalName typeName) = .ok twin ∧
        twin.shape = .optional kind ∧ c.IsTwin twin) ∧
    ∀ typeName : String, decimalHead <+: typeName.toList →
      ∃ c, standard.resolve typeName = .ok c ∧ c.shape = .plain .decimal := by
  constructor
  · intro typeName c kind h hshape
    rw [resolve_eq_ok_iff, resolve?_standard, get?_eq_some_iff] at h
    obtain ⟨hc, hname⟩ := h
    obtain ⟨twin, htwin, hpair⟩ := exists_isTwin hc hshape
    -- names like `Optional<Decimal(2)>` stand for another name once they are made optional
    have hne : declaredName typeName ≠ optionalName "Decimal" := by
      rw [← hname]
      exact name_ne_optional_decimal (mem_plainConverters hc hshape)
    refine ⟨twin, ?_, ?_, hpair⟩
    · rw [resolve_eq_ok_iff, resolve?_standard, declaredName_optionalName hne, ← hname,
        get?_eq_some_iff]
      exact ⟨htwin, hpair.name⟩
    · obtain ⟨kind', hkind, hkind'⟩ := hpair.shape
      rw [hshape, ScanShape.plain.injEq] at hkind
      rw [hkind, hkind']
  · intro typeName hdecimal
    have hname : declaredName typeName = "Decimal" := if_pos hdecimal
    have hdeclared : ∃ c, standard.get? "Decimal" = some c ∧ c.shape = .plain .decimal :=
      ⟨_, rfl, rfl⟩
    obtain ⟨c, hc, hshape⟩ := hdeclared
    rw [← hname, ← resolve?_standard, ← resolve_eq_ok_iff] at hc
    exact ⟨c, hc, hshape⟩

theorem resolve_optionalName_decimal :
    ∃ c twin, standard.resolve "Decimal(22,9)" = .ok c ∧ c.shape = .plain .decimal ∧
      standard.resolve "Optional<Decimal(22,9)>" = .ok twin ∧ twin.shape = .optional .decimal ∧
      twin.convert (.optional none) = .ok .null := by
  obtain ⟨c, hc, hshape⟩ := resolve_optionalName.2 "Decimal(22,9)" (by decide +kernel)
  obtain ⟨twin, htwin, htwinShape, h⟩ := resolve_optionalName.1 _ c .decimal hc hshape
  exact ⟨c, twin, hc, hshape, htwin, htwinShape, h.absent⟩

end Registry

end QueryFrame
