import QueryFrame.Proofs.Registry.Declaration

/-!
# The order of declarations

Where a converter is declared counts for its pattern alone. Two registries of the same converters
resolve every type name alike if the converters with patterns stand in the same order, and
converters added at the end take from the others only names of their own that patterns matched
before.
-/

namespace QueryFrame.Registry

section

variable {r s : Registry} {c : Converter} {accepts : Pattern → List Char → Bool}
  {typeName : String}

private theorem get?_perm (h : r.converters.Perm s.converters) (name : String) :
    r.get? name = s.get? name := by
  apply Option.ext
  intro c
  rw [get?_eq_some_iff, get?_eq_some_iff, h.mem_iff]

private theorem resolveAs_perm (h : r.converters.Perm s.converters)
    (hpatterned : r.converters.filter (·.pattern.isSome) =
      s.converters.filter (·.pattern.isSome)) :
    r.resolveAs accepts = s.resolveAs accepts := by
  funext typeName
  rw [resolveAs, resolveAs, get?_perm h, find?_matchesAs, hpatterned, ← find?_matchesAs]

/-- Added converters leave a resolved name where it was, or take it as a name of their own. -/
theorem resolveAs_append {added : List Converter} (hadded : s.converters = r.converters ++ added)
    (h : r.resolveAs accepts typeName = .ok c) :
    s.resolveAs accepts typeName = .ok c ∨ (∀ d ∈ r.converters, d.name ≠ typeName) ∧
      ∃ d ∈ added, d.name = typeName ∧ s.resolveAs accepts typeName = .ok d := by
  cases hget : r.get? typeName with
  | some d =>
    have hsame : d = c := by
      rw [resolveAs_of_get? hget] at h
      exact Except.ok.inj h
    have hmem : d ∈ s.converters ∧ d.name = typeName := by
      rw [get?_eq_some_iff] at hget
      simp [hadded, hget]
    exact .inl (hsame ▸ resolveAs_of_get? (get?_eq_some_iff.2 hmem))
  | none =>
    have hfound := (resolveAs_eq_ok_iff_of_get? hget).1 h
    have hunnamed : ∀ d ∈ r.converters, d.name ≠ typeName := by
      simpa [get?_eq_none_iff] using hget
    cases hget' : s.get? typeName with
    | some d =>
      obtain ⟨hmem, hname⟩ := get?_eq_some_iff.1 hget'
      have hnew : d ∈ added := by
        rw [hadded, List.mem_append] at hmem
        exact hmem.resolve_left fun hold => hunnamed d hold hname
      exact .inr ⟨hunnamed, d, hnew, hname, resolveAs_of_get? hget'⟩
    | none =>
      left
      rw [resolveAs_eq_ok_iff_of_get? hget', hadded, List.find?_append, hfound]
      rfl

end

/-- What a registry resolves depends on the order of its patterns and on nothing else of the order,
and what it resolves stays so when converters are added, names of added ones apart. -/
theorem resolve_reordered {cs ds : List Converter} {r s : Registry} (hr : ofConverters cs = .ok r)
    (hs : ofConverters ds = .ok s) :
    (r.resolve = r.resolveAs Pattern.accepts ∧ s.resolve = s.resolveAs Pattern.accepts) ∧
    ∀ accepts,
      (cs.Perm ds → cs.filter (·.pattern.isSome) = ds.filter (·.pattern.isSome) →
        r.resolveAs accepts = s.resolveAs accepts) ∧
      ∀ added, ds = cs ++ added →
        ∀ typeName c, r.resolveAs accepts typeName = .ok c →
          s.resolveAs accepts typeName = .ok c ∨ (∀ d ∈ cs, d.name ≠ typeName) ∧
            ∃ d ∈ added, d.name = typeName ∧ s.resolveAs accepts typeName = .ok d := by
  rw [ofConverters_eq_ok_iff] at hr hs
  subst hr hs
  refine ⟨⟨(resolveAs_accepts r).symm, (resolveAs_accepts s).symm⟩, ?_⟩
  intro accepts
  refine ⟨resolveAs_perm, ?_⟩
  intro added hadded typeName c h
  exact resolveAs_append hadded h

/-- A converter whose pattern also matches what the next one is for. -/
def wideType : Converter :=
  { Converter.passing "Wide" (.plain .int64) ⟨.int64, false⟩ with
    pattern := some (.literal true "Dec".toList false) }

def narrowType : Converter :=
  { Converter.passing "Narrow" (.plain .int32) ⟨.int32, false⟩ with
    pattern := some (.literal true decimalHead false) }

theorem resolve_reordered_wide :
    ∃ r s t, ofConverters [wideType, narrowType, boolType] = .ok r ∧
      ofConverters [boolType, wideType, narrowType] = .ok s ∧
      ofConverters [wideType, narrowType, boolType, anyType] = .ok t ∧
      r.resolve "Decimal(1,0)" = .ok wideType ∧ s.resolve "Decimal(1,0)" = .ok wideType ∧
      t.resolve "Decimal(1,0)" = .ok wideType := by
  obtain ⟨r, hr⟩ := exists_ofConverters_iff.2
    (show ([wideType, narrowType, boolType].map Converter.name).Nodup by decide)
  obtain ⟨s, hs⟩ := exists_ofConverters_iff.2
    (show ([boolType, wideType, narrowType].map Converter.name).Nodup by decide)
  obtain ⟨t, ht⟩ := exists_ofConverters_iff.2
    (show ([wideType, narrowType, boolType, anyType].map Converter.name).Nodup by decide)
  have hwide : r.resolve "Decimal(1,0)" = .ok wideType := by
    rw [ofConverters_eq_ok_iff] at hr
    rw [resolve_eq_ok_iff, resolve?, get?, hr]
    rfl
  refine ⟨r, s, t, hr, hs, ht, hwide, ?_, ?_⟩
  · obtain ⟨⟨hresolve, hresolve'⟩, h⟩ := resolve_reordered hr hs
    have hperm : ([wideType, narrowType] ++ [boolType]).Perm
        ([boolType] ++ [wideType, narrowType]) := List.perm_append_comm
    rw [hresolve', ← (h Pattern.accepts).1 hperm rfl, ← hresolve, hwide]
  · have h := ((resolve_reordered hr ht).2 Pattern.accepts).2 [anyType] rfl _ _ hwide
    exact h.resolve_right fun h => by simp [anyType, Converter.passing] at h

end QueryFrame.Registry
