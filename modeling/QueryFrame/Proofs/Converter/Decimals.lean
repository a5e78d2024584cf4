import QueryFrame.Proofs.Converter.PassThrough
import QueryFrame.Proofs.Decimal.Conversion

/-!
# Decimals in cells

The conversions of decimals and passing them through deliver the same number. It is within
`2 ^ (-49)` of every decimal, and it is the nearest one for integers and for decimals of at most 22
places whose digits make a number below `2 ^ 51`. Neither bound can be raised by much.
-/

namespace QueryFrame.Converter

/-- What each way of converting a cell makes of a decimal. -/
structure Delivers (d : Decimal) (x : Binary64) : Prop where
  plain : decimalToFloat (.plain (.decimal d)) = .ok (.float64 x)
  optional : decimalToNullableFloat (.optional (some (.decimal d))) = .ok (.float64 x)
  passedPlain : ∀ output,
    passThrough (.plain .decimal) output (.plain (.decimal d)) = .ok (.float64 x)
  passedOptional : ∀ output,
    passThrough (.optional .decimal) output (.optional (some (.decimal d))) = .ok (.float64 x)

private theorem delivers_toBinary64 (d : Decimal) : Delivers d d.toBinary64 :=
  ⟨rfl, rfl, fun _ => rfl, fun _ => rfl⟩

/-- Every decimal is delivered, as a number near it, and as the nearest one if only its last
division rounds. -/
theorem decimal_delivered (d : Decimal) :
    ∃ x, Delivers d x ∧ x.isFinite = true ∧ |x.value - d.value| ≤ |d.value| / 2 ^ 49 ∧
      (d.RoundsOnce → x.IsNearest d.value) :=
  ⟨d.toBinary64, delivers_toBinary64 d, d.isFinite_toBinary64, d.abs_toBinary64_sub_le,
    Decimal.isNearest_toBinary64⟩

def digitsOfPi : Decimal := ⟨false, 314159, 5, by decide, by decide⟩

theorem decimal_delivered_digitsOfPi :
    ∃ x, Delivers digitsOfPi x ∧ x = ⟨0x400921f9f01b866e⟩ ∧ x.IsNearest digitsOfPi.value := by
  obtain ⟨x, hdelivers, -, -, hnearest⟩ := decimal_delivered digitsOfPi
  have hword : decimalToFloat (.plain (.decimal digitsOfPi)) =
      .ok (.float64 ⟨0x400921f9f01b866e⟩) := by decide +kernel
  refine ⟨x, hdelivers, ?_, hnearest (by decide)⟩
  exact FieldValue.float64.inj (Except.ok.inj (hdelivers.plain.symm.trans hword))

/-- The smallest decimal of 23 places is turned into the number after the nearest one. -/
theorem decimal_not_nearest :
    ¬ ∀ (d : Decimal) (x : Binary64), Delivers d x → x.IsNearest d.value := by
  intro h
  have hnearest := h ⟨false, 1, 23, by decide, by decide⟩ _ (delivers_toBinary64 _)
  refine Decimal.not_isNearest_of_closer (y := ⟨0x3b282db34012b251⟩) (by decide) ?_ hnearest
  decide +kernel

/-- Behind more than 22 places the power of ten is rounded, and a decimal of two digits at most is
not turned into the nearest number. -/
theorem exists_not_isNearest {s : Nat} (hlower : 22 < s) (hupper : s ≤ 28) :
    ∃ d : Decimal, d.scale = s ∧ d.magnitude < 100 ∧ ¬ d.toBinary64.IsNearest d.value := by
  have hcases : s = 23 ∨ s = 24 ∨ s = 25 ∨ s = 26 ∨ s = 27 ∨ s = 28 := by omega
  rcases hcases with rfl | rfl | rfl | rfl | rfl | rfl
  · exact ⟨⟨false, 1, 23, by decide, by decide⟩, rfl, by decide,
      Decimal.not_isNearest_of_closer (y := ⟨0x3b282db34012b251⟩) (by decide) (by decide +kernel)⟩
  · exact ⟨⟨false, 1, 24, by decide, by decide⟩, rfl, by decide,
      Decimal.not_isNearest_of_closer (y := ⟨0x3af357c299a88ea7⟩) (by decide) (by decide +kernel)⟩
  · exact ⟨⟨false, 1, 25, by decide, by decide⟩, rfl, by decide,
      Decimal.not_isNearest_of_closer (y := ⟨0x3abef2d0f5da7dd9⟩) (by decide) (by decide +kernel)⟩
  · exact ⟨⟨false, 1, 26, by decide, by decide⟩, rfl, by decide,
      Decimal.not_isNearest_of_closer (y := ⟨0x3a88c240c4aecb14⟩) (by decide) (by decide +kernel)⟩
  · exact ⟨⟨false, 59, 27, by decide, by decide⟩, rfl, by decide,
      Decimal.not_isNearest_of_closer (y := ⟨0x3ab242762aa74f5f⟩) (by decide) (by decide +kernel)⟩
  · exact ⟨⟨false, 1, 28, by decide, by decide⟩, rfl, by decide,
      Decimal.not_isNearest_of_closer (y := ⟨0x3a1fb0f6be506019⟩) (by decide) (by decide +kernel)⟩

/-- Not far above `2 ^ 51` the errors of the sum reach the next integer. -/
theorem exists_not_isNearest_of_exact_power :
    ∃ d : Decimal, d.scale = 22 ∧ d.magnitude < 2 ^ 51 + 2 ^ 48 ∧
      ¬ d.toBinary64.IsNearest d.value :=
  ⟨⟨false, 2384185791016593, 22, by decide, by decide⟩, rfl, by decide,
    Decimal.not_isNearest_of_closer (y := ⟨0x3e90000000000725⟩) (by decide) (by decide +kernel)⟩

end QueryFrame.Converter
