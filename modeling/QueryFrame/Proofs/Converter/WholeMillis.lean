import Mathlib.Data.Int.Init
import QueryFrame.Proofs.Converter.PassThrough

/-!
# Whole milliseconds

The conversions that were written for one type are passing through, with the microseconds of an
interval made milliseconds afterwards. Milliseconds are cut off toward zero and fit in 64 bits.
-/

namespace QueryFrame.Converter

/-- The milliseconds are those of the microseconds without what is no whole one, on either side of
zero. -/
structure IsCutTowardZero (micros millis : Int) : Prop where
  near : (micros - 1000 * millis).natAbs < 1000
  within : (1000 * millis).natAbs ≤ micros.natAbs
  sameSign : ¬ (micros < 0 ∧ 0 < 1000 * millis) ∧ ¬ (0 < micros ∧ 1000 * millis < 0)

private theorem tdiv_thousand (micros : Int) :
    micros.tdiv 1000 = if 0 ≤ micros then micros / 1000 else -(-micros / 1000) := by
  split
  · next hpositive => exact Int.tdiv_eq_ediv_of_nonneg hpositive
  · next hnegative =>
    have hdistance : 0 ≤ -micros := by omega
    rw [← Int.tdiv_eq_ediv_of_nonneg hdistance, Int.neg_tdiv, Int.neg_neg]

private theorem isCutTowardZero_iff {micros millis : Int} :
    IsCutTowardZero micros millis ↔ millis = micros.tdiv 1000 := by
  rw [tdiv_thousand]
  constructor
  · intro h
    obtain ⟨hnear, hwithin, hsign⟩ := h
    split <;> omega
  · intro h
    split at h
    · constructor <;> omega
    · constructor <;> omega

theorem toInt_wholeMillis (micros : Int64) :
    (wholeMillis micros).toInt = micros.toInt.tdiv 1000 := by
  rw [wholeMillis, Int64.toInt_div_of_ne_right _ _ (by decide)]
  rfl

theorem wholeMillis_mono {micros later : Int64} (h : micros ≤ later) :
    wholeMillis micros ≤ wholeMillis later := by
  rw [Int64.le_iff_toInt_le] at h ⊢
  rw [toInt_wholeMillis, toInt_wholeMillis]
  exact Int.tdiv_le_tdiv (by decide) h

/-- The conversions of decimals and intervals on every cell, and what the microseconds of an interval
become, the least ones of 64 bits included. -/
theorem conversions_eq_passThrough :
    (∀ cell, decimalToFloat cell = passThrough (.plain .decimal) ⟨.float64, false⟩ cell) ∧
    (∀ cell, decimalToNullableFloat cell =
      passThrough (.optional .decimal) ⟨.float64, true⟩ cell) ∧
    (∀ cell, intervalToMillis cell =
      (passThrough (.plain .int64) ⟨.int64, false⟩ cell).map inMillis) ∧
    (∀ cell, intervalToNullableMillis cell =
      (passThrough (.optional .int64) ⟨.int64, true⟩ cell).map inMillis) ∧
    (∀ (micros : Int64) (millis : Int),
      IsCutTowardZero micros.toInt millis ↔ millis = (wholeMillis micros).toInt) ∧
    ∀ micros later : Int64, micros ≤ later → wholeMillis micros ≤ wholeMillis later := by
  refine ⟨decimalToFloat_eq, decimalToNullableFloat_eq, intervalToMillis_eq,
    intervalToNullableMillis_eq, ?_, fun micros later => wholeMillis_mono⟩
  intro micros millis
  rw [isCutTowardZero_iff, toInt_wholeMillis]

theorem conversions_eq_passThrough_least :
    Int64.minValue ≤ -1500 ∧ wholeMillis Int64.minValue ≤ wholeMillis (-1500) ∧
      intervalToMillis (.plain (.int64 Int64.minValue)) = .ok (.int64 (-9223372036854775)) ∧
      IsCutTowardZero (-1500) (-1) := by
  obtain ⟨-, -, hplain, -, hcut, hmono⟩ := conversions_eq_passThrough
  have hle : Int64.minValue ≤ -1500 := by decide
  refine ⟨hle, hmono _ _ hle, ?_, (hcut (-1500) (-1)).2 (by decide)⟩
  rw [hplain]
  rfl

end QueryFrame.Converter
