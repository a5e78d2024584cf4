import Mathlib.Algebra.Order.Field.Power
import Mathlib.Tactic.Linarith
import Mathlib.Tactic.NormNum
import Mathlib.Tactic.Positivity
import Mathlib.Tactic.Ring
import QueryFrame.Binary64.Rounding

/-!
# The values of words

A finite word stands for an integer below `2 ^ 53` times a power of two. The word that is put
together from an exponent and a number of places has just these as its value, also where the places
have been rounded up to the next power of two and carry into the exponent.
-/

namespace QueryFrame.Binary64

section

variable (x : Binary64)

private theorem magnitudeBits_eq : x.magnitudeBits = x.bits.toNat % 2 ^ 63 := rfl

private theorem isNegative_eq : x.isNegative = decide (2 ^ 63 ≤ x.bits.toNat) := rfl

private theorem field_eq : x.field = x.magnitudeBits / 2 ^ 52 := by
  rw [field, Nat.shiftRight_eq_div_pow]

private theorem significand_eq :
    x.significand = x.magnitudeBits % 2 ^ 52 + if x.field = 0 then 0 else 2 ^ 52 := rfl

private theorem exponent_eq : x.exponent = (max x.field 1 : Nat) - 1075 := rfl

private theorem magnitude_eq : x.magnitude = (x.significand : ℚ) * 2 ^ x.exponent := rfl

theorem isFinite_iff : x.isFinite = true ↔ x.magnitudeBits < 2047 * 2 ^ 52 := by
  rw [isFinite, decide_eq_true_iff]
  rfl

private theorem significand_lt : x.significand < 2 ^ 53 := by
  have hfraction : x.magnitudeBits % 2 ^ 52 < 2 ^ 52 := Nat.mod_lt _ (by decide)
  rw [significand_eq]
  split <;> omega

private theorem le_exponent : -1074 ≤ x.exponent := by
  rw [exponent_eq]
  omega

private theorem magnitude_nonneg : 0 ≤ x.magnitude := by
  rw [magnitude_eq]
  positivity

private theorem abs_value : |x.value| = x.magnitude := by
  rw [value]
  split
  · rw [abs_neg, abs_of_nonneg x.magnitude_nonneg]
  · rw [abs_of_nonneg x.magnitude_nonneg]

end

theorem isZero_iff {x : Binary64} : x.isZero = true ↔ x.value = 0 := by
  have hpower : (2 : ℚ) ^ x.exponent ≠ 0 := by positivity
  have hvalue : x.value = 0 ↔ x.significand = 0 := by
    rw [← abs_eq_zero, abs_value, magnitude_eq, mul_eq_zero_iff_right hpower, Nat.cast_eq_zero]
  rw [hvalue, significand_eq, field_eq, isZero, beq_iff_eq]
  split <;> omega

@[simp]
theorem value_zero : zero.value = 0 := isZero_iff.1 rfl

section Neg

variable (x : Binary64)

private theorem toNat_neg : x.neg.bits.toNat = x.bits.toNat ^^^ 2 ^ 63 := UInt64.toNat_xor _ _

private theorem magnitudeBits_neg : x.neg.magnitudeBits = x.magnitudeBits := by
  rw [magnitudeBits_eq, toNat_neg, Nat.xor_mod_two_pow, Nat.mod_self, Nat.xor_zero,
    magnitudeBits_eq]

private theorem isNegative_neg : x.neg.isNegative = !x.isNegative := by
  have hsign (n : Nat) (h : n < 2 ^ 64) : decide (2 ^ 63 ≤ n) = decide (n >>> 63 = 1) := by
    rw [Nat.shiftRight_eq_div_pow, decide_eq_decide]
    omega
  have hx : x.bits.toNat < 2 ^ 64 := x.bits.toNat_lt
  have hneg : x.neg.bits.toNat < 2 ^ 64 := x.neg.bits.toNat_lt
  rw [isNegative_eq, isNegative_eq, hsign _ hx, hsign _ hneg, toNat_neg,
    Nat.shiftRight_xor_distrib]
  have htop : x.bits.toNat >>> 63 = 0 ∨ x.bits.toNat >>> 63 = 1 := by
    rw [Nat.shiftRight_eq_div_pow]
    omega
  rcases htop with h | h <;> rw [h] <;> decide

private theorem field_neg : x.neg.field = x.field := by
  rw [field_eq, magnitudeBits_neg, field_eq]

theorem significand_neg : x.neg.significand = x.significand := by
  rw [significand_eq, magnitudeBits_neg, field_neg, significand_eq]

theorem isFinite_neg : x.neg.isFinite = x.isFinite := by
  rw [isFinite, magnitudeBits_neg, isFinite]

theorem value_neg : x.neg.value = -x.value := by
  have hmagnitude : x.neg.magnitude = x.magnitude := by
    rw [magnitude_eq, significand_neg, exponent_eq, field_neg, magnitude_eq, exponent_eq]
  rw [value, value, isNegative_neg, hmagnitude]
  cases x.isNegative <;> simp

end Neg

/-- The word put together from the exponent of the last place and the number of places. -/
def ofPlaces (e : Int) (places : Nat) : Binary64 :=
  ⟨.ofNat ((e + 1074).toNat <<< 52 + places)⟩

/-- The places are those of a finite word, or one more. Only subnormal numbers have less than 53 of
them. -/
structure Fits (e : Int) (places : Nat) : Prop where
  lower : -1074 ≤ e
  upper : e ≤ 970
  places_le : places ≤ 2 ^ 53
  normal : -1074 < e → 2 ^ 52 ≤ places

namespace Fits

variable {e : Int} {places : Nat} (h : Fits e places)

include h

private theorem toNat_ofPlaces :
    (ofPlaces e places).bits.toNat = (e + 1074).toNat * 2 ^ 52 + places := by
  have hlower : -1074 ≤ e := h.lower
  have hupper : e ≤ 970 := h.upper
  have hplaces : places ≤ 2 ^ 53 := h.places_le
  rw [ofPlaces, UInt64.toNat_ofNat', Nat.shiftLeft_eq]
  apply Nat.mod_eq_of_lt
  omega

private theorem magnitudeBits_ofPlaces :
    (ofPlaces e places).magnitudeBits = (e + 1074).toNat * 2 ^ 52 + places := by
  have hlower : -1074 ≤ e := h.lower
  have hupper : e ≤ 970 := h.upper
  have hplaces : places ≤ 2 ^ 53 := h.places_le
  rw [magnitudeBits_eq, h.toNat_ofPlaces]
  omega

private theorem isNegative_ofPlaces : (ofPlaces e places).isNegative = false := by
  have hlower : -1074 ≤ e := h.lower
  have hupper : e ≤ 970 := h.upper
  have hplaces : places ≤ 2 ^ 53 := h.places_le
  rw [isNegative_eq, h.toNat_ofPlaces, decide_eq_false_iff_not]
  omega

theorem isFinite_ofPlaces : (ofPlaces e places).isFinite = true := by
  have hlower : -1074 ≤ e := h.lower
  have hupper : e ≤ 970 := h.upper
  have hplaces : places ≤ 2 ^ 53 := h.places_le
  rw [isFinite_iff, h.magnitudeBits_ofPlaces]
  omega

/-- The significand is the number of places, or half of it where they are `2 ^ 53`. -/
private theorem parts_ofPlaces :
    (ofPlaces e places).significand = places ∧ (ofPlaces e places).exponent = e ∨
      places = 2 ^ 53 ∧ (ofPlaces e places).significand = 2 ^ 52 ∧
        (ofPlaces e places).exponent = e + 1 := by
  have hlower : -1074 ≤ e := h.lower
  have hplaces : places ≤ 2 ^ 53 := h.places_le
  have hnormal : -1074 < e → 2 ^ 52 ≤ places := h.normal
  rw [significand_eq, exponent_eq, field_eq, h.magnitudeBits_ofPlaces]
  split <;> omega

theorem value_ofPlaces : (ofPlaces e places).value = places * (2 : ℚ) ^ e := by
  rw [value, h.isNegative_ofPlaces, if_neg Bool.false_ne_true, magnitude_eq]
  rcases h.parts_ofPlaces with ⟨hsignificand, hexponent⟩ | ⟨rfl, hsignificand, hexponent⟩
  · rw [hsignificand, hexponent]
  · rw [hsignificand, hexponent, zpow_add_one₀ two_ne_zero]
    push_cast
    ring

theorem significand_even (heven : places % 2 = 0) : (ofPlaces e places).significand % 2 = 0 := by
  rcases h.parts_ofPlaces with ⟨hsignificand, -⟩ | ⟨-, hsignificand, -⟩
  · rw [hsignificand, heven]
  · rw [hsignificand, Nat.pow_mod]

end Fits

/-- The value of a word is a whole number of places of any size, unless it is smaller than every
normal number with such places. -/
theorem value_grid (x : Binary64) (e : Int) :
    (∃ k : Int, x.value = k * (2 : ℚ) ^ e) ∨
      -1074 < e ∧ |x.value| < (2 : ℚ) ^ 52 * (2 : ℚ) ^ e := by
  by_cases he : e ≤ x.exponent
  · left
    obtain ⟨n, hn⟩ := Int.eq_ofNat_of_zero_le (Int.sub_nonneg_of_le he)
    have hmagnitude : x.magnitude = ((x.significand * 2 ^ n : Nat) : Int) * (2 : ℚ) ^ e := by
      rw [magnitude_eq, show x.exponent = n + e by omega, zpow_add₀ two_ne_zero, zpow_natCast]
      push_cast
      ring
    rw [value]
    split
    · exact ⟨-(x.significand * 2 ^ n : Nat), by rw [hmagnitude]; push_cast; ring⟩
    · exact ⟨(x.significand * 2 ^ n : Nat), hmagnitude⟩
  · right
    have hlt : x.exponent + 1 ≤ e := by omega
    have hsignificand : (x.significand : ℚ) < 2 ^ 53 := by exact_mod_cast x.significand_lt
    refine ⟨by have := x.le_exponent; omega, ?_⟩
    calc |x.value| = x.significand * (2 : ℚ) ^ x.exponent := by rw [abs_value, magnitude_eq]
      _ < 2 ^ 53 * (2 : ℚ) ^ x.exponent := by gcongr
      _ = 2 ^ 52 * (2 : ℚ) ^ (x.exponent + 1) := by rw [zpow_add_one₀ two_ne_zero]; ring
      _ ≤ 2 ^ 52 * (2 : ℚ) ^ e := by gcongr; norm_num

end QueryFrame.Binary64
