import Mathlib.Tactic.FieldSimp
import QueryFrame.Proofs.Binary64.Words

/-!
# Correct rounding

The word that a rational is rounded to has the least distance to it among all finite words, and an
even significand where two values have that distance. The places are counted in units of the last
one, so the rational is rounded to an integer; all other finite values are integers in this unit
too, or lie below every integer that could be nearest.
-/

namespace QueryFrame.Binary64

/-- A finite word that no finite word is strictly closer to the rational than. Where another value
is as close, the significand is even. -/
structure IsNearest (x : Binary64) (q : ℚ) : Prop where
  isFinite : x.isFinite = true
  closest : ∀ y : Binary64, y.isFinite = true → |x.value - q| ≤ |y.value - q|
  even : ∀ y : Binary64, y.isFinite = true → y.value ≠ x.value → |y.value - q| = |x.value - q| →
    x.significand % 2 = 0

namespace IsNearest

variable {x : Binary64} {q : ℚ}

theorem neg (h : IsNearest x q) : IsNearest x.neg (-q) := by
  have hdistance (y : Binary64) : |y.value - -q| = |y.neg.value - q| := by
    rw [value_neg, ← abs_neg]
    congr 1
    ring
  have hself : |x.neg.value - -q| = |x.value - q| := by rw [hdistance, value_neg, value_neg, neg_neg]
  refine ⟨by rw [isFinite_neg, h.isFinite], fun y hy => ?_, fun y hy hne heq => ?_⟩
  · rw [hself, hdistance]
    exact h.closest y.neg (by rw [isFinite_neg, hy])
  · rw [significand_neg]
    rw [hself, hdistance] at heq
    refine h.even y.neg (by rw [isFinite_neg, hy]) ?_ heq
    rw [value_neg] at hne ⊢
    exact fun hvalue => hne (by rw [← hvalue, neg_neg])

/-- A rational that is the value of a finite word has only words of this value nearest. -/
theorem value_eq (h : IsNearest x q) {y : Binary64} (hy : y.isFinite = true) (hq : y.value = q) :
    x.value = q := by
  have hclosest := h.closest y hy
  rw [hq, sub_self, abs_zero] at hclosest
  exact sub_eq_zero.1 (abs_nonpos_iff.1 hclosest)

end IsNearest

private theorem isNearest_zero : IsNearest zero 0 := by
  refine ⟨rfl, fun y _ => ?_, fun _ _ _ _ => rfl⟩
  rw [value_zero, sub_self, abs_zero]
  exact abs_nonneg _

/-! ## Rounding to an integer -/

theorem quotient_add_rest (num : Nat) {den : Nat} (hden : 0 < den) :
    ((num / den : Nat) : ℚ) + ((num % den : Nat) : ℚ) / den = num / den := by
  have hden' : (den : ℚ) ≠ 0 := by exact_mod_cast hden.ne'
  rw [eq_div_iff hden', add_mul, div_mul_cancel₀ _ hden']
  exact_mod_cast Nat.div_add_mod' num den

theorem rest_lt_one (num : Nat) {den : Nat} (hden : 0 < den) :
    ((num % den : Nat) : ℚ) / den < 1 := by
  rw [div_lt_one (by exact_mod_cast hden)]
  exact_mod_cast Nat.mod_lt num hden

private theorem divideToEven_half (num : Nat) {den : Nat} (hden : 0 < den) :
    |(divideToEven num den : ℚ) - num / den| ≤ 1 / 2 ∧
      (|(divideToEven num den : ℚ) - num / den| = 1 / 2 → divideToEven num den % 2 = 0) := by
  have hden' : (0 : ℚ) < den := by exact_mod_cast hden
  have hlt : ((num % den : Nat) : ℚ) / den < 1 := rest_lt_one num hden
  rw [divideToEven, ← quotient_add_rest num hden]
  generalize num / den = quotient
  generalize num % den = remainder at hlt ⊢
  have hnonneg : (0 : ℚ) ≤ remainder / den := by positivity
  split
  case isTrue hlow =>
    have hlow' : (remainder : ℚ) / den < 1 / 2 := by
      rw [div_lt_div_iff₀ hden' two_pos]
      exact_mod_cast (by omega : remainder * 2 < 1 * den)
    rw [sub_add_cancel_left, abs_neg, abs_of_nonneg hnonneg]
    exact ⟨hlow'.le, fun h => absurd h hlow'.ne⟩
  case isFalse hlow =>
    split
    case isTrue hhigh =>
      have hhigh' : (1 : ℚ) / 2 < remainder / den := by
        rw [div_lt_div_iff₀ two_pos hden']
        exact_mod_cast (by omega : 1 * den < remainder * 2)
      have hrest : ((quotient + 1 : Nat) : ℚ) - (quotient + remainder / den) =
          1 - remainder / den := by
        push_cast
        ring
      have hsmall : 1 - (remainder : ℚ) / den < 1 / 2 := by linarith
      rw [hrest, abs_of_pos (by linarith)]
      exact ⟨hsmall.le, fun h => absurd h hsmall.ne⟩
    case isFalse hhigh =>
      have hmiddle : (remainder : ℚ) / den = 1 / 2 := by
        rw [div_eq_div_iff hden'.ne' two_ne_zero]
        exact_mod_cast (by omega : remainder * 2 = 1 * den)
      refine ⟨?_, fun _ => by omega⟩
      rw [hmiddle]
      rcases Nat.mod_two_eq_zero_or_one quotient with h | h <;> rw [h, abs_le] <;> push_cast <;>
        constructor <;> linarith

/-- An integer within half a unit is nearest, and the only nearest one unless half a unit away. -/
theorem abs_sub_le_of_half {n : Int} {q : ℚ} (h : |(n : ℚ) - q| ≤ 1 / 2) (k : Int) :
    |(n : ℚ) - q| ≤ |(k : ℚ) - q| ∧
      (|(k : ℚ) - q| = |(n : ℚ) - q| → k ≠ n → |(n : ℚ) - q| = 1 / 2) := by
  by_cases hk : k = n
  · rw [hk]
    exact ⟨le_rfl, fun _ hne => absurd rfl hne⟩
  · have hapart : (1 : ℚ) ≤ |(n : ℚ) - k| := by
      exact_mod_cast Int.one_le_abs (sub_ne_zero.2 (Ne.symm hk))
    have htriangle := abs_sub_le (n : ℚ) q k
    rw [abs_sub_comm q] at htriangle
    exact ⟨by linarith, fun heq _ => by linarith⟩

/-! ## The places of a number -/

/-- The exponent of the last place of a number that is rounded to 53 places, or to fewer where they
would go below the last place of subnormal numbers. -/
structure IsLastPlace (e : Int) (q : ℚ) : Prop where
  lower : -1074 ≤ e
  lt : q < (2 : ℚ) ^ 53 * (2 : ℚ) ^ e
  le : -1074 < e → (2 : ℚ) ^ 52 * (2 : ℚ) ^ e ≤ q

namespace IsLastPlace

variable {e : Int} {q : ℚ}

/-- The exponent of the last of 53 places is held at the one of subnormal numbers. -/
private theorem of_leading (hle : (2 : ℚ) ^ 52 * 2 ^ e ≤ q) (hlt : q < 2 ^ 53 * 2 ^ e) :
    IsLastPlace (max e (-1074)) q := by
  refine ⟨le_max_right _ _, hlt.trans_le ?_, fun hmax => ?_⟩
  · gcongr
    · norm_num
    · exact le_max_left _ _
  · rw [max_eq_left (by omega)]
    exact hle

theorem exponent_le (h : IsLastPlace e q) {e' : Int} (hlower : -1074 ≤ e')
    (hq : q < (2 : ℚ) ^ 53 * (2 : ℚ) ^ e') : e ≤ e' := by
  by_contra! hlt
  have hpower : (2 : ℚ) ^ 53 * 2 ^ e' ≤ 2 ^ 52 * 2 ^ e := by
    calc (2 : ℚ) ^ 53 * 2 ^ e' = 2 ^ 52 * 2 ^ (e' + 1) := by
          rw [zpow_add_one₀ two_ne_zero]
          ring
      _ ≤ 2 ^ 52 * 2 ^ e := by
          gcongr
          · norm_num
          · omega
  exact absurd (h.le (by omega)) (not_le.2 (hq.trans_le hpower))

end IsLastPlace

/-- An exponent and a number of places that a number is rounded to: in units of the last place the
number of places is nearest. -/
structure Rounds (e : Int) (places : Nat) (q : ℚ) : Prop extends IsLastPlace e q where
  half : |(places : ℚ) - q / (2 : ℚ) ^ e| ≤ 1 / 2
  even : |(places : ℚ) - q / (2 : ℚ) ^ e| = 1 / 2 → places % 2 = 0

namespace Rounds

variable {e : Int} {places : Nat} {q : ℚ} (h : Rounds e places q)

include h

theorem fits (hq : q < (2 : ℚ) ^ 1023) : Fits e places := by
  have hpos : (0 : ℚ) < 2 ^ e := by positivity
  have hhalf := abs_le.1 h.half
  refine ⟨h.lower, ?_, ?_, fun he => ?_⟩
  · by_contra! he
    have hpower : (2 : ℚ) ^ (1023 : Int) ≤ 2 ^ (52 + e) :=
      zpow_le_zpow_right₀ one_le_two (by omega)
    rw [zpow_add₀ two_ne_zero] at hpower
    have hle := h.le (by omega)
    norm_cast at hpower hle hq
    linarith
  · have hlt : q / (2 : ℚ) ^ e < 2 ^ 53 := (div_lt_iff₀ hpos).2 h.lt
    have hplaces : (places : ℚ) < (2 ^ 53 : Nat) + 1 := by push_cast; linarith
    exact Nat.le_of_lt_succ (by exact_mod_cast hplaces)
  · have hle : (2 : ℚ) ^ 52 ≤ q / (2 : ℚ) ^ e := (le_div_iff₀ hpos).2 (h.le he)
    have hplaces : ((2 ^ 52 : Nat) : ℚ) < places + 1 := by push_cast; linarith
    exact Nat.le_of_lt_succ (by exact_mod_cast hplaces)

/-- In units of the last place every other word is as far away at least, and as far only from an
even number of places. -/
theorem closest (y : Binary64) :
    |(places : ℚ) - q / 2 ^ e| ≤ |y.value / 2 ^ e - q / 2 ^ e| ∧
      (|y.value / 2 ^ e - q / 2 ^ e| = |(places : ℚ) - q / 2 ^ e| → y.value / 2 ^ e ≠ places →
        places % 2 = 0) := by
  have hpos : (0 : ℚ) < 2 ^ e := by positivity
  have hhalf : |((places : Int) : ℚ) - q / 2 ^ e| ≤ 1 / 2 := h.half
  rcases y.value_grid e with ⟨k, hk⟩ | ⟨he, hsmall⟩
  · rw [hk, mul_div_cancel_right₀ _ hpos.ne']
    obtain ⟨hle, hhalfway⟩ := abs_sub_le_of_half hhalf k
    exact ⟨hle, fun heq hne => h.even (hhalfway heq fun hk => hne (by rw [hk]; rfl))⟩
  · -- the least normal number of these places lies between the word and the rational
    have hnormal : (2 : ℚ) ^ 52 ≤ q / 2 ^ e := (le_div_iff₀ hpos).2 (h.le he)
    have hbelow : y.value / 2 ^ e < 2 ^ 52 := (div_lt_iff₀ hpos).2 ((le_abs_self _).trans_lt hsmall)
    have hle := (abs_sub_le_of_half hhalf (2 ^ 52)).1
    have hlt : |((2 ^ 52 : Int) : ℚ) - q / 2 ^ e| < |y.value / 2 ^ e - q / 2 ^ e| := by
      push_cast
      rw [abs_of_nonpos (by linarith), abs_of_neg (by linarith)]
      linarith
    have hcloser := hle.trans_lt hlt
    exact ⟨hcloser.le, fun heq => absurd heq.symm hcloser.ne⟩

private theorem isNearest (hq : q < (2 : ℚ) ^ 1023) : IsNearest (ofPlaces e places) q := by
  have hpos : (0 : ℚ) < 2 ^ e := by positivity
  have hfits : Fits e places := h.fits hq
  have hvalue : (ofPlaces e places).value / 2 ^ e = places := by
    rw [hfits.value_ofPlaces, mul_div_cancel_right₀ _ hpos.ne']
  have hscale (v : ℚ) : |v - q| = |v / 2 ^ e - q / 2 ^ e| * 2 ^ e := by
    rw [← sub_div, abs_div, abs_of_pos hpos, div_mul_cancel₀ _ hpos.ne']
  refine ⟨hfits.isFinite_ofPlaces, fun y _ => ?_, fun y _ hne heq => ?_⟩
  · rw [hscale, hscale y.value, hvalue]
    exact mul_le_mul_of_nonneg_right (h.closest y).1 hpos.le
  · rw [hscale, hscale (ofPlaces e places).value, hvalue, mul_left_inj' hpos.ne'] at heq
    apply hfits.significand_even
    refine (h.closest y).2 heq fun hplaces => hne ?_
    rw [hfits.value_ofPlaces, ← hplaces, div_mul_cancel₀ _ hpos.ne']

theorem abs_value_sub_le (hq : q < (2 : ℚ) ^ 1023) :
    |(ofPlaces e places).value - q| ≤ (2 : ℚ) ^ e / 2 := by
  have hpos : (0 : ℚ) < 2 ^ e := by positivity
  have hvalue : (ofPlaces e places).value - q = (places - q / 2 ^ e) * 2 ^ e := by
    rw [(h.fits hq).value_ofPlaces, sub_mul, div_mul_cancel₀ _ hpos.ne']
  rw [hvalue, abs_mul, abs_of_pos hpos]
  calc |(places : ℚ) - q / 2 ^ e| * 2 ^ e ≤ 1 / 2 * 2 ^ e := by gcongr; exact h.half
    _ = 2 ^ e / 2 := by ring

end Rounds

/-- The bit lengths of numerator and denominator give the exponent of the leading place up to one. -/
private theorem log2_ratio {num den : Nat} (hnum : num ≠ 0) (hden : den ≠ 0) :
    (2 : ℚ) ^ ((num.log2 : Int) - den.log2 - 1) < num / den ∧
      (num : ℚ) / den < (2 : ℚ) ^ ((num.log2 : Int) - den.log2 + 1) := by
  have hnum' : (0 : ℚ) < num := by exact_mod_cast Nat.pos_of_ne_zero hnum
  have hden' : (0 : ℚ) < den := by exact_mod_cast Nat.pos_of_ne_zero hden
  have hnumLower : (2 : ℚ) ^ num.log2 ≤ num := by exact_mod_cast Nat.log2_self_le hnum
  have hnumUpper : (num : ℚ) < 2 ^ (num.log2 + 1) := by exact_mod_cast Nat.lt_log2_self
  have hdenLower : (2 : ℚ) ^ den.log2 ≤ den := by exact_mod_cast Nat.log2_self_le hden
  have hdenUpper : (den : ℚ) < 2 ^ (den.log2 + 1) := by exact_mod_cast Nat.lt_log2_self
  constructor
  · rw [sub_sub, zpow_sub₀ two_ne_zero]
    exact div_lt_div₀' hnumLower hdenUpper hnum' hden'
  · rw [sub_add_eq_add_sub, zpow_sub₀ two_ne_zero]
    exact div_lt_div₀ hnumUpper hdenLower (by positivity) (by positivity)

private theorem two_zpow_eq_div (e : Int) : (2 : ℚ) ^ e = 2 ^ e.toNat / 2 ^ (-e).toNat := by
  rw [← zpow_natCast, ← zpow_natCast, ← zpow_sub₀ two_ne_zero]
  congr 1
  omega

section Ratio

variable {num den : Nat} (hnum : num ≠ 0) (hden : den ≠ 0)

include hnum hden

private theorem isLastPlace_lastPlace : IsLastPlace (lastPlace num den) (num / den) := by
  have hden' : (0 : ℚ) < den := by exact_mod_cast Nat.pos_of_ne_zero hden
  obtain ⟨hlower, hupper⟩ := log2_ratio hnum hden
  rw [lastPlace]
  generalize hguess : (num.log2 : Int) - den.log2 - 52 = guess
  have hfits : den <<< (52 + guess.toNat) ≤ num <<< (-guess).toNat ↔
      (2 : ℚ) ^ 52 * 2 ^ guess ≤ num / den := by
    rw [Nat.shiftLeft_eq, Nat.shiftLeft_eq, two_zpow_eq_div, ← mul_div_assoc,
      div_le_div_iff₀ (by positivity) hden', ← pow_add, mul_comm]
    norm_cast
  apply IsLastPlace.of_leading
  · split
    case isTrue h => exact hfits.1 h
    case isFalse h =>
      refine le_of_eq_of_le ?_ hlower.le
      rw [show (num.log2 : Int) - den.log2 - 1 = (52 : Nat) + (guess - 1) by omega,
        zpow_add₀ two_ne_zero, zpow_natCast]
  · split
    case isTrue h =>
      refine hupper.trans_eq ?_
      rw [show (num.log2 : Int) - den.log2 + 1 = (53 : Nat) + guess by omega,
        zpow_add₀ two_ne_zero, zpow_natCast]
    case isFalse h =>
      rw [pow_succ, mul_assoc, ← zpow_one_add₀ two_ne_zero, add_sub_cancel]
      exact not_le.1 fun hle => h (hfits.2 hle)

private theorem ofRatio_rounds (hsmall : (num : ℚ) / den < 2 ^ 1023) :
    ∃ e places, Rounds e places (num / den : ℚ) ∧ ofRatio num den = ofPlaces e places := by
  have hlast := isLastPlace_lastPlace hnum hden
  generalize he : lastPlace num den = e at hlast
  generalize hplaces : divideToEven (num <<< (-e).toNat) (den <<< e.toNat) = places
  have hshifted : 0 < den <<< e.toNat := by
    rw [Nat.shiftLeft_eq]
    positivity
  have hratio : ((num <<< (-e).toNat : Nat) : ℚ) / (den <<< e.toNat : Nat) =
      num / den / 2 ^ e := by
    rw [Nat.shiftLeft_eq, Nat.shiftLeft_eq, two_zpow_eq_div]
    push_cast
    field_simp
  obtain ⟨hhalf, heven⟩ := divideToEven_half (num <<< (-e).toNat) hshifted
  rw [hratio, hplaces] at hhalf heven
  have hrounds : Rounds e places (num / den : ℚ) := ⟨hlast, hhalf, heven⟩
  refine ⟨e, places, hrounds, ?_⟩
  have hfits : Fits e places := hrounds.fits hsmall
  have hupper : e ≤ 970 := hfits.upper
  have hplaces_le : places ≤ 2 ^ 53 := hfits.places_le
  rw [ofRatio, if_neg hnum, he]
  dsimp only
  rw [hplaces, ofPlaces, Nat.min_eq_left]
  rw [Nat.shiftLeft_eq, infinityBits, Nat.shiftLeft_eq]
  omega

end Ratio

/-! ## Rounding a rational -/

private theorem nearest_of_pos {q : ℚ} (hq : 0 < q) : nearest q = ofRatio q.num.natAbs q.den :=
  if_neg (Rat.num_pos.2 hq).not_gt

theorem nearest_neg {q : ℚ} (hq : 0 < q) : nearest (-q) = (nearest q).neg := by
  have hnum : (-q).num < 0 := Rat.num_neg.2 (neg_neg_of_pos hq)
  rw [nearest_of_pos hq, nearest, if_pos hnum, Rat.num_neg_eq_neg_num, Rat.den_neg_eq_den,
    Int.natAbs_neg]

theorem nearest_rounds {q : ℚ} (hq : 0 < q) (hsmall : q < 2 ^ 1023) :
    ∃ e places, Rounds e places q ∧ nearest q = ofPlaces e places := by
  have hnum : 0 < q.num := Rat.num_pos.2 hq
  have hratio : (q.num.natAbs : ℚ) / q.den = q := by
    rw [← Int.cast_natCast, Int.natAbs_of_nonneg hnum.le, Rat.num_div_den]
  have hrounds := ofRatio_rounds (Int.natAbs_ne_zero.2 hnum.ne') q.den_ne_zero (by rwa [hratio])
  rwa [hratio, ← nearest_of_pos hq] at hrounds

@[simp]
theorem nearest_zero : nearest 0 = zero := rfl

/-- A rational below the largest power of two is rounded to the word nearest to it. -/
theorem isNearest_nearest {q : ℚ} (hq : |q| < 2 ^ 1023) : IsNearest (nearest q) q := by
  have hpos {r : ℚ} (hr : 0 < r) (hsmall : r < 2 ^ 1023) : IsNearest (nearest r) r := by
    obtain ⟨e, places, hrounds, heq⟩ := nearest_rounds hr hsmall
    rw [heq]
    exact hrounds.isNearest hsmall
  rcases lt_trichotomy q 0 with hneg | rfl | hq'
  · rw [abs_of_neg hneg] at hq
    have h := (hpos (neg_pos.2 hneg) hq).neg
    rwa [← nearest_neg (neg_pos.2 hneg), neg_neg] at h
  · exact isNearest_zero
  · rw [abs_of_pos hq'] at hq
    exact hpos hq' hq

end QueryFrame.Binary64
