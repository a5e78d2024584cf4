import QueryFrame.Decimal
import QueryFrame.Proofs.Binary64.Accuracy

/-!
# The floating-point number of a decimal

The conversion rounds six times. It is off by `2 ^ (-49)` of the decimal at most, and where rounding
the sum to the decimal places undoes all errors that were made before, only the last division
rounds.
-/

namespace QueryFrame.Decimal

open Binary64 (Near Moderate nearest powerOfTen)

/-! ## The steps -/

def wholePart (magnitude scale : Nat) : Binary64 := nearest (magnitude / Nat.pow 10 scale : Nat)

def fractionPart (magnitude scale : Nat) : Binary64 :=
  (nearest (magnitude % Nat.pow 10 scale : Nat)).div (powerOfTen scale)

/-- The sum of the parts in units of the last decimal place, before it is made an integer. -/
def inUnits (magnitude scale : Nat) : Binary64 :=
  ((wholePart magnitude scale).add (fractionPart magnitude scale)).mul (powerOfTen scale)

private theorem joinParts_eq (magnitude scale : Nat) :
    joinParts magnitude scale =
      if (fractionPart magnitude scale).isZero then wholePart magnitude scale
      else (inUnits magnitude scale).roundHalfUp.div (powerOfTen scale) := rfl

private theorem cast_unit (s : Nat) : ((Nat.pow 10 s : Nat) : ℚ) = 10 ^ s := Nat.cast_pow 10 s

private theorem powerOfTen_eq (s : Nat) : powerOfTen s = nearest (10 ^ s) := by
  rw [powerOfTen, cast_unit]

private theorem parts_add (m s : Nat) :
    ((m / Nat.pow 10 s : Nat) : ℚ) + ((m % Nat.pow 10 s : Nat) : ℚ) / 10 ^ s = m / 10 ^ s := by
  rw [← cast_unit]
  exact Binary64.quotient_add_rest m (Nat.pow_pos (by decide))

private theorem wholePart_eq {m s : Nat} (hrest : m % Nat.pow 10 s = 0) :
    wholePart m s = nearest (m / 10 ^ s) := by
  rw [wholePart, ← parts_add m s, hrest, Nat.cast_zero, zero_div, add_zero]

/-! ## The error of the conversion -/

private theorem moderate_div {m u : Nat} (hm : m < 2 ^ 96) (hu : u < 2 ^ 96) (hpos : 0 < u) :
    Moderate (m / u : ℚ) := by
  rcases Nat.eq_zero_or_pos m with rfl | hm'
  · left
    rw [Nat.cast_zero, zero_div]
  · have hmLower : (1 : ℚ) ≤ m := by exact_mod_cast hm'
    have hmUpper : (m : ℚ) ≤ 2 ^ 96 := by exact_mod_cast hm.le
    have huLower : (1 : ℚ) ≤ u := by exact_mod_cast hpos
    have huUpper : (u : ℚ) ≤ 2 ^ 96 := by exact_mod_cast hu.le
    right
    constructor
    · calc (2 : ℚ) ^ (-1000 : Int) ≤ 2 ^ (-(96 : Nat) : Int) :=
            zpow_le_zpow_right₀ one_le_two (by norm_num)
        _ = 1 / 2 ^ 96 := by rw [zpow_neg, zpow_natCast, one_div]
        _ ≤ m / u := by gcongr
    · calc (m : ℚ) / u ≤ m := div_le_self (by positivity) huLower
        _ ≤ 2 ^ 96 := hmUpper
        _ ≤ 2 ^ 1000 := pow_le_pow_right₀ one_le_two (by norm_num)

private theorem moderate_natCast {m : Nat} (hm : m < 2 ^ 96) : Moderate (m : ℚ) := by
  have h := moderate_div hm (by norm_num : 1 < 2 ^ 96) one_pos
  rwa [Nat.cast_one, div_one] at h

private theorem unit_lt {s : Nat} (hs : s ≤ 28) : Nat.pow 10 s < 2 ^ 96 :=
  (Nat.pow_le_pow_right (by decide) hs).trans_lt (by decide)

private theorem nearest_natCast_near {n : Nat} (hn : n < 2 ^ 96) : Near 1 (nearest n).value n :=
  (Near.refl n.cast_nonneg).nearest (by decide) (moderate_natCast hn)

section Error

variable {m s : Nat} (hm : m < 2 ^ 96) (hs : s ≤ 28)

include hs

private theorem powerOfTen_near : Near 1 (powerOfTen s).value (10 ^ s) := by
  have h := nearest_natCast_near (unit_lt hs)
  rwa [cast_unit, ← powerOfTen_eq] at h

include hm

private theorem moderate_ratio : Moderate (m / 10 ^ s : ℚ) := by
  have h := moderate_div hm (unit_lt hs) (Nat.pow_pos (by decide))
  rwa [cast_unit] at h

private theorem fractionPart_near :
    Near 3 (fractionPart m s).value (((m % Nat.pow 10 s : Nat) : ℚ) / 10 ^ s) := by
  have hrest : m % Nat.pow 10 s < 2 ^ 96 := (Nat.mod_le _ _).trans_lt hm
  have hratio := (nearest_natCast_near hrest).div (powerOfTen_near hs) (by positivity)
  exact hratio.nearest (by decide) (moderate_ratio hrest hs)

/-- The sum of the parts is four roundings away from the decimal, and in units five from the integer
that its digits make. -/
private theorem sum_mul_near :
    Near 5 (((wholePart m s).add (fractionPart m s)).value * (powerOfTen s).value) m := by
  have hwhole : Near 1 (wholePart m s).value (m / Nat.pow 10 s : Nat) :=
    nearest_natCast_near ((Nat.div_le_self _ _).trans_lt hm)
  have hsum := (hwhole.mono (by decide)).add (fractionPart_near hm hs)
  rw [parts_add] at hsum
  have hproduct := (hsum.nearest (by decide) (moderate_ratio hm hs)).mul (powerOfTen_near hs)
  rwa [div_mul_cancel₀ _ (by positivity)] at hproduct

private theorem inUnits_near : Near 6 (inUnits m s).value m :=
  (sum_mul_near hm hs).nearest (by decide) (moderate_natCast hm)

private theorem value_roundHalfUp_inUnits :
    (inUnits m s).roundHalfUp.value = ⌊(inUnits m s).value + 1 / 2⌋ := by
  have hnear := inUnits_near hm hs
  have hfinite := (sum_mul_near hm hs).isFinite_nearest (by decide) (moderate_natCast hm)
  have hsmall := hnear.abs_lt (by decide) (moderate_natCast hm)
  exact Binary64.value_roundHalfUp hfinite hnear.left_nonneg ((le_abs_self _).trans_lt hsmall)

private theorem isZero_fractionPart : (fractionPart m s).isZero = true ↔ m % Nat.pow 10 s = 0 := by
  rw [Binary64.isZero_iff, (fractionPart_near hm hs).eq_zero_iff (by decide),
    div_eq_zero_iff, or_iff_left (by positivity), Nat.cast_eq_zero]

end Error

private theorem abs_floor_sub_le (x : ℚ) (n : Int) : |(⌊x + 1 / 2⌋ : ℚ) - n| ≤ 2 * |x - n| := by
  have hhalf : |(⌊x + 1 / 2⌋ : ℚ) - x| ≤ 1 / 2 := by
    have hle := Int.floor_le (x + 1 / 2)
    have hlt := Int.lt_floor_add_one (x + 1 / 2)
    rw [abs_le]
    constructor <;> linarith
  have hcloser := (Binary64.abs_sub_le_of_half hhalf n).1
  rw [abs_sub_comm (n : ℚ)] at hcloser
  linarith [abs_sub_le (⌊x + 1 / 2⌋ : ℚ) x n]

section Error

variable {m s : Nat} (hm : m < 2 ^ 96) (hs : s ≤ 28)

include hm hs

/-- The integer counts for as many roundings as are needed to cover twice the error so far. -/
private theorem roundHalfUp_inUnits_near : Near 13 (inUnits m s).roundHalfUp.value m := by
  have hm0 : (0 : ℚ) ≤ m := m.cast_nonneg
  have herror := (inUnits_near hm hs).abs_sub_mul_le
  have hdouble := abs_floor_sub_le (inUnits m s).value m
  push_cast at herror hdouble
  rw [value_roundHalfUp_inUnits hm hs]
  generalize (⌊(inUnits m s).value + 1 / 2⌋ : ℚ) = n at hdouble ⊢
  have hn : |n - m| ≤ m * (12 / (2 ^ 53 - 6)) := by
    rw [← mul_div_assoc, le_div_iff₀ (by norm_num)]
    linarith
  obtain ⟨hlower, hupper⟩ := abs_le.1 hn
  have hkeep := Binary64.keep_pos
  refine ⟨hm0, ?_, ?_⟩
  · calc (m : ℚ) * Binary64.keep ^ 13 ≤ m * (1 - 12 / (2 ^ 53 - 6)) := by
          gcongr
          norm_num [Binary64.keep]
      _ ≤ n := by linarith
  · calc n * Binary64.keep ^ 13 ≤ m * (1 + 12 / (2 ^ 53 - 6)) * Binary64.keep ^ 13 := by
          gcongr
          linarith
      _ = m * ((1 + 12 / (2 ^ 53 - 6)) * Binary64.keep ^ 13) := by ring
      _ ≤ m := mul_le_of_le_one_right hm0 (by norm_num [Binary64.keep])

/-- The last of the roundings, of a number that is fourteen of them away from the decimal. -/
theorem exists_joinParts_eq :
    ∃ x : ℚ, joinParts m s = nearest x ∧ Near 14 x (m / 10 ^ s) := by
  rw [joinParts_eq]
  split
  case isTrue hzero =>
    refine ⟨_, wholePart_eq ((isZero_fractionPart hm hs).1 hzero), ?_⟩
    exact (Near.refl (by positivity)).mono (by decide)
  case isFalse hzero =>
    exact ⟨_, rfl, (roundHalfUp_inUnits_near hm hs).div (powerOfTen_near hs) (by positivity)⟩

private theorem joinParts_near : Near 15 (joinParts m s).value (m / 10 ^ s) := by
  obtain ⟨x, hjoin, hnear⟩ := exists_joinParts_eq hm hs
  rw [hjoin]
  exact hnear.nearest (by decide) (moderate_ratio hm hs)

private theorem isFinite_joinParts : (joinParts m s).isFinite = true := by
  obtain ⟨x, hjoin, hnear⟩ := exists_joinParts_eq hm hs
  rw [hjoin]
  exact hnear.isFinite_nearest (by decide) (moderate_ratio hm hs)

end Error

/-! ## Correct rounding -/

private theorem joinParts_of_dvd {m s : Nat} (hm : m < 2 ^ 96) (hs : s ≤ 28) (hdvd : 10 ^ s ∣ m) :
    joinParts m s = nearest (m / 10 ^ s) := by
  have hrest : m % Nat.pow 10 s = 0 := Nat.mod_eq_zero_of_dvd hdvd
  rw [joinParts_eq, if_pos ((isZero_fractionPart hm hs).2 hrest), wholePart_eq hrest]

section Small

variable {m s : Nat} (hm : m < 2 ^ 51) (hs : s ≤ 22)

include hm hs

private theorem fractionPart_eq :
    fractionPart m s = nearest (((m % Nat.pow 10 s : Nat) : ℚ) / 10 ^ s) := by
  have hrest : m % Nat.pow 10 s < 2 ^ 53 := (Nat.mod_le _ _).trans_lt (hm.trans (by decide))
  rw [fractionPart, Binary64.div, Binary64.value_nearest_natCast hrest, powerOfTen,
    Binary64.value_nearest_pow_ten hs]

omit hs in
private theorem value_wholePart : (wholePart m s).value = (m / Nat.pow 10 s : Nat) :=
  Binary64.value_nearest_natCast ((Nat.div_le_self _ _).trans_lt (hm.trans (by decide)))

private theorem abs_fractionPart_sub_le :
    |(fractionPart m s).value - ((m % Nat.pow 10 s : Nat) : ℚ) / 10 ^ s| ≤
      ((m % Nat.pow 10 s : Nat) : ℚ) / 10 ^ s / 2 ^ 53 := by
  have hrest : m % Nat.pow 10 s < 2 ^ 96 := (Nat.mod_le _ _).trans_lt (hm.trans (by decide))
  rw [fractionPart_eq hm hs]
  exact (moderate_ratio hrest (hs.trans (by decide))).abs_nearest_sub_le

private theorem isFinite_fractionPart : (fractionPart m s).isFinite = true := by
  have hrest : m % Nat.pow 10 s < 2 ^ 96 := (Nat.mod_le _ _).trans_lt (hm.trans (by decide))
  rw [fractionPart_eq hm hs]
  exact (Near.refl (by positivity)).isFinite_nearest (by decide)
    (moderate_ratio hrest (hs.trans (by decide)))

omit hm hs in
/-- Where there is a part before the point, the part behind it is less than half of the sum, and
where there is none, nothing is added. -/
private theorem abs_nearest_add_sub_le {i : Nat} {y : Binary64} {f : ℚ} (hi : i < 2 ^ 51)
    (hfinite : y.isFinite = true) (hnonneg : 0 ≤ f) (hlt : f < 1)
    (hy : |y.value - f| ≤ f / 2 ^ 53) :
    |(nearest (i + y.value)).value - (i + f)| ≤ (i + f) * ((3 / 2 + 1 / 2 ^ 54) / 2 ^ 53) := by
  obtain ⟨hlower, hupper⟩ := abs_le.1 hy
  rcases Nat.eq_zero_or_pos i with rfl | hpos
  · have hself : (nearest y.value).value = y.value := by
      apply Binary64.value_nearest_value hfinite
      calc |y.value| < 2 := abs_lt.2 ⟨by linarith, by linarith⟩
        _ ≤ 2 ^ 1023 := le_self_pow₀ one_le_two (by decide)
    rw [Nat.cast_zero, zero_add, zero_add, hself]
    exact hy.trans (by linarith)
  · have hiLower : (1 : ℚ) ≤ i := by exact_mod_cast hpos
    have hiUpper : (i : ℚ) < 2 ^ 51 := by exact_mod_cast hi
    have hnormal : (2 : ℚ) ^ (-1022 : Int) ≤ i + y.value :=
      (zpow_le_one_of_nonpos₀ one_le_two (by norm_num)).trans (by linarith)
    have hround : |(nearest (i + y.value)).value - (i + y.value)| ≤ (i + y.value) / 2 ^ 53 := by
      refine Binary64.abs_nearest_sub_le_mul hnormal ?_
      calc i + y.value < 2 ^ 52 := by linarith
        _ ≤ 2 ^ 1023 := pow_le_pow_right₀ one_le_two (by norm_num)
    calc |(nearest (i + y.value)).value - (i + f)|
      _ = |(nearest (i + y.value)).value - (i + y.value) + (y.value - f)| := by
        rw [← sub_sub_sub_cancel_right _ _ y.value]
        congr 1
        ring
      _ ≤ (i + y.value) / 2 ^ 53 + f / 2 ^ 53 := (abs_add_le _ _).trans (add_le_add hround hy)
      _ ≤ (i + f) * ((3 / 2 + 1 / 2 ^ 54) / 2 ^ 53) := by linarith

private theorem abs_sum_sub_le :
    |((wholePart m s).add (fractionPart m s)).value - m / 10 ^ s| ≤
      m / 10 ^ s * ((3 / 2 + 1 / 2 ^ 54) / 2 ^ 53) := by
  have hlt : ((m % Nat.pow 10 s : Nat) : ℚ) / 10 ^ s < 1 := by
    rw [← cast_unit]
    exact Binary64.rest_lt_one m (Nat.pow_pos (by decide))
  rw [Binary64.add, value_wholePart hm, ← parts_add m s]
  exact abs_nearest_add_sub_le ((Nat.div_le_self _ _).trans_lt hm) (isFinite_fractionPart hm hs)
    (by positivity) hlt (abs_fractionPart_sub_le hm hs)

/-- In units the sum is less than a half away from the integer, because integers below `2 ^ 51` have
two places behind the point. -/
private theorem abs_inUnits_sub_lt (hpos : 0 < m) : |(inUnits m s).value - m| < 1 / 2 := by
  have ht : (0 : ℚ) < 10 ^ s := by positivity
  have hmLower : (1 : ℚ) ≤ m := by exact_mod_cast hpos
  have hmUpper : (m : ℚ) ≤ 2 ^ 51 - 1 := by
    rw [le_sub_iff_add_le]
    exact_mod_cast hm
  have hsum := mul_le_mul_of_nonneg_right (abs_sum_sub_le hm hs) ht.le
  rw [← abs_of_pos ht, ← abs_mul, abs_of_pos ht, sub_mul, mul_right_comm,
    div_mul_cancel₀ _ ht.ne'] at hsum
  rw [inUnits, Binary64.mul, powerOfTen, Binary64.value_nearest_pow_ten hs]
  generalize ((wholePart m s).add (fractionPart m s)).value * 10 ^ s = w at hsum ⊢
  have hw : |w - m| < 3 / 8 := hsum.trans_lt (by linarith)
  obtain ⟨hlower, hupper⟩ := abs_lt.1 hw
  have hround : |(nearest w).value - w| ≤ (2 : ℚ) ^ (-2 : Int) / 2 := by
    refine Binary64.abs_nearest_sub_le (by decide) (by decide) (by linarith) ?_
    norm_num
    linarith
  calc |(nearest w).value - m| ≤ |(nearest w).value - w| + |w - m| := abs_sub_le _ _ _
    _ < (2 : ℚ) ^ (-2 : Int) / 2 + 3 / 8 := add_lt_add_of_le_of_lt hround hw
    _ = 1 / 2 := by norm_num

/-- Rounding to the decimal places undoes the errors made before. -/
private theorem value_roundHalfUp_inUnits_of_small (hpos : 0 < m) :
    (inUnits m s).roundHalfUp.value = m := by
  obtain ⟨hlower, hupper⟩ := abs_lt.1 (abs_inUnits_sub_lt hm hs hpos)
  have hfloor : ⌊(inUnits m s).value + 1 / 2⌋ = m := by
    rw [Int.floor_eq_iff, Int.cast_natCast]
    constructor <;> linarith
  rw [value_roundHalfUp_inUnits (hm.trans (by decide)) (hs.trans (by decide)), hfloor,
    Int.cast_natCast]

private theorem joinParts_of_small : joinParts m s = nearest (m / 10 ^ s) := by
  have hm' : m < 2 ^ 96 := hm.trans (by decide)
  have hs' : s ≤ 28 := hs.trans (by decide)
  by_cases hrest : m % Nat.pow 10 s = 0
  · exact joinParts_of_dvd hm' hs' (Nat.dvd_of_mod_eq_zero hrest)
  · have hpos : 0 < m := Nat.pos_of_ne_zero fun hm0 => hrest (by rw [hm0, Nat.zero_mod])
    rw [joinParts_eq, if_neg fun hzero => hrest ((isZero_fractionPart hm' hs').1 hzero),
      Binary64.div, value_roundHalfUp_inUnits_of_small hm hs hpos, powerOfTen,
      Binary64.value_nearest_pow_ten hs]

end Small

/-! ## Signs -/

variable (d : Decimal)

private theorem magnitude_lt_two_pow : d.magnitude < 2 ^ 96 := d.magnitude_lt

private theorem value_eq :
    d.value = if d.negative then -(d.magnitude / 10 ^ d.scale : ℚ)
      else (d.magnitude / 10 ^ d.scale : ℚ) := by
  rw [value, cast_unit]

private theorem toBinary64_cases :
    d.toBinary64 = joinParts d.magnitude d.scale ∧ d.value = d.magnitude / 10 ^ d.scale ∨
      d.toBinary64 = (joinParts d.magnitude d.scale).neg ∧
        d.value = -(d.magnitude / 10 ^ d.scale) := by
  rw [toBinary64, value_eq]
  split
  case isTrue hs =>
    have hjoin : joinParts d.magnitude d.scale = nearest d.magnitude := by
      have h := joinParts_of_dvd d.magnitude_lt_two_pow d.scale_le (by rw [hs]; exact one_dvd _)
      rwa [hs, pow_zero, div_one, ← hs] at h
    rw [hjoin, hs, pow_zero, div_one]
    cases d.negative with
    | false => exact Or.inl ⟨rfl, rfl⟩
    | true =>
      rcases Nat.eq_zero_or_pos d.magnitude with hm | hm
      · left
        simp [hm]
      · right
        exact ⟨Binary64.nearest_neg (by exact_mod_cast hm), rfl⟩
  case isFalse hs =>
    cases d.negative with
    | false => exact Or.inl ⟨rfl, rfl⟩
    | true => exact Or.inr ⟨rfl, rfl⟩

theorem isFinite_toBinary64 : d.toBinary64.isFinite = true := by
  have hfinite := isFinite_joinParts d.magnitude_lt_two_pow d.scale_le
  rcases d.toBinary64_cases with ⟨h, -⟩ | ⟨h, -⟩
  · rw [h, hfinite]
  · rw [h, Binary64.isFinite_neg, hfinite]

theorem abs_toBinary64_sub_le : |d.toBinary64.value - d.value| ≤ |d.value| / 2 ^ 49 := by
  have hnear := joinParts_near d.magnitude_lt_two_pow d.scale_le
  have herror := hnear.abs_sub_mul_le
  have hbound : |(joinParts d.magnitude d.scale).value - d.magnitude / 10 ^ d.scale| ≤
      |(d.magnitude / 10 ^ d.scale : ℚ)| / 2 ^ 49 := by
    rw [abs_of_nonneg hnear.nonneg, le_div_iff₀ (by positivity)]
    push_cast at herror
    linarith [hnear.nonneg]
  rcases d.toBinary64_cases with ⟨h, hvalue⟩ | ⟨h, hvalue⟩
  · rw [h, hvalue]
    exact hbound
  · rw [h, hvalue, Binary64.value_neg, neg_sub_neg, abs_sub_comm, abs_neg]
    exact hbound

/-- Only the last step of the conversion leaves an error: the decimal is an integer, or the power of
ten below it is exact and its digits leave two places for the errors of the sum. -/
def RoundsOnce : Prop := 10 ^ d.scale ∣ d.magnitude ∨ d.scale ≤ 22 ∧ d.magnitude < 2 ^ 51

instance : Decidable d.RoundsOnce := inferInstanceAs (Decidable (_ ∨ _))

theorem isNearest_toBinary64 {d : Decimal} (h : d.RoundsOnce) :
    d.toBinary64.IsNearest d.value := by
  have hjoin : joinParts d.magnitude d.scale = nearest (d.magnitude / 10 ^ d.scale) := by
    rcases h with hdvd | ⟨hs, hm⟩
    · exact joinParts_of_dvd d.magnitude_lt_two_pow d.scale_le hdvd
    · exact joinParts_of_small hm hs
  have hmoderate := moderate_ratio d.magnitude_lt_two_pow d.scale_le
  have hnearest : (joinParts d.magnitude d.scale).IsNearest (d.magnitude / 10 ^ d.scale) := by
    rw [hjoin]
    exact Binary64.isNearest_nearest ((Near.refl (by positivity)).abs_lt (by decide) hmoderate)
  rcases d.toBinary64_cases with ⟨h, hvalue⟩ | ⟨h, hvalue⟩
  · rw [h, hvalue]
    exact hnearest
  · rw [h, hvalue]
    exact hnearest.neg

theorem not_isNearest_of_closer {x y : Binary64} {q : ℚ} (hy : y.isFinite = true)
    (hcloser : |y.value - q| < |x.value - q|) : ¬ x.IsNearest q :=
  fun h => absurd (h.closest y hy) (not_le.2 hcloser)

end QueryFrame.Decimal
