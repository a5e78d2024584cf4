import Mathlib.Data.Rat.Floor
import Mathlib.Tactic.GCongr
import QueryFrame.Proofs.Binary64.Nearest

/-!
# The error of a rounding

A rounding is half a last place off at most, so it is exact on numbers that have few enough places,
and above the subnormal numbers its error is `2 ^ (-53)` of the number at most. Several roundings
in a row are counted: each of them is one more factor `1 - 2 ^ (-53)` that the result may be away
from the exact one.
-/

namespace QueryFrame.Binary64

/-! ## One rounding -/

private theorem lt_of_lt_places {e : Int} {q : ℚ} (hupper : e ≤ 969)
    (hlt : q < (2 : ℚ) ^ 53 * (2 : ℚ) ^ e) : q < (2 : ℚ) ^ 1023 := by
  calc q < 2 ^ 53 * 2 ^ e := hlt
    _ ≤ 2 ^ 53 * 2 ^ (969 : Int) := by gcongr; norm_num
    _ = 2 ^ ((53 + 969 : Nat) : Int) := by rw [Nat.cast_add, zpow_add₀ two_ne_zero]; rfl
    _ ≤ 2 ^ 1023 := by rw [zpow_natCast]; gcongr <;> norm_num

theorem abs_nearest_sub_le {e : Int} {q : ℚ} (hlower : -1074 ≤ e) (hupper : e ≤ 969) (hq : 0 < q)
    (hlt : q < (2 : ℚ) ^ 53 * (2 : ℚ) ^ e) : |(nearest q).value - q| ≤ (2 : ℚ) ^ e / 2 := by
  have hsmall : q < (2 : ℚ) ^ 1023 := lt_of_lt_places hupper hlt
  obtain ⟨e', places, h, heq⟩ := nearest_rounds hq hsmall
  rw [heq]
  refine (h.abs_value_sub_le hsmall).trans ?_
  gcongr
  · norm_num
  · exact h.exponent_le hlower hlt

/-- A normal number is rounded by `2 ^ (-53)` of itself at most. -/
theorem abs_nearest_sub_le_mul {q : ℚ} (hnormal : (2 : ℚ) ^ (-1022 : Int) ≤ q)
    (hsmall : q < (2 : ℚ) ^ 1023) : |(nearest q).value - q| ≤ q / 2 ^ 53 := by
  have hq : 0 < q := lt_of_lt_of_le (by positivity) hnormal
  obtain ⟨e, places, h, heq⟩ := nearest_rounds hq hsmall
  have hplaces : (2 : ℚ) ^ 52 * 2 ^ e ≤ q := by
    rcases h.lower.lt_or_eq with he | rfl
    · exact h.le he
    · refine le_of_eq_of_le ?_ hnormal
      rw [← zpow_natCast, ← zpow_add₀ two_ne_zero]
      norm_num
  rw [heq]
  refine (h.abs_value_sub_le hsmall).trans ?_
  rw [le_div_iff₀ (by positivity)]
  linarith

/-- An integer of at most 53 places, in any unit, is rounded to itself. -/
private theorem value_nearest_places {n : Nat} {f : Int} (hn : n < 2 ^ 53) (hlower : -1074 ≤ f)
    (hupper : f ≤ 969) : (nearest (n * (2 : ℚ) ^ f)).value = n * (2 : ℚ) ^ f := by
  rcases Nat.eq_zero_or_pos n with rfl | hpos
  · rw [Nat.cast_zero, zero_mul, nearest_zero, value_zero]
  have hf : (0 : ℚ) < 2 ^ f := by positivity
  have hq : (0 : ℚ) < n * 2 ^ f := mul_pos (by exact_mod_cast hpos) hf
  have hlt : (n : ℚ) * 2 ^ f < 2 ^ 53 * 2 ^ f := by
    gcongr
    exact_mod_cast hn
  have hsmall : (n : ℚ) * 2 ^ f < 2 ^ 1023 := lt_of_lt_places hupper hlt
  obtain ⟨e, places, h, heq⟩ := nearest_rounds hq hsmall
  obtain ⟨k, hk⟩ := Int.eq_ofNat_of_zero_le (Int.sub_nonneg_of_le (h.exponent_le hlower hlt))
  have hunits : (n : ℚ) * 2 ^ f / 2 ^ e = (n * 2 ^ k : Nat) := by
    rw [show f = k + e by omega, zpow_add₀ two_ne_zero, ← mul_assoc,
      mul_div_cancel_right₀ _ (by positivity)]
    norm_cast
  have hplaces : places = n * 2 ^ k := by
    have hhalf : |((places : Int) : ℚ) - ((n * 2 ^ k : Nat) : Int)| ≤ 1 / 2 := by
      rw [Int.cast_natCast, Int.cast_natCast, ← hunits]
      exact h.half
    have hself := (abs_sub_le_of_half hhalf (n * 2 ^ k : Nat)).1
    rw [sub_self, abs_zero, abs_nonpos_iff, sub_eq_zero] at hself
    exact_mod_cast hself
  rw [heq, (h.fits hsmall).value_ofPlaces, hplaces, ← hunits, div_mul_cancel₀ _ (by positivity)]

theorem value_nearest_natCast {n : Nat} (hn : n < 2 ^ 53) : (nearest n).value = n := by
  have h := value_nearest_places hn (f := 0) (by norm_num) (by norm_num)
  rwa [zpow_zero, mul_one] at h

/-- Powers of ten have so many factors of two that the 23 smallest are exact. -/
theorem value_nearest_pow_ten {s : Nat} (hs : s ≤ 22) :
    (nearest (Nat.pow 10 s : Nat)).value = 10 ^ s := by
  have hplaces : 5 ^ s < 2 ^ 53 :=
    (Nat.pow_le_pow_right (by decide) hs).trans_lt (by decide)
  have h := value_nearest_places hplaces (f := s) (by omega) (by omega)
  have hpower : ((5 ^ s : Nat) : ℚ) * 2 ^ (s : Int) = 10 ^ s := by
    rw [zpow_natCast, Nat.cast_pow, ← mul_pow]
    norm_num
  rw [hpower] at h
  rw [← h]
  congr 2
  exact Nat.cast_pow 10 s

theorem value_nearest_value {x : Binary64} (hfinite : x.isFinite = true)
    (hsmall : |x.value| < 2 ^ 1023) : (nearest x.value).value = x.value :=
  (isNearest_nearest hsmall).value_eq hfinite rfl

/-- Rounding to an integer makes no further error: an integer above `2 ^ 53` that is not a word
is not reached from one. -/
theorem value_roundHalfUp {x : Binary64} (hfinite : x.isFinite = true) (hnonneg : 0 ≤ x.value)
    (hsmall : x.value < 2 ^ 1023) : x.roundHalfUp.value = ⌊x.value + 1 / 2⌋ := by
  change (nearest (⌊x.value + 1 / 2⌋ : ℚ)).value = _
  rcases x.value_grid 0 with ⟨k, hk⟩ | ⟨-, hlt⟩
  · rw [zpow_zero, mul_one] at hk
    have hfloor : ⌊x.value + 1 / 2⌋ = k := by
      rw [hk, Int.floor_eq_iff]
      constructor <;> linarith
    rw [hfloor, ← hk]
    exact value_nearest_value hfinite (by rwa [abs_of_nonneg hnonneg])
  · rw [zpow_zero, mul_one, abs_of_nonneg hnonneg] at hlt
    obtain ⟨n, hn⟩ := Int.eq_ofNat_of_zero_le (Int.floor_nonneg.2 (by linarith : 0 ≤ x.value + 1 / 2))
    have hbound : n < 2 ^ 53 := by
      have hfloor : (⌊x.value + 1 / 2⌋ : ℚ) ≤ x.value + 1 / 2 := Int.floor_le _
      rw [hn] at hfloor
      have hlt' : (n : ℚ) < (2 ^ 53 : Nat) := by
        push_cast at hfloor ⊢
        linarith
      exact_mod_cast hlt'
    rw [hn]
    exact value_nearest_natCast hbound

/-! ## Roundings in a row -/

/-- What one rounding leaves of a number at least. -/
def keep : ℚ := 1 - 1 / 2 ^ 53

theorem keep_pos : 0 < keep := by norm_num [keep]

private theorem keep_le_one : keep ≤ 1 := by norm_num [keep]

private theorem one_sub_le_keep_pow (n : Nat) : 1 - n / 2 ^ 53 ≤ keep ^ n := by
  have h := one_add_mul_le_pow (by norm_num : (-2 : ℚ) ≤ -(1 / 2 ^ 53)) n
  refine le_of_eq_of_le ?_ (h.trans_eq (by rw [keep, sub_eq_add_neg]))
  ring

/-- Two numbers, the second exact, that `n` roundings may lie between. -/
structure Near (n : Nat) (x q : ℚ) : Prop where
  nonneg : 0 ≤ q
  lower : q * keep ^ n ≤ x
  upper : x * keep ^ n ≤ q

namespace Near

variable {n m : Nat} {x y q r : ℚ}

theorem refl (h : 0 ≤ q) : Near 0 q q := ⟨h, by simp, by simp⟩

theorem left_nonneg (h : Near n x q) : 0 ≤ x := by
  have hkeep := keep_pos
  have hq := h.nonneg
  exact le_trans (by positivity) h.lower

theorem mono (h : Near n x q) (hle : n ≤ m) : Near m x q := by
  have hkeep : keep ^ m ≤ keep ^ n := pow_le_pow_of_le_one keep_pos.le keep_le_one hle
  exact ⟨h.nonneg, (mul_le_mul_of_nonneg_left hkeep h.nonneg).trans h.lower,
    (mul_le_mul_of_nonneg_left hkeep h.left_nonneg).trans h.upper⟩

private theorem trans (h : Near n x y) (h' : Near m y q) : Near (n + m) x q := by
  have hn : 0 ≤ keep ^ n := pow_nonneg keep_pos.le n
  have hm : 0 ≤ keep ^ m := pow_nonneg keep_pos.le m
  refine ⟨h'.nonneg, ?_, ?_⟩
  · calc q * keep ^ (n + m) = q * keep ^ m * keep ^ n := by ring
      _ ≤ y * keep ^ n := mul_le_mul_of_nonneg_right h'.lower hn
      _ ≤ x := h.lower
  · calc x * keep ^ (n + m) = x * keep ^ n * keep ^ m := by ring
      _ ≤ y * keep ^ m := mul_le_mul_of_nonneg_right h.upper hm
      _ ≤ q := h'.upper

theorem add (h : Near n x q) (h' : Near n y r) : Near n (x + y) (q + r) :=
  ⟨add_nonneg h.nonneg h'.nonneg, by linarith [h.lower, h'.lower], by linarith [h.upper, h'.upper]⟩

theorem mul (h : Near n x q) (h' : Near m y r) : Near (n + m) (x * y) (q * r) := by
  have hn : 0 ≤ keep ^ n := pow_nonneg keep_pos.le n
  have hm : 0 ≤ keep ^ m := pow_nonneg keep_pos.le m
  have hq := h.nonneg
  have hr := h'.nonneg
  have hx := h.left_nonneg
  have hy := h'.left_nonneg
  refine ⟨mul_nonneg hq hr, ?_, ?_⟩
  · calc q * r * keep ^ (n + m) = q * keep ^ n * (r * keep ^ m) := by ring
      _ ≤ x * y := mul_le_mul h.lower h'.lower (by positivity) hx
  · calc x * y * keep ^ (n + m) = x * keep ^ n * (y * keep ^ m) := by ring
      _ ≤ q * r := mul_le_mul h.upper h'.upper (by positivity) hq

private theorem inv (h : Near n x q) (hq : 0 < q) : Near n x⁻¹ q⁻¹ := by
  have hkeep : 0 < keep ^ n := pow_pos keep_pos n
  have hx : 0 < x := lt_of_lt_of_le (by positivity) h.lower
  refine ⟨by positivity, ?_, ?_⟩
  · rw [inv_mul_le_iff₀ hq, ← div_eq_mul_inv, le_div_iff₀ hx, mul_comm]
    exact h.upper
  · rw [inv_mul_le_iff₀ hx, ← div_eq_mul_inv, le_div_iff₀ hq, mul_comm]
    exact h.lower

theorem div (h : Near n x q) (h' : Near m y r) (hr : 0 < r) : Near (n + m) (x / y) (q / r) := by
  rw [div_eq_mul_inv, div_eq_mul_inv]
  exact h.mul (h'.inv hr)

/-- The errors of the roundings add up, and a little more. -/
theorem abs_sub_mul_le (h : Near n x q) : |x - q| * (2 ^ 53 - n) ≤ n * q := by
  have hkeep := one_sub_le_keep_pow n
  have hx := h.left_nonneg
  have hlower : q * (1 - n / 2 ^ 53) ≤ x := (mul_le_mul_of_nonneg_left hkeep h.nonneg).trans h.lower
  have hupper : x * (1 - n / 2 ^ 53) ≤ q := (mul_le_mul_of_nonneg_left hkeep hx).trans h.upper
  rcases le_total q x with hle | hle
  · rw [abs_of_nonneg (sub_nonneg.2 hle)]
    linarith
  · have hn : 0 ≤ (q - x) * n := mul_nonneg (sub_nonneg.2 hle) n.cast_nonneg
    rw [abs_of_nonpos (sub_nonpos.2 hle)]
    linarith

private theorem half_le (h : Near n x q) (hn : n ≤ 2 ^ 52) : q / 2 ≤ x ∧ x ≤ 2 * q := by
  have hn' : (n : ℚ) / 2 ^ 53 ≤ 1 / 2 := by
    have hcast : (n : ℚ) ≤ 2 ^ 52 := by exact_mod_cast hn
    rw [div_le_div_iff₀ (by positivity) two_pos]
    linarith
  have hkeep : 1 / 2 ≤ keep ^ n := le_trans (by linarith) (one_sub_le_keep_pow n)
  have hlower := (mul_le_mul_of_nonneg_left hkeep h.nonneg).trans h.lower
  have hupper := (mul_le_mul_of_nonneg_left hkeep h.left_nonneg).trans h.upper
  constructor <;> linarith

end Near

private theorem nearest_near {q : ℚ} (hq : q = 0 ∨ (2 : ℚ) ^ (-1022 : Int) ≤ q)
    (hsmall : q < 2 ^ 1023) :
    Near 1 (nearest q).value q := by
  rcases hq with rfl | hnormal
  · rw [nearest_zero, value_zero]
    exact (Near.refl le_rfl).mono zero_le_one
  · have hq : 0 < q := lt_of_lt_of_le (by positivity) hnormal
    have herror := abs_le.1 (abs_nearest_sub_le_mul hnormal hsmall)
    refine ⟨hq.le, ?_, ?_⟩ <;> rw [keep, pow_one]
    · linarith only [herror.1]
    · have hupper : (nearest q).value ≤ q * (1 + 1 / 2 ^ 53) := by linarith only [herror.2]
      calc (nearest q).value * (1 - 1 / 2 ^ 53) ≤ q * (1 + 1 / 2 ^ 53) * (1 - 1 / 2 ^ 53) :=
            mul_le_mul_of_nonneg_right hupper (by norm_num)
        _ = q * (1 - 1 / 2 ^ 106) := by ring
        _ ≤ q := by linarith only [hq]

/-- A number far from the smallest and the largest words, or zero. -/
def Moderate (q : ℚ) : Prop := q = 0 ∨ (2 : ℚ) ^ (-1000 : Int) ≤ q ∧ q ≤ 2 ^ 1000

private theorem Moderate.lt {q : ℚ} (hq : Moderate q) : q < 2 ^ 1023 := by
  rcases hq with rfl | ⟨-, hhigh⟩
  · positivity
  · exact hhigh.trans_lt (pow_lt_pow_right₀ one_lt_two (by norm_num))

theorem Moderate.abs_nearest_sub_le {q : ℚ} (hq : Moderate q) :
    |(nearest q).value - q| ≤ q / 2 ^ 53 := by
  rcases hq with rfl | ⟨hlow, hhigh⟩
  · simp
  · refine abs_nearest_sub_le_mul ?_ (Moderate.lt (Or.inr ⟨hlow, hhigh⟩))
    exact (zpow_le_zpow_right₀ one_le_two (by norm_num)).trans hlow

namespace Near

variable {n : Nat} {x q : ℚ} (h : Near n x q) (hn : n ≤ 2 ^ 52)

include h hn

theorem eq_zero_iff : x = 0 ↔ q = 0 := by
  obtain ⟨hlower, hupper⟩ := h.half_le hn
  have hx := h.left_nonneg
  have hq := h.nonneg
  constructor <;> intro h0 <;> linarith

variable (hq : Moderate q)

include hq

theorem abs_lt : |x| < 2 ^ 1023 := by
  have hmoderate : q ≤ 2 ^ 1000 := by
    rcases hq with rfl | ⟨-, hhigh⟩
    · positivity
    · exact hhigh
  calc |x| = x := abs_of_nonneg h.left_nonneg
    _ ≤ 2 * q := (h.half_le hn).2
    _ ≤ 2 * 2 ^ 1000 := mul_le_mul_of_nonneg_left hmoderate zero_le_two
    _ = 2 ^ (1000 + 1) := (pow_succ' 2 1000).symm
    _ < 2 ^ 1023 := pow_lt_pow_right₀ one_lt_two (by norm_num)

theorem isFinite_nearest : (Binary64.nearest x).isFinite = true :=
  (isNearest_nearest (h.abs_lt hn hq)).isFinite

theorem nearest : Near (n + 1) (Binary64.nearest x).value q := by
  have hnormal : x = 0 ∨ (2 : ℚ) ^ (-1022 : Int) ≤ x := by
    rcases hq with hq | ⟨hlow, -⟩
    · exact Or.inl ((h.eq_zero_iff hn).2 hq)
    · right
      calc (2 : ℚ) ^ (-1022 : Int) ≤ 2 ^ (-1000 + -1 : Int) :=
            zpow_le_zpow_right₀ one_le_two (by norm_num)
        _ = 2 ^ (-1000 : Int) / 2 := by
            rw [zpow_add₀ two_ne_zero, zpow_neg_one, div_eq_mul_inv]
        _ ≤ q / 2 := div_le_div_of_nonneg_right hlow zero_le_two
        _ ≤ x := (h.half_le hn).1
  have hnear := nearest_near hnormal ((le_abs_self x).trans_lt (h.abs_lt hn hq))
  exact add_comm n 1 ▸ hnear.trans h

end Near

end QueryFrame.Binary64
