import LineTemplates.Proofs.Number.Notation
import LineTemplates.Proofs.Number.Rounding
import Mathlib.Data.Rat.Floor

/-! Binary64 numbers among the rational ones. Reading a decimal yields the binary64 number nearest to the number that is
written, which is that number itself if binary64 has it. -/

namespace LineTemplates

variable {value nearest number : ℚ}

/-- The numbers of binary64: a significand of 53 binary digits and a power of two. The first number past the greatest
one, 2 ^ 1024, is among them and stands for infinity. -/
def IsBinary64 (number : ℚ) : Prop :=
  ∃ significand exponent : ℤ, |significand| ≤ 2 ^ 53 ∧ -1074 ≤ exponent ∧ exponent ≤ 971 ∧
    number = significand * 2 ^ exponent

/-- The binary64 number nearest to a value. Of two that are equally near it is the one with the even significand, which
is an even multiple of their distance. -/
structure NearestBinary64 (value nearest : ℚ) : Prop where
  held : IsBinary64 nearest
  least : ∀ other, IsBinary64 other → |value - nearest| ≤ |value - other|
  even : ∀ other, IsBinary64 other → other ≠ nearest → |value - nearest| = |value - other| →
    ∃ half : ℤ, nearest = 2 * half * |nearest - other|

theorem IsBinary64.neg (held : IsBinary64 number) : IsBinary64 (-number) := by
  obtain ⟨significand, exponent, short, low, high, rfl⟩ := held
  exact ⟨-significand, exponent, by rwa [abs_neg], low, high, by push_cast; rw [neg_mul]⟩

theorem isBinary64_of_abs_le {whole : ℤ} (short : |whole| ≤ 2 ^ 53) : IsBinary64 whole :=
  ⟨whole, 0, short, by decide, by decide, by rw [zpow_zero, mul_one]⟩

namespace NearestBinary64

theorem neg (closest : NearestBinary64 value nearest) : NearestBinary64 (-value) (-nearest) := by
  have turned (other : ℚ) : |-value - other| = |value - -other| := by
    rw [← abs_neg]
    congr 1
    linarith
  constructor
  case held => exact closest.held.neg
  case least =>
    intro other held
    rw [turned, turned, neg_neg]
    exact closest.least (-other) held.neg
  case even =>
    intro other held different tie
    rw [turned, turned, neg_neg] at tie
    obtain ⟨half, even⟩ := closest.even (-other) held.neg (fun same => different (neg_eq_iff_eq_neg.mp same)) tie
    refine ⟨-half, ?_⟩
    have apart : |nearest - -other| = |-nearest - other| := by
      rw [← abs_neg]
      congr 1
      linarith
    rw [apart] at even
    nth_rewrite 1 [even]
    push_cast
    linarith

theorem eq_self (closest : NearestBinary64 value nearest) (held : IsBinary64 value) : nearest = value := by
  have least := closest.least value held
  rw [sub_self, abs_zero] at least
  exact (sub_eq_zero.mp (abs_nonpos_iff.mp least)).symm

theorem unique {other : ℚ} (closest : NearestBinary64 value nearest) (also : NearestBinary64 value other) :
    other = nearest := by
  by_contra different
  have tie : |value - nearest| = |value - other| := le_antisymm (closest.least _ also.held) (also.least _ closest.held)
  obtain ⟨half, first⟩ := closest.even other also.held different tie
  obtain ⟨half', second⟩ := also.even nearest closest.held (Ne.symm different) tie.symm
  rw [abs_sub_comm] at second
  have apart : (0 : ℚ) < |nearest - other| := abs_pos.mpr (sub_ne_zero.mpr (Ne.symm different))
  -- Their distance would be an even multiple of itself.
  have multiple : nearest - other = (2 * (half - half') : ℤ) * |nearest - other| := by
    push_cast
    linarith
  have size := congrArg abs multiple
  rw [abs_mul, abs_abs] at size
  have one : |((2 * (half - half') : ℤ) : ℚ)| = 1 := by
    apply mul_right_cancel₀ apart.ne'
    rw [one_mul]
    exact size.symm
  have odd : |2 * (half - half')| = 1 := by exact_mod_cast one
  rcases (abs_eq zero_le_one).mp odd with up | down
  · omega
  · omega

end NearestBinary64

namespace Binary

def toRat (value : Binary) : ℚ :=
  if value.negative then -(value.units / unitsInOne) else value.units / unitsInOne

end Binary

theorem cast_twoTo (exponent : ℕ) : (twoTo exponent : ℚ) = 2 ^ exponent := Nat.cast_pow 2 exponent

theorem unitsInOne_pos : (0 : ℚ) < unitsInOne := by
  rw [unitsInOne, cast_twoTo]
  exact pow_pos two_pos _

theorem Binary.eq_of_toRat_eq {first second : Binary} (sign : first.negative = second.negative)
    (same : first.toRat = second.toRat) : first = second := by
  obtain ⟨negative, units⟩ := first
  obtain ⟨_, units'⟩ := second
  cases sign
  have quotients : (units / unitsInOne : ℚ) = units' / unitsInOne := by
    cases negative with
    | true => exact neg_injective same
    | false => exact same
  have equal : units = units' := by exact_mod_cast (div_left_inj' unitsInOne_pos.ne').mp quotients
  rw [equal]

theorem two_zpow_sub (exponent : ℕ) : (2 : ℚ) ^ ((exponent : ℤ) - 1074) = 2 ^ exponent / unitsInOne := by
  have scaled (unit : ℕ) : (2 : ℚ) ^ ((exponent : ℤ) - unit) = 2 ^ exponent / twoTo unit := by
    rw [zpow_sub₀ two_ne_zero, zpow_natCast, zpow_natCast, cast_twoTo]
  exact scaled 1074

theorem isBinary64_iff_of_nonneg (nonneg : 0 ≤ number) :
    IsBinary64 number ↔ ∃ units, binary64.Holds units ∧ number = units / unitsInOne := by
  constructor
  · rintro ⟨significand, exponent, short, low, high, rfl⟩
    have positive : (0 : ℚ) < 2 ^ exponent := zpow_pos two_pos _
    have unsigned : 0 ≤ significand := by exact_mod_cast nonneg_of_mul_nonneg_left nonneg positive
    obtain ⟨significand, rfl⟩ := Int.eq_ofNat_of_zero_le unsigned
    obtain ⟨scale, scaled⟩ := Int.eq_ofNat_of_zero_le (show 0 ≤ exponent + 1074 by omega)
    obtain rfl : exponent = scale - 1074 := by omega
    rw [Nat.abs_cast] at short
    refine ⟨significand * 2 ^ scale, ⟨significand, scale, by exact_mod_cast short, Nat.zero_le _, ?_, rfl⟩, ?_⟩
    · change scale + 53 ≤ 2098
      omega
    · rw [two_zpow_sub]
      push_cast
      rw [mul_div_assoc]
  · rintro ⟨_, ⟨significand, scale, short, _, within, rfl⟩, rfl⟩
    refine ⟨significand, scale - 1074, ?_, by omega, ?_, ?_⟩
    · rw [Nat.abs_cast]
      exact_mod_cast short
    · change scale + 53 ≤ 2098 at within
      omega
    · rw [two_zpow_sub]
      push_cast
      rw [mul_div_assoc]

/-- What is nearest to a value in units is nearest to it. -/
theorem BinaryFormat.Rounds.nearestBinary64 {units : ℕ} (nonneg : 0 ≤ value)
    (rounds : binary64.Rounds (value * unitsInOne) units) : NearestBinary64 value (units / unitsInOne) := by
  have positive := unitsInOne_pos
  have scaled (other : ℚ) : |value - other / unitsInOne| = |value * unitsInOne - other| / unitsInOne := by
    rw [← abs_of_pos positive, ← abs_div, abs_of_pos positive, sub_div, mul_div_cancel_right₀ _ positive.ne']
  have farther {other : ℚ} (negative : other < 0) : |value - units / unitsInOne| < |value - other| := by
    have zero := rounds.least 0 ⟨0, 0, Nat.zero_le _, le_rfl, by decide, rfl⟩
    rw [Nat.cast_zero, sub_zero, abs_of_nonneg (mul_nonneg nonneg positive.le)] at zero
    rw [scaled, abs_of_nonneg (show 0 ≤ value - other by linarith), div_lt_iff₀ positive]
    refine zero.trans_lt ?_
    exact mul_lt_mul_of_pos_right (by linarith) positive
  constructor
  case held => exact (isBinary64_iff_of_nonneg (div_nonneg units.cast_nonneg positive.le)).mpr ⟨units, rounds.holds, rfl⟩
  case least =>
    intro other held
    rcases lt_or_ge other 0 with negative | unsigned
    · exact (farther negative).le
    · obtain ⟨units', holds, rfl⟩ := (isBinary64_iff_of_nonneg unsigned).mp held
      rw [scaled, scaled]
      exact div_le_div_of_nonneg_right (rounds.least units' holds) positive.le
  case even =>
    intro other held different tie
    rcases lt_or_ge other 0 with negative | unsigned
    · exact absurd tie (farther negative).ne
    · obtain ⟨units', holds, rfl⟩ := (isBinary64_iff_of_nonneg unsigned).mp held
      rw [scaled, scaled, div_left_inj' positive.ne'] at tie
      obtain ⟨half, even⟩ := rounds.even units' holds (fun same => different (by rw [same])) tie
      refine ⟨half, ?_⟩
      rw [← sub_div, abs_div, abs_of_pos positive]
      nth_rewrite 1 [even]
      push_cast
      rw [mul_div_assoc]

theorem nearestBinary64_ofDecimal (decimal : Decimal) :
    NearestBinary64 decimal.toRat (Binary.ofDecimal decimal).toRat := by
  have rounds := BinaryFormat.rounds_nearest (decimal.digits * unitsInOne) BinaryFormat.proper_binary64
    (show 0 < Nat.pow 10 decimal.places from Nat.pow_pos (by decide))
  have scaled : ((decimal.digits * unitsInOne : ℕ) : ℚ) / (Nat.pow 10 decimal.places : ℕ) =
      decimal.magnitude * unitsInOne := by
    have places : Nat.pow 10 decimal.places = 10 ^ decimal.places := rfl
    rw [places, Decimal.magnitude]
    push_cast
    rw [div_mul_eq_mul_div]
  rw [scaled] at rounds
  have closest := rounds.nearestBinary64 decimal.magnitude_nonneg
  rw [Decimal.toRat, Binary.toRat, Binary.ofDecimal]
  cases decimal.negative with
  | true => exact closest.neg
  | false => exact closest

end LineTemplates
