import LineTemplates.Number.Binary
import Mathlib.Algebra.Order.AbsoluteValue.Basic
import Mathlib.Algebra.Order.Field.Basic
import Mathlib.Data.Nat.Cast.Order.Field
import Mathlib.Data.Rat.Cast.Order
import Mathlib.Tactic.Linarith

/-! Rounding to a binary format. Among the numbers of the format the one that rounding yields is nearest to the quotient,
and of two that are equally near it is the one with the even significand. -/

namespace LineTemplates

section Whole

variable {numerator denominator : ℕ}

theorem div_eq_quotient_add (positive : 0 < denominator) :
    (numerator / denominator : ℚ) =
      (numerator / denominator : ℕ) + (numerator % denominator : ℕ) / denominator := by
  have nonzero : (denominator : ℚ) ≠ 0 := by exact_mod_cast positive.ne'
  have divides : (denominator : ℚ) * (numerator / denominator : ℕ) + (numerator % denominator : ℕ) = numerator := by
    exact_mod_cast Nat.div_add_mod numerator denominator
  rw [div_eq_iff nonzero, add_mul, div_mul_cancel₀ _ nonzero, ← divides, mul_comm]

theorem le_roundHalfEven (numerator denominator : ℕ) :
    numerator / denominator ≤ roundHalfEven numerator denominator := by
  rw [roundHalfEven]
  split <;> omega

theorem roundHalfEven_le (numerator denominator : ℕ) :
    roundHalfEven numerator denominator ≤ numerator / denominator + 1 := by
  rw [roundHalfEven]
  split <;> omega

theorem roundHalfEven_error (numerator : ℕ) (positive : 0 < denominator) :
    |(numerator / denominator : ℚ) - roundHalfEven numerator denominator| ≤ 1 / 2 ∧
      (|(numerator / denominator : ℚ) - roundHalfEven numerator denominator| = 1 / 2 →
        Even (roundHalfEven numerator denominator)) := by
  have positive' : (0 : ℚ) < denominator := by exact_mod_cast positive
  have part_nonneg : 0 ≤ ((numerator % denominator : ℕ) : ℚ) / denominator :=
    div_nonneg (Nat.cast_nonneg _) positive'.le
  have part_lt : ((numerator % denominator : ℕ) : ℚ) / denominator < 1 := by
    rw [div_lt_one positive']
    exact_mod_cast Nat.mod_lt numerator positive
  have half_le : 1 / 2 ≤ ((numerator % denominator : ℕ) : ℚ) / denominator ↔
      denominator ≤ 2 * (numerator % denominator) := by
    rw [div_le_div_iff₀ two_pos positive', one_mul, mul_comm]
    exact_mod_cast Iff.rfl
  have le_half : ((numerator % denominator : ℕ) : ℚ) / denominator ≤ 1 / 2 ↔
      2 * (numerator % denominator) ≤ denominator := by
    rw [div_le_div_iff₀ positive' two_pos, one_mul, mul_comm]
    exact_mod_cast Iff.rfl
  rw [div_eq_quotient_add positive, roundHalfEven]
  split
  · rename_i down
    rw [add_sub_cancel_left, abs_of_nonneg part_nonneg]
    refine ⟨le_half.mpr (by omega), fun tie => ?_⟩
    have reached := half_le.mp tie.ge
    rw [Nat.even_iff]
    omega
  · rename_i up
    rw [Nat.cast_add, Nat.cast_one, add_sub_add_left_eq_sub, abs_of_neg (by linarith)]
    have reached := half_le.mpr (by omega)
    refine ⟨by linarith, fun tie => ?_⟩
    have short := le_half.mp (by linarith)
    rw [Nat.even_iff]
    omega

/-- No whole number is nearer than the one that rounding yields; if another is as near, the two are neighbours and that
one is even. -/
theorem roundHalfEven_nearest (numerator : ℕ) (positive : 0 < denominator) (other : ℕ) :
    |(numerator / denominator : ℚ) - roundHalfEven numerator denominator| ≤ |(numerator / denominator : ℚ) - other| ∧
      (other ≠ roundHalfEven numerator denominator →
        |(numerator / denominator : ℚ) - roundHalfEven numerator denominator| =
          |(numerator / denominator : ℚ) - other| →
        Even (roundHalfEven numerator denominator) ∧ |(roundHalfEven numerator denominator : ℚ) - other| = 1) := by
  obtain ⟨error, tied⟩ := roundHalfEven_error numerator positive
  by_cases same : other = roundHalfEven numerator denominator
  · rw [same]
    exact ⟨le_rfl, fun different => absurd rfl different⟩
  · have apart : (1 : ℚ) ≤ |(roundHalfEven numerator denominator : ℚ) - other| := by
      have whole : (1 : ℤ) ≤ |(roundHalfEven numerator denominator : ℤ) - other| :=
        Int.one_le_abs (by omega)
      exact_mod_cast whole
    have through := abs_sub_le (roundHalfEven numerator denominator : ℚ) (numerator / denominator) other
    rw [abs_sub_comm _ (numerator / denominator : ℚ)] at through
    refine ⟨by linarith, fun _ tie => ⟨tied (by linarith), by linarith⟩⟩

/-- The same on a grid: of the multiples of a step the rounded one is nearest, and a half goes to the even one. -/
theorem roundHalfEven_grid (numerator : ℕ) {step : ℕ} (positive : 0 < denominator) (filled : 0 < step) (other : ℕ) :
    |(numerator / denominator : ℚ) - (roundHalfEven numerator (denominator * step) * step : ℕ)| ≤
        |(numerator / denominator : ℚ) - (other * step : ℕ)| ∧
      (other * step ≠ roundHalfEven numerator (denominator * step) * step →
        |(numerator / denominator : ℚ) - (roundHalfEven numerator (denominator * step) * step : ℕ)| =
          |(numerator / denominator : ℚ) - (other * step : ℕ)| →
        Even (roundHalfEven numerator (denominator * step)) ∧
          |((roundHalfEven numerator (denominator * step) * step : ℕ) : ℚ) - (other * step : ℕ)| = step) := by
  obtain ⟨least, tied⟩ := roundHalfEven_nearest numerator (Nat.mul_pos positive filled) other
  have filled' : (0 : ℚ) < step := by exact_mod_cast filled
  have scaled (multiple : ℚ) : |(numerator / denominator : ℚ) - multiple * step| =
      |(numerator / (denominator * step : ℕ) : ℚ) - multiple| * step := by
    have whole : (numerator / denominator : ℚ) = numerator / (denominator * step : ℕ) * step := by
      rw [Nat.cast_mul, div_mul_eq_div_div, div_mul_cancel₀ _ filled'.ne']
    rw [whole, ← sub_mul, abs_mul, abs_of_pos filled']
  rw [Nat.cast_mul, Nat.cast_mul, scaled, scaled]
  refine ⟨mul_le_mul_of_nonneg_right least filled'.le, fun different tie => ?_⟩
  obtain ⟨even, apart⟩ := tied (fun same => different (by rw [same])) (mul_right_cancel₀ filled'.ne' tie)
  refine ⟨even, ?_⟩
  rw [← sub_mul, abs_mul, apart, one_mul, abs_of_pos filled']

end Whole

namespace BinaryFormat

variable {format : BinaryFormat} {numerator denominator units other : ℕ}

/-- The numbers of a format in units: a significand, scaled by a power of two. The first number past the greatest one is
among them and stands for infinity. -/
def Holds (format : BinaryFormat) (units : ℕ) : Prop :=
  ∃ significand exponent, significand ≤ 2 ^ format.precision ∧ format.grain ≤ exponent ∧
    exponent + format.precision ≤ format.limit ∧ units = significand * 2 ^ exponent

structure Proper (format : BinaryFormat) : Prop where
  precision_pos : 0 < format.precision
  grain_le : format.grain + format.precision ≤ format.limit

theorem proper_binary64 : Proper binary64 := ⟨by decide, by decide⟩

/-- The number of the format nearest to a value; of two that are equally near, the one that is an even multiple of their
distance. -/
structure Rounds (format : BinaryFormat) (value : ℚ) (units : ℕ) : Prop where
  holds : format.Holds units
  least : ∀ other, format.Holds other → |value - units| ≤ |value - other|
  even : ∀ other, format.Holds other → other ≠ units → |value - units| = |value - other| →
    ∃ half : ℕ, (units : ℚ) = 2 * half * |(units : ℚ) - other|

def spacing (format : BinaryFormat) (units : ℕ) : ℕ := 2 ^ format.scale units

theorem lt_of_scale (format : BinaryFormat) (units : ℕ) : units < 2 ^ (format.scale units + format.precision) := by
  have digits : units < 2 ^ (units.log2 + 1) := Nat.lt_log2_self
  have enough : units.log2 + 1 ≤ format.scale units + format.precision := by
    have scaled : units.log2 + 1 - format.precision ≤ format.scale units := Nat.le_max_right _ _
    omega
  exact digits.trans_le (Nat.pow_le_pow_right two_pos enough)

theorem spacing_pos (format : BinaryFormat) (units : ℕ) : 0 < format.spacing units := Nat.two_pow_pos _

theorem corner_eq (proper : format.Proper) (units : ℕ) :
    2 ^ (format.precision - 1) * format.spacing units = 2 ^ (format.scale units + format.precision - 1) := by
  have digits := proper.precision_pos
  rw [spacing, ← Nat.pow_add]
  congr 1
  omega

theorem le_of_scale (proper : format.Proper) (coarse : format.grain < format.scale units) :
    2 ^ (format.precision - 1) * format.spacing units ≤ units := by
  have digits := proper.precision_pos
  have scaled : format.scale units = units.log2 + 1 - format.precision := by
    rw [scale] at coarse ⊢
    omega
  have some : units ≠ 0 := by
    rintro rfl
    rw [Nat.log2_zero] at scaled
    omega
  have same : format.scale units + format.precision - 1 = units.log2 := by omega
  rw [corner_eq proper, same]
  exact Nat.log2_self_le some

theorem on_grid_or_below (units : ℕ) (proper : format.Proper) (holds : format.Holds other) :
    (∃ multiple, other = multiple * format.spacing units) ∨
      ∃ multiple, other < multiple * format.spacing units ∧ multiple * format.spacing units ≤ units := by
  obtain ⟨significand, exponent, short, fine, _, rfl⟩ := holds
  by_cases coarse : format.scale units ≤ exponent
  · left
    refine ⟨significand * 2 ^ (exponent - format.scale units), ?_⟩
    rw [spacing, Nat.mul_assoc, ← Nat.pow_add, Nat.sub_add_cancel coarse]
  · have below : significand * 2 ^ exponent ≤ 2 ^ (format.precision - 1) * format.spacing units := by
      calc significand * 2 ^ exponent
        _ ≤ 2 ^ format.precision * 2 ^ (format.scale units - 1) :=
          Nat.mul_le_mul short (Nat.pow_le_pow_right two_pos (by omega))
        _ = 2 ^ (format.precision - 1) * format.spacing units := by
          rw [corner_eq proper, ← Nat.pow_add]
          congr 1
          omega
    rcases below.eq_or_lt with same | lower
    · exact .inl ⟨_, same⟩
    · exact .inr ⟨_, lower, le_of_scale proper (by omega)⟩

theorem nearest_eq (format : BinaryFormat) (numerator denominator : ℕ) :
    format.nearest numerator denominator =
      min (roundHalfEven numerator (denominator * format.spacing (numerator / denominator)) *
        format.spacing (numerator / denominator)) (2 ^ format.limit) := rfl

theorem Holds.le_limit (holds : format.Holds other) : other ≤ 2 ^ format.limit := by
  obtain ⟨significand, exponent, short, _, within, rfl⟩ := holds
  calc significand * 2 ^ exponent
    _ ≤ 2 ^ format.precision * 2 ^ exponent := Nat.mul_le_mul_right _ short
    _ = 2 ^ (exponent + format.precision) := by rw [← Nat.pow_add, Nat.add_comm]
    _ ≤ 2 ^ format.limit := Nat.pow_le_pow_right two_pos within

theorem holds_limit (proper : format.Proper) : format.Holds (2 ^ format.limit) := by
  have fits := proper.grain_le
  refine ⟨2 ^ format.precision, format.limit - format.precision, le_rfl, by omega, by omega, ?_⟩
  rw [← Nat.pow_add]
  congr 1
  omega

/-- Up to infinity a quotient is rounded on its grid. -/
theorem nearest_of_fits (fits : format.scale (numerator / denominator) + format.precision ≤ format.limit) :
    format.nearest numerator denominator =
      roundHalfEven numerator (denominator * format.spacing (numerator / denominator)) *
        format.spacing (numerator / denominator) ∧
    format.Holds (format.nearest numerator denominator) := by
  have short : roundHalfEven numerator (denominator * format.spacing (numerator / denominator)) ≤
      2 ^ format.precision := by
    refine (roundHalfEven_le _ _).trans ?_
    have below := format.lt_of_scale (numerator / denominator)
    rw [Nat.add_comm, Nat.pow_add] at below
    rw [← Nat.div_div_eq_div_mul, Nat.succ_le_iff]
    exact Nat.div_lt_of_lt_mul (by rwa [Nat.mul_comm])
  have holds : format.Holds (roundHalfEven numerator (denominator * format.spacing (numerator / denominator)) *
      format.spacing (numerator / denominator)) := ⟨_, _, short, Nat.le_max_left _ _, fits, rfl⟩
  have same := (format.nearest_eq numerator denominator).trans (Nat.min_eq_left holds.le_limit)
  rw [same]
  exact ⟨rfl, holds⟩

theorem nearest_of_exceeds (proper : format.Proper)
    (exceeds : format.limit < format.scale (numerator / denominator) + format.precision) :
    format.nearest numerator denominator = 2 ^ format.limit ∧ 2 ^ format.limit ≤ numerator / denominator := by
  have fits := proper.grain_le
  have corner := corner_eq proper (numerator / denominator)
  have past : 2 ^ (format.precision - 1) * format.spacing (numerator / denominator) ≤ numerator / denominator :=
    le_of_scale proper (by omega)
  have limit_le : 2 ^ format.limit ≤ 2 ^ (format.precision - 1) * format.spacing (numerator / denominator) := by
    rw [corner]
    exact Nat.pow_le_pow_right two_pos (by omega)
  refine ⟨?_, limit_le.trans past⟩
  rw [nearest_eq]
  apply Nat.min_eq_right
  apply limit_le.trans
  apply Nat.mul_le_mul_right
  refine le_trans ?_ (le_roundHalfEven _ _)
  rw [← Nat.div_div_eq_div_mul, Nat.le_div_iff_mul_le (format.spacing_pos _)]
  exact past

theorem rounds_of_fits (numerator : ℕ) (proper : format.Proper) (positive : 0 < denominator)
    (fits : format.scale (numerator / denominator) + format.precision ≤ format.limit) :
    format.Rounds (numerator / denominator) (format.nearest numerator denominator) := by
  obtain ⟨same, holds⟩ := nearest_of_fits fits
  have grid := roundHalfEven_grid numerator positive (format.spacing_pos (numerator / denominator))
  rw [← same] at grid
  -- A number off the grid lies below a point of the grid that is not past the quotient, so that point is nearer.
  have farther {other multiple : ℕ} (lower : other < multiple * format.spacing (numerator / denominator))
      (reached : multiple * format.spacing (numerator / denominator) ≤ numerator / denominator) :
      |(numerator / denominator : ℚ) - format.nearest numerator denominator| <
        |(numerator / denominator : ℚ) - other| := by
    have lower' : (other : ℚ) < (multiple * format.spacing (numerator / denominator) : ℕ) := by
      exact_mod_cast lower
    have reached' : ((multiple * format.spacing (numerator / denominator) : ℕ) : ℚ) ≤ numerator / denominator :=
      le_trans (by exact_mod_cast reached) Nat.cast_div_le
    refine (grid multiple).1.trans_lt ?_
    rw [abs_of_nonneg (by linarith), abs_of_nonneg (by linarith)]
    linarith
  constructor
  case holds => exact holds
  case least =>
    intro other held
    rcases on_grid_or_below (numerator / denominator) proper held with ⟨multiple, rfl⟩ | ⟨_, lower, reached⟩
    · exact (grid multiple).1
    · exact (farther lower reached).le
  case even =>
    intro other held different tie
    rcases on_grid_or_below (numerator / denominator) proper held with ⟨multiple, rfl⟩ | ⟨_, lower, reached⟩
    · obtain ⟨⟨half, twice⟩, apart⟩ := (grid multiple).2 different tie
      refine ⟨half, ?_⟩
      rw [apart]
      nth_rewrite 1 [same, twice]
      push_cast
      rw [two_mul]
    · exact absurd tie (farther lower reached).ne

theorem rounds_of_exceeds (numerator : ℕ) (proper : format.Proper)
    (exceeds : format.limit < format.scale (numerator / denominator) + format.precision) :
    format.Rounds (numerator / denominator) (format.nearest numerator denominator) := by
  obtain ⟨same, reached⟩ := nearest_of_exceeds proper exceeds
  have past : ((2 ^ format.limit : ℕ) : ℚ) ≤ numerator / denominator :=
    le_trans (by exact_mod_cast reached) Nat.cast_div_le
  have below {other : ℕ} (held : format.Holds other) : (other : ℚ) ≤ (2 ^ format.limit : ℕ) := by
    exact_mod_cast held.le_limit
  rw [same]
  constructor
  case holds => exact holds_limit proper
  case least =>
    intro other held
    have lower := below held
    rw [abs_of_nonneg (by linarith), abs_of_nonneg (by linarith)]
    linarith
  case even =>
    intro other held different tie
    have lower := below held
    rw [abs_of_nonneg (by linarith), abs_of_nonneg (by linarith)] at tie
    exact absurd (by exact_mod_cast (sub_right_inj.mp tie).symm) different

/-- What rounding yields is nearest, and a half goes to the even side. -/
theorem rounds_nearest (numerator : ℕ) (proper : format.Proper) (positive : 0 < denominator) :
    format.Rounds (numerator / denominator) (format.nearest numerator denominator) := by
  rcases le_or_gt (format.scale (numerator / denominator) + format.precision) format.limit with fits | exceeds
  · exact rounds_of_fits numerator proper positive fits
  · exact rounds_of_exceeds numerator proper exceeds

end BinaryFormat

end LineTemplates
