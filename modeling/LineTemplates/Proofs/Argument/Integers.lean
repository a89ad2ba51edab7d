import LineTemplates.Proofs.Argument.Readers
import LineTemplates.Proofs.Number.Nearest

/-! Arguments read as whole numbers. The number that is written goes through binary64 before its fraction is cut off, so
that the answer is exact where binary64 has the number; beyond that it is exact for the nearest number that it has. -/

namespace LineTemplates

variable {number : ℚ} {text : Text} {value : ℚ} {type : IntegerType}

def wholePart (number : ℚ) : ℤ := if number < 0 then ⌈number⌉ else ⌊number⌋

theorem wholePart_of_nonneg (nonneg : 0 ≤ number) : wholePart number = ⌊number⌋ := if_neg (not_lt.mpr nonneg)

theorem wholePart_neg (number : ℚ) : wholePart (-number) = -wholePart number := by
  rcases lt_trichotomy number 0 with negative | rfl | positive
  · rw [wholePart_of_nonneg (by linarith), wholePart, if_pos negative, Int.floor_neg]
  · simp [wholePart]
  · rw [wholePart_of_nonneg positive.le, wholePart, if_pos (by linarith), Int.ceil_neg]

theorem wholePart_intCast (whole : ℤ) : wholePart whole = whole := by
  rw [wholePart, Int.ceil_intCast, Int.floor_intCast, ite_self]

theorem abs_wholePart_le (number : ℚ) : |(wholePart number : ℚ)| ≤ |number| := by
  have unsigned {number : ℚ} (nonneg : 0 ≤ number) : |(wholePart number : ℚ)| ≤ |number| := by
    have floor_nonneg : (0 : ℚ) ≤ ⌊number⌋ := by exact_mod_cast Int.floor_nonneg.mpr nonneg
    rw [wholePart_of_nonneg nonneg, abs_of_nonneg floor_nonneg, abs_of_nonneg nonneg]
    exact Int.floor_le number
  rcases le_total 0 number with nonneg | nonpos
  · exact unsigned nonneg
  · have turned := unsigned (neg_nonneg.mpr nonpos)
    rwa [wholePart_neg, Int.cast_neg, abs_neg, abs_neg] at turned

theorem Binary.truncate_eq (value : Binary) : value.truncate = wholePart value.toRat := by
  have unsigned : wholePart (value.units / unitsInOne : ℚ) = (value.units / unitsInOne : ℕ) := by
    rw [wholePart_of_nonneg (div_nonneg value.units.cast_nonneg unitsInOne_pos.le), Rat.floor_natCast_div_natCast]
    rfl
  rw [truncate, toRat]
  cases value.negative with
  | true => simp only [if_true, wholePart_neg, unsigned]
  | false => simp only [Bool.false_eq_true, if_false, unsigned]

theorem isBinary64_wholePart (held : IsBinary64 number) : IsBinary64 (wholePart number) := by
  obtain ⟨significand, exponent, short, low, high, rfl⟩ := held
  rcases le_or_gt 0 exponent with whole | fraction
  · obtain ⟨exponent, rfl⟩ := Int.eq_ofNat_of_zero_le whole
    have same : (significand * 2 ^ (exponent : ℤ) : ℚ) = (significand * 2 ^ exponent : ℤ) := by
      push_cast
      rw [zpow_natCast]
    rw [same, wholePart_intCast]
    exact ⟨significand, exponent, short, low, high, same.symm⟩
  · apply isBinary64_of_abs_le
    have small : |(significand * 2 ^ exponent : ℚ)| ≤ 2 ^ 53 := by
      have scaled : (2 : ℚ) ^ exponent ≤ 1 := zpow_le_one_of_nonpos₀ (by norm_num) fraction.le
      have short' : |(significand : ℚ)| ≤ 2 ^ 53 := by exact_mod_cast short
      rw [abs_mul, abs_of_pos (show (0 : ℚ) < 2 ^ exponent from zpow_pos two_pos _)]
      exact (mul_le_of_le_one_right (abs_nonneg _) scaled).trans short'
    exact_mod_cast (abs_wholePart_le _).trans small

namespace IntegerType

def Has (type : IntegerType) (whole : ℤ) : Prop := type.least ≤ whole ∧ whole ≤ type.greatest

/-- The bounds are compared in binary64 without harm: the lower one is a number of binary64, and what comes out for the
one after the upper bound is that number, although the upper bound itself may be rounded. -/
theorem excludes_iff (type : IntegerType) (whole : ℤ) :
    type.excludes (whole * unitsInOne) = true ↔ ¬ type.Has whole := by
  have least : (Binary.ofInt type.least).signedUnits = type.least * unitsInOne := by
    cases type <;> decide +kernel
  have past : (Binary.ofInt type.greatest).succ.signedUnits = (type.greatest + 1) * unitsInOne := by
    cases type <;> decide +kernel
  have positive : (0 : ℤ) < unitsInOne := by exact_mod_cast unitsInOne_pos
  rw [excludes, least, past, Bool.or_eq_true, decide_eq_true_eq, decide_eq_true_eq, mul_lt_mul_iff_left₀ positive,
    mul_le_mul_iff_left₀ positive, Has]
  omega

theorem clamp_of_has {whole : ℤ} (has : type.Has whole) : type.clamp whole = whole := by
  rw [clamp, min_eq_right has.2, max_eq_right has.1]

theorem ofBinary?_of_has {value : Binary} (has : type.Has value.truncate) :
    type.ofBinary? value = some value.truncate := by
  have kept : ¬ type.excludes (value.truncate * unitsInOne) = true := fun excluded => (excludes_iff ..).mp excluded has
  rw [ofBinary?, if_neg kept, clamp_of_has has]

theorem ofBinary?_of_not_has {value : Binary} (beyond : ¬ type.Has value.truncate) : type.ofBinary? value = none :=
  if_pos ((excludes_iff ..).mpr beyond)

end IntegerType

namespace Argument

/-- What to expect for a number: its whole part if the type has it, and that it is out of range if not. -/
def Converts (type : IntegerType) (text : Text) (number : ℚ) : Prop :=
  (type.Has (wholePart number) → toInteger type text = .ok (wholePart number)) ∧
    (¬ type.Has (wholePart number) → toInteger type text = .error (.outOfRange text type.name))

/-- The greatest number of 64 bits is rounded up, and what comes out is past it. -/
theorem greatest_int64_out_of_range :
    let greatest := IntegerType.int64.greatest
    Decimal.Writes (toString greatest).toList greatest ∧ IntegerType.int64.Has greatest ∧
      toInteger .int64 (toString greatest).toList = .error (.outOfRange (toString greatest).toList "i64") ∧
      ¬ Converts .int64 (toString greatest).toList greatest := by
  intro greatest
  have has : IntegerType.int64.Has greatest := ⟨by decide, le_rfl⟩
  have answer : toInteger .int64 (toString greatest).toList =
      .error (.outOfRange (toString greatest).toList "i64") := by decide +kernel
  refine ⟨Decimal.writes_toString greatest, has, answer, ?_⟩
  rintro ⟨inside, _⟩
  rw [wholePart_intCast, answer] at inside
  cases inside has

theorem converts_of_read (type : IntegerType) {decimal : Decimal} (read : Decimal.read? text = some decimal) :
    Converts type text (Binary.ofDecimal decimal).toRat := by
  have answer : toInteger type text =
      (type.ofBinary? (Binary.ofDecimal decimal)).elim (.error (.outOfRange text type.name)) .ok :=
    (NumericReader.integer type).read_of_read? read
  rw [Converts, answer, ← Binary.truncate_eq]
  constructor
  · intro has
    rw [IntegerType.ofBinary?_of_has has, Option.elim_some]
  · intro beyond
    rw [IntegerType.ofBinary?_of_not_has beyond, Option.elim_none]

theorem toInteger_ne_invalid_iff :
    toInteger type text ≠ .error (.invalid text type.name) ↔ ∃ value, Decimal.Writes text value := by
  simp only [Decimal.writes_iff]
  cases read : Decimal.read? text with
  | none => simp [toInteger, toBinary, read, bind, Except.bind]
  | some decimal =>
    obtain ⟨inside, beyond⟩ := converts_of_read type read
    by_cases has : type.Has (wholePart (Binary.ofDecimal decimal).toRat)
    · simp [inside has]
    · simp [beyond has]

theorem converts_nearest (type : IntegerType) {nearest : ℚ} (writes : Decimal.Writes text value)
    (closest : NearestBinary64 value nearest) : Converts type text nearest := by
  obtain ⟨decimal, read, rfl⟩ := Decimal.writes_iff.mp writes
  rw [(nearestBinary64_ofDecimal decimal).unique closest]
  exact converts_of_read type read

theorem exists_nearest (writes : Decimal.Writes text value) : ∃ nearest, NearestBinary64 value nearest := by
  obtain ⟨decimal, _, rfl⟩ := Decimal.writes_iff.mp writes
  exact ⟨_, nearestBinary64_ofDecimal decimal⟩

/-- The digits of a whole number are read back just if binary64 has the number. -/
theorem toInteger_toString_iff {whole : ℤ} (has : type.Has whole) :
    toInteger type (toString whole).toList = .ok whole ↔ IsBinary64 whole := by
  have writes := Decimal.writes_toString whole
  constructor
  · intro answer
    obtain ⟨nearest, closest⟩ := exists_nearest writes
    obtain ⟨inside, beyond⟩ := converts_nearest type writes closest
    by_cases within : type.Has (wholePart nearest)
    · rw [inside within, Except.ok.injEq] at answer
      rw [← answer]
      exact isBinary64_wholePart closest.held
    · rw [beyond within] at answer
      cases answer
  · intro held
    obtain ⟨nearest, closest⟩ := exists_nearest writes
    have converts := converts_nearest type writes closest
    rw [closest.eq_self held, Converts, wholePart_intCast] at converts
    exact converts.1 has

/-- A text is converted like the binary64 number nearest to the number that it writes: to its whole part if the type has
it, and not at all if not. Where binary64 has the number itself the answer is exact; that is so for the digits of a whole
number of the type just if binary64 has it, and so for all up to 2 ^ 53. -/
theorem integers_are_exact_on_binary64 (type : IntegerType) :
    (∀ text, toInteger type text ≠ .error (.invalid text type.name) ↔ ∃ value, Decimal.Writes text value) ∧
    (∀ text value, Decimal.Writes text value →
      (∃ nearest, NearestBinary64 value nearest) ∧
      (∀ nearest, NearestBinary64 value nearest → Converts type text nearest) ∧
      (IsBinary64 value → Converts type text value)) ∧
    ∀ whole, type.Has whole →
      (toInteger type (toString whole).toList = .ok whole ↔ IsBinary64 whole) ∧
      (|whole| ≤ 2 ^ 53 → toInteger type (toString whole).toList = .ok whole) := by
  refine ⟨fun text => toInteger_ne_invalid_iff, ?written, ?own⟩
  case written =>
    intro text value writes
    refine ⟨exists_nearest writes, fun nearest => converts_nearest type writes, fun held => ?_⟩
    obtain ⟨nearest, closest⟩ := exists_nearest writes
    rw [← closest.eq_self held]
    exact converts_nearest type writes closest
  case own =>
    intro whole has
    exact ⟨toInteger_toString_iff has, fun short => (toInteger_toString_iff has).mpr (isBinary64_of_abs_le short)⟩

theorem integers_are_exact_on_binary64_around_two_pow_53 :
    let past : ℤ := 2 ^ 53 + 1
    let near : ℤ := 2 ^ 53
    let least := IntegerType.int64.least
    Decimal.Writes (toString past).toList past ∧ NearestBinary64 past near ∧ ¬ IsBinary64 past ∧
      IntegerType.int64.Has (wholePart near) ∧ toInteger .int64 (toString past).toList = .ok near ∧
      Decimal.Writes ['-', '2', '.', '5', 'f'] (-5 / 2) ∧ IsBinary64 (-5 / 2) ∧
      toInteger .int8 ['-', '2', '.', '5', 'f'] = .ok (-2) ∧
      toInteger .uint8 ['-', '2', '.', '5', 'f'] = .error (.outOfRange ['-', '2', '.', '5', 'f'] "u8") ∧
      IntegerType.int64.Has least ∧ IsBinary64 least ∧ toInteger .int64 (toString least).toList = .ok least := by
  intro past near least
  have writes : Decimal.Writes (toString past).toList past := Decimal.writes_toString past
  have closest : NearestBinary64 past near := by
    have units : (Binary.ofDecimal ⟨false, 2 ^ 53 + 1, 0⟩).units = 2 ^ 53 * unitsInOne := by decide +kernel
    have rounded := nearestBinary64_ofDecimal ⟨false, 2 ^ 53 + 1, 0⟩
    rw [Decimal.toRat, Binary.toRat, units, Nat.cast_mul, mul_div_cancel_right₀ _ unitsInOne_pos.ne'] at rounded
    simpa [past, near, Decimal.magnitude, Binary.ofDecimal] using rounded
  have near_has : IntegerType.int64.Has (wholePart near) := by
    rw [wholePart_intCast]
    exact ⟨by decide, by decide⟩
  have fraction : Decimal.Writes ['-', '2', '.', '5', 'f'] (-5 / 2) := by
    have read : Decimal.read? ['-', '2', '.', '5', 'f'] = some ⟨true, 25, 1⟩ := by decide +kernel
    refine Decimal.writes_iff.mpr ⟨_, read, ?_⟩
    norm_num [Decimal.toRat, Decimal.magnitude]
  have half : IsBinary64 (-5 / 2) := ⟨-5, -1, by decide, by decide, by decide, by norm_num⟩
  have two : wholePart (-5 / 2) = -2 := by norm_num [wholePart]
  have least_has : IntegerType.int64.Has least := ⟨le_rfl, by decide⟩
  have power : IsBinary64 least := by
    have value : least = -2 ^ 63 := by decide
    exact ⟨-1, 63, by decide, by decide, by decide, by norm_num [value]⟩
  obtain ⟨_, inside64, own64⟩ := integers_are_exact_on_binary64 .int64
  obtain ⟨_, inside8, _⟩ := integers_are_exact_on_binary64 .int8
  obtain ⟨_, unsigned8, _⟩ := integers_are_exact_on_binary64 .uint8
  refine ⟨writes, closest, fun held => ?_, near_has, ?_, fraction, half, ?_, ?_, least_has, power, ?_⟩
  · have same := closest.eq_self held
    norm_num [past, near] at same
  · have answer := ((inside64 _ _ writes).2.1 _ closest).1 near_has
    rwa [wholePart_intCast] at answer
  · have answer := ((inside8 _ _ fraction).2.2 half).1
    rw [two] at answer
    exact answer ⟨by decide, by decide⟩
  · have answer := ((unsigned8 _ _ fraction).2.2 half).2
    rw [two] at answer
    exact answer fun has => absurd has.1 (by decide)
  · exact (own64 least least_has).1.mpr power

end Argument

end LineTemplates
