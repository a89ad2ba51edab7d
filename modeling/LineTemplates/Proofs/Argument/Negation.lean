import LineTemplates.Proofs.Argument.Coherence
import LineTemplates.Proofs.Number.Grammar

/-! Negated arguments. A minus in front of an argument that has none turns the number around for every reader, zero and
what is past the type's range included; a second minus leaves no number. -/

namespace LineTemplates

def Decimal.opposite (decimal : Decimal) : Decimal := ⟨!decimal.negative, decimal.digits, decimal.places⟩

def Binary.opposite (number : Binary) : Binary := ⟨!number.negative, number.units⟩

namespace Binary

theorem ofDecimal_opposite (decimal : Decimal) : ofDecimal decimal.opposite = (ofDecimal decimal).opposite := rfl

theorem toRat_opposite (number : Binary) : number.opposite.toRat = -number.toRat := by
  rw [toRat, toRat, opposite]
  cases number.negative with
  | true => simp only [Bool.not_true, Bool.false_eq_true, if_false, if_true, neg_neg]
  | false => simp only [Bool.not_false, Bool.false_eq_true, if_false, if_true]

theorem wholePart_opposite (number : Binary) : wholePart number.opposite.toRat = -wholePart number.toRat := by
  rw [toRat_opposite, wholePart_neg]

theorem isInfinite_opposite (number : Binary) : binary64.isInfinite number.opposite = binary64.isInfinite number := rfl

end Binary

namespace Decimal

open Argument

variable {text : Text}

theorem readUnsigned?_true (text : Text) : readUnsigned? true text = (readUnsigned? false text).map opposite := by
  have digits (whole fraction : Text) : ofDigits? true whole fraction = (ofDigits? false whole fraction).map opposite := by
    rw [ofDigits?, ofDigits?, Option.map_map]
    rfl
  unfold readUnsigned?
  split
  · exact digits _ _
  · exact digits _ _

theorem read?_of_unsigned (unsigned : text.head? ≠ some '-') : read? text = readUnsigned? false text := by
  unfold read?
  split
  · exact absurd rfl unsigned
  · rfl

theorem read?_negated (unsigned : text.head? ≠ some '-') : read? (negated text) = (read? text).map opposite := by
  rw [read?_of_unsigned unsigned, ← readUnsigned?_true]
  rfl

/-- Only one sign is read. -/
theorem read?_negated_of_signed (signed : text.head? = some '-') : read? (negated text) = none := by
  change readUnsigned? true text = none
  by_contra accepted
  obtain ⟨decimal, read⟩ := Option.ne_none_iff_exists'.mp accepted
  have writes : WritesUnsigned text decimal.magnitude := (writesUnsigned_iff true).mpr ⟨decimal, read, rfl⟩
  exact writes.head?_ne_minus signed

end Decimal

namespace IntegerType

theorem has_neg_iff {type : IntegerType} {whole : ℤ} (unsigned : type.signed = false) (nonneg : 0 ≤ whole) :
    type.Has (-whole) ↔ whole = 0 := by
  have least : type.least = 0 := if_neg (by simp [unsigned])
  have greatest : 0 ≤ type.greatest := by cases type <;> decide
  rw [Has, least]
  omega

end IntegerType

namespace Argument

variable {text : Text} {number : Binary} {type : IntegerType}

theorem refused_negated_iff (reader : NumericReader) (unsigned : text.head? ≠ some '-') :
    Refused (reader.read (negated text)) ↔ Refused (reader.read text) := by
  rw [reader.refused_iff, reader.refused_iff, Decimal.read?_negated unsigned, Option.map_eq_none_iff]

theorem read_negated_of_signed (reader : NumericReader) (signed : text.head? = some '-') :
    reader.read (negated text) = .error (.invalid (negated text) reader.target) := by
  rw [reader.read_eq, Decimal.read?_negated_of_signed signed]

theorem toBinary64_negated (unsigned : text.head? ≠ some '-') (taken : toBinary64 text = .ok number) :
    toBinary64 (negated text) = .ok number.opposite := by
  obtain ⟨decimal, read, rfl⟩ := toBinary64_eq_ok_iff.mp taken
  apply toBinary64_eq_ok_iff.mpr
  refine ⟨decimal.opposite, ?_, Binary.ofDecimal_opposite decimal⟩
  rw [Decimal.read?_negated unsigned, read]
  rfl

theorem toBinary32_of_toBinary64 (taken : toBinary64 text = .ok number) :
    toBinary32 text = .ok (binary32.round number) := by
  obtain ⟨decimal, read, rfl⟩ := toBinary64_eq_ok_iff.mp taken
  exact NumericReader.binary32.read_of_read? read

theorem wholePart_nonneg (unsigned : text.head? ≠ some '-') (taken : toBinary64 text = .ok number) :
    0 ≤ wholePart number.toRat := by
  obtain ⟨decimal, read, rfl⟩ := toBinary64_eq_ok_iff.mp taken
  have plain : decimal.negative ≠ true := fun negative => unsigned ((Decimal.negative_of_read? read).mp negative)
  have nonneg : 0 ≤ (Binary.ofDecimal decimal).toRat := by
    rw [Binary.toRat, Binary.ofDecimal, if_neg plain]
    exact div_nonneg (Nat.cast_nonneg _) unitsInOne_pos.le
  rw [wholePart_of_nonneg nonneg]
  exact Int.floor_nonneg.mpr nonneg

/-- What the integer readers make of a negated argument, by the whole part of the argument itself. -/
theorem toInteger_negated_eq_ok_iff {whole : ℤ} (unsigned : text.head? ≠ some '-')
    (taken : toBinary64 text = .ok number) :
    toInteger type (negated text) = .ok whole ↔
      binary64.isInfinite number = false ∧ type.Has (-wholePart number.toRat) ∧ whole = -wholePart number.toRat := by
  rw [toInteger_eq_ok_iff (toBinary64_negated unsigned taken), Binary.isInfinite_opposite, Binary.wholePart_opposite]

theorem toInteger_negated_outOfRange (unsigned : text.head? ≠ some '-') (taken : toBinary64 text = .ok number)
    (beyond : ¬ (binary64.isInfinite number = false ∧ type.Has (-wholePart number.toRat))) :
    toInteger type (negated text) = .error (.outOfRange (negated text) type.name) := by
  apply toInteger_outOfRange (toBinary64_negated unsigned taken)
  rwa [Binary.isInfinite_opposite, Binary.wholePart_opposite]

theorem toInteger_negated_of_unsigned {whole : ℤ} (unsigned : text.head? ≠ some '-')
    (taken : toBinary64 text = .ok number) (natural : type.signed = false) :
    toInteger type (negated text) = .ok whole ↔ whole = 0 ∧ wholePart number.toRat = 0 := by
  have has := IntegerType.has_neg_iff natural (wholePart_nonneg unsigned taken)
  rw [toInteger_negated_eq_ok_iff unsigned taken, has]
  constructor
  · rintro ⟨_, zero, rfl⟩
    exact ⟨by rw [zero, neg_zero], zero⟩
  · rintro ⟨rfl, zero⟩
    have held : type.Has (wholePart number.toRat) := by rwa [zero, ← neg_zero, ← zero, has]
    exact ⟨IntegerType.isInfinite_eq_false_of_has held, zero, by rw [zero, neg_zero]⟩

theorem exists_negated_eq_least (signed : type.signed = true) :
    ∃ text, text.head? ≠ some '-' ∧ toInteger type text = .error (.outOfRange text type.name) ∧
      toInteger type (negated text) = .ok type.least := by
  refine ⟨(toString (-type.least)).toList, ?_⟩
  cases type with
  | int8 => decide +kernel
  | int16 => decide +kernel
  | int32 => decide +kernel
  | int64 => decide +kernel
  | _ => cases signed

/-- A minus in front of an argument without a sign negates it for every reader. An argument that is no number is none with
the minus either; otherwise the sign of the binary64 number is flipped, and the integer readers take the negated whole part
if the type has it, which for an unsigned type is only zero. In front of an argument with a sign it leaves no number. -/
theorem negated_reads_as_opposite :
    (∀ text, text.head? ≠ some '-' →
      (∀ reader : NumericReader, Refused (reader.read (negated text)) ↔ Refused (reader.read text)) ∧
      (¬ Refused (toBinary64 text) → ∃ number, toBinary64 text = .ok number ∧
        toBinary64 (negated text) = .ok number.opposite ∧ toBinary32 text = .ok (binary32.round number) ∧
        toBinary32 (negated text) = .ok (binary32.round number).opposite ∧
        ∀ type : IntegerType,
          (binary64.isInfinite number = false ∧ type.Has (-wholePart number.toRat) →
            toInteger type (negated text) = .ok (-wholePart number.toRat)) ∧
          (¬ (binary64.isInfinite number = false ∧ type.Has (-wholePart number.toRat)) →
            toInteger type (negated text) = .error (.outOfRange (negated text) type.name)) ∧
          (type.signed = false → ∀ whole,
            toInteger type (negated text) = .ok whole ↔ whole = 0 ∧ wholePart number.toRat = 0))) ∧
    (∀ type : IntegerType, type.signed = true → ∃ text, text.head? ≠ some '-' ∧
      toInteger type text = .error (.outOfRange text type.name) ∧ toInteger type (negated text) = .ok type.least) ∧
    ∀ text, text.head? = some '-' → ∀ reader : NumericReader,
      reader.read (negated text) = .error (.invalid (negated text) reader.target) := by
  refine ⟨?_, fun _ => exists_negated_eq_least, fun _ signed reader => read_negated_of_signed reader signed⟩
  intro text unsigned
  refine ⟨fun reader => refused_negated_iff reader unsigned, fun accepted => ?_⟩
  obtain ⟨number, taken⟩ := exists_toBinary64 accepted
  have turned := toBinary64_negated unsigned taken
  refine ⟨number, taken, turned, toBinary32_of_toBinary64 taken, toBinary32_of_toBinary64 turned,
    fun type => ⟨?_, ?_, ?_⟩⟩
  · rintro ⟨finite, has⟩
    exact (toInteger_negated_eq_ok_iff unsigned taken).mpr ⟨finite, has, rfl⟩
  · exact toInteger_negated_outOfRange unsigned taken
  · exact fun natural _ => toInteger_negated_of_unsigned unsigned taken natural

theorem negated_reads_as_opposite_at_fractions :
    let text : Text := ['1', '2', '8', '.', '5', 'f']
    let zero : Text := ['.', '0']
    let signed : Text := ['-', '7']
    text.head? ≠ some '-' ∧ ¬ Refused (toBinary64 text) ∧ toInteger .int8 (negated text) = .ok (-128) ∧
      toInteger .uint8 (negated text) = .error (.outOfRange (negated text) "u8") ∧
      zero.head? ≠ some '-' ∧ ¬ Refused (toBinary64 zero) ∧ toBinary64 (negated zero) = .ok ⟨true, 0⟩ ∧
      toInteger .uint64 (negated zero) = .ok 0 ∧ IntegerType.int64.signed = true ∧
      (∃ least, toInteger .int64 least = .error (.outOfRange least "i64") ∧
        toInteger .int64 (negated least) = .ok (-9223372036854775808)) ∧
      signed.head? = some '-' ∧ toBinary32 (negated signed) = .error (.invalid (negated signed) "f32") := by
  intro text zero signed
  obtain ⟨unsigned, leasts, twice⟩ := negated_reads_as_opposite
  have accepted (text : Text) (read : Decimal.read? text ≠ none) : ¬ Refused (toBinary64 text) := fun refused =>
    read ((NumericReader.binary64.refused_iff text).mp refused)
  have plain : text.head? ≠ some '-' := by decide
  have large : ¬ Refused (toBinary64 text) := accepted text (by decide +kernel)
  have plain_zero : zero.head? ≠ some '-' := by decide
  have small : ¬ Refused (toBinary64 zero) := accepted zero (by decide +kernel)
  obtain ⟨number, taken, _, _, _, integers⟩ := (unsigned text plain).2 large
  obtain ⟨nothing, taken_zero, turned_zero, _, _, integers_zero⟩ := (unsigned zero plain_zero).2 small
  have number_eq : number = Binary.ofDecimal ⟨false, 1285, 1⟩ := by
    obtain ⟨decimal, read, rfl⟩ := toBinary64_eq_ok_iff.mp taken
    have same : Decimal.read? text = some ⟨false, 1285, 1⟩ := by decide +kernel
    rw [Option.some.inj (read.symm.trans same)]
  have nothing_eq : nothing = ⟨false, 0⟩ := by
    have same : toBinary64 zero = .ok ⟨false, 0⟩ := by decide +kernel
    exact Except.ok.inj (taken_zero.symm.trans same)
  have whole : wholePart number.toRat = 128 := by
    rw [← Binary.truncate_eq, number_eq]
    decide +kernel
  have finite : binary64.isInfinite number = false := by
    rw [number_eq]
    decide +kernel
  have none : wholePart nothing.toRat = 0 := by
    rw [← Binary.truncate_eq, nothing_eq]
    decide +kernel
  have least : toInteger .int8 (negated text) = .ok (-128) := by
    have inside := (integers .int8).1
    rw [whole] at inside
    exact inside ⟨finite, by decide, by decide⟩
  have beyond : toInteger .uint8 (negated text) = .error (.outOfRange (negated text) "u8") := by
    have outside := (integers .uint8).2.1
    rw [whole] at outside
    exact outside fun held => absurd held.2.1 (by decide)
  rw [nothing_eq] at turned_zero
  obtain ⟨digits, _, alone, behind⟩ := leasts .int64 rfl
  exact ⟨plain, large, least, beyond, plain_zero, small, turned_zero, ((integers_zero .uint64).2.2 rfl 0).mpr ⟨rfl, none⟩,
    rfl, ⟨digits, alone, behind⟩, rfl, twice signed rfl .binary32⟩

end Argument

end LineTemplates
