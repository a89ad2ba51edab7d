import LineTemplates.Proofs.Argument.Readers
import LineTemplates.Proofs.Number.Grammar

/-! Arguments as written numbers. The grammar of decimal notation decides which arguments are numbers, and the number that
is written decides what each reader answers. -/

namespace LineTemplates

namespace NumericReader

open Argument

variable {first second text : Text} {value : ℚ}

theorem not_refused_iff (reader : NumericReader) (text : Text) : ¬ Refused (reader.read text) ↔ Decimal.Notated text := by
  rw [refused_iff, Decimal.notated_iff_read?]

theorem exists_read_eq (writes : Decimal.Writes text value) :
    ∃ number : Binary, (number.negative = true ↔ text.head? = some '-') ∧ NearestBinary64 value number.toRat ∧
      ∀ reader : NumericReader, reader.read text = reader.answer text number := by
  obtain ⟨decimal, read, rfl⟩ := Decimal.writes_iff.mp writes
  exact ⟨Binary.ofDecimal decimal, Decimal.negative_of_read? read, nearestBinary64_ofDecimal decimal,
    fun reader => reader.read_of_read? read⟩

theorem agree_of_writes (reader : NumericReader) (writes : Decimal.Writes first value)
    (also : Decimal.Writes second value) (sign : first.head? = some '-' ↔ second.head? = some '-') :
    Agree (reader.read first) (reader.read second) := by
  obtain ⟨number, negative, closest, answers⟩ := exists_read_eq writes
  obtain ⟨other, negative', closest', answers'⟩ := exists_read_eq also
  have signs : other.negative = number.negative := by
    rw [Bool.eq_iff_iff, negative', negative, sign]
  obtain rfl := Binary.eq_of_toRat_eq signs (closest.unique closest')
  rw [answers, answers']
  exact reader.agree_answer first second other

/-- The same digits are the same to every reader, with whatever zeros and with or without a point and an `f`. -/
theorem agree_of_spells (reader : NumericReader) {whole fraction : Text} (some : whole ++ fraction ≠ [])
    (plain : ∀ char ∈ whole ++ fraction, char.isDigit = true) (spells : Decimal.Spells whole fraction first)
    (also : Decimal.Spells whole fraction second) :
    Agree (reader.read first) (reader.read second) ∧
      Agree (reader.read (negated first)) (reader.read (negated second)) := by
  have writes := spells.writesUnsigned some plain
  have writes' := also.writesUnsigned some plain
  constructor
  · apply reader.agree_of_writes (.plain writes) (.plain writes')
    exact iff_of_false writes.head?_ne_minus writes'.head?_ne_minus
  · exact reader.agree_of_writes (.negated writes) (.negated writes') (iff_of_true rfl rfl)

/-- The texts of decimal notation are numbers to every reader, and no others are. What a reader answers depends on nothing
but the sign and the number that is written: it is made of the binary64 number nearest to that one. -/
theorem numbers_are_taken_as_written :
    (∀ (reader : NumericReader) (text : Text), ¬ Refused (reader.read text) ↔ Decimal.Notated text) ∧
    (∀ text, Decimal.Notated text ↔ ∃ value, Decimal.Writes text value) ∧
    (∀ text value, Decimal.Writes text value →
      ∃ number : Binary, (number.negative = true ↔ text.head? = some '-') ∧ NearestBinary64 value number.toRat ∧
        ∀ reader : NumericReader, reader.read text = reader.answer text number) ∧
    (∀ (reader : NumericReader) first second value, Decimal.Writes first value → Decimal.Writes second value →
      (first.head? = some '-' ↔ second.head? = some '-') → Agree (reader.read first) (reader.read second)) ∧
    ∀ (reader : NumericReader) whole fraction first second, whole ++ fraction ≠ [] →
      (∀ char ∈ whole ++ fraction, char.isDigit = true) → Decimal.Spells whole fraction first →
      Decimal.Spells whole fraction second →
      Agree (reader.read first) (reader.read second) ∧
        Agree (reader.read (negated first)) (reader.read (negated second)) :=
  ⟨not_refused_iff, fun _ => Decimal.notated_iff, fun _ _ => exists_read_eq,
    fun reader _ _ _ => reader.agree_of_writes, fun reader _ _ _ _ => reader.agree_of_spells⟩

theorem numbers_are_taken_as_written_with_missing_part :
    let short : Text := ['.', '5']
    let long : Text := ['0', '0', '.', '5', '0', 'f']
    Decimal.Writes (negated short) (-1 / 2) ∧ Decimal.Writes (negated long) (-1 / 2) ∧
      ((negated short).head? = some '-' ↔ (negated long).head? = some '-') ∧
      (∃ number : Binary, number.negative = true ∧ NearestBinary64 (-1 / 2) number.toRat ∧
        toBinary64 (negated long) = .ok number) ∧
      Agree (binary32.read (negated short)) (binary32.read (negated long)) ∧
      Decimal.Spells [] ['5'] short ∧ Decimal.Spells [] ['5'] long ∧
      Agree ((integer .int8).read short) ((integer .int8).read long) := by
  intro short long
  have half : (-1 / 2 : ℚ) = -(Digits.written [] + Digits.written ['5'] / 10 ^ ['5'].length) := by
    have zero : Digits.written [] = 0 := rfl
    have five : Digits.written ['5'] = 5 := rfl
    rw [zero, five]
    norm_num
  have spells : Decimal.Spells [] ['5'] short := .pointed 0 0 (.inl rfl)
  have spells' : Decimal.Spells [] ['5'] long := .pointed 2 1 (.inr rfl)
  have some : [] ++ ['5'] ≠ [] := by decide
  have plain : ∀ char ∈ [] ++ ['5'], char.isDigit = true := List.forall_mem_singleton.mpr rfl
  have writes : Decimal.Writes (negated short) (-1 / 2) := by
    rw [half]
    exact .negated (spells.writesUnsigned some plain)
  have writes' : Decimal.Writes (negated long) (-1 / 2) := by
    rw [half]
    exact .negated (spells'.writesUnsigned some plain)
  have sign : (negated short).head? = Option.some '-' ↔ (negated long).head? = Option.some '-' := iff_of_true rfl rfl
  obtain ⟨_, _, taken, written, spelled⟩ := numbers_are_taken_as_written
  obtain ⟨number, negative, closest, answers⟩ := taken _ _ writes'
  refine ⟨writes, writes', sign, ⟨number, negative.mpr rfl, closest, answers binary64⟩, ?_, spells, spells', ?_⟩
  · exact written binary32 _ _ _ writes writes' sign
  · exact (spelled (integer .int8) _ _ _ _ some plain spells spells').1

end NumericReader

end LineTemplates
