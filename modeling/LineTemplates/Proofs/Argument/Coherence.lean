import LineTemplates.Proofs.Argument.Integers

/-! The readers of numbers taken together. They accept the same arguments, and the integer readers all take the whole
part of the same binary64 number; a reader whose type does not have it says so, and none puts a bound of its type in its
place. -/

namespace LineTemplates

namespace IntegerType

theorem isInfinite_eq_false_of_has {type : IntegerType} {number : Binary} (has : type.Has (wholePart number.toRat)) :
    binary64.isInfinite number = false := by
  by_contra infinite
  rw [Bool.not_eq_false, BinaryFormat.isInfinite, decide_eq_true_eq] at infinite
  have large : twoTo 1024 ≤ number.units / unitsInOne := by
    have powers (low high : ℕ) : twoTo low * twoTo high = twoTo (low + high) := (Nat.pow_add 2 low high).symm
    apply (Nat.le_div_iff_mul_le (by exact_mod_cast unitsInOne_pos)).mpr
    rw [unitsInOne, powers]
    exact infinite
  have grows {low high : ℕ} (less : low < high) : twoTo low < twoTo high := Nat.pow_lt_pow_right (by decide) less
  have wide : twoTo 64 < twoTo 1024 := grows (by decide)
  have least : -twoTo 64 ≤ type.least := by cases type <;> decide
  have greatest : type.greatest ≤ twoTo 64 := by cases type <;> decide
  obtain ⟨low, high⟩ := has
  rw [← Binary.truncate_eq, Binary.truncate] at low high
  cases sign : number.negative with
  | true =>
    simp only [sign, if_true] at low
    omega
  | false =>
    simp only [sign, Bool.false_eq_true, if_false] at high
    omega

theorem clamp_of_not_excludes {type : IntegerType} {whole : ℤ} (kept : type.excludes (whole * unitsInOne) = false) :
    type.clamp whole = whole := by
  apply clamp_of_has
  by_contra beyond
  rw [(type.excludes_iff whole).mpr beyond] at kept
  cases kept

end IntegerType

namespace Argument

variable {text : Text} {number : Binary} {type other : IntegerType} {whole : ℤ}

theorem toBinary64_eq_ok_iff :
    toBinary64 text = .ok number ↔ ∃ decimal, Decimal.read? text = some decimal ∧ Binary.ofDecimal decimal = number := by
  change NumericReader.binary64.read text = .ok number ↔ _
  rw [NumericReader.read_eq]
  cases Decimal.read? text with
  | none => simp
  | some decimal => simp [NumericReader.answer, NumericReader.convert?]

theorem not_outOfRange_binary (text : Text) : ¬ OutOfRange (toBinary64 text) ∧ ¬ OutOfRange (toBinary32 text) := by
  change ¬ OutOfRange (NumericReader.binary64.read text) ∧ ¬ OutOfRange (NumericReader.binary32.read text)
  rw [NumericReader.read_eq, NumericReader.read_eq]
  cases Decimal.read? text with
  | none => simp [OutOfRange]
  | some decimal => simp [OutOfRange, NumericReader.answer, NumericReader.convert?]

theorem exists_toBinary64 (accepted : ¬ Refused (toBinary64 text)) : ∃ number, toBinary64 text = .ok number := by
  have read := (not_congr (NumericReader.binary64.refused_iff text)).mp accepted
  obtain ⟨decimal, read⟩ := Option.ne_none_iff_exists'.mp read
  exact ⟨_, toBinary64_eq_ok_iff.mpr ⟨decimal, read, rfl⟩⟩

/-- A text is converted like the binary64 number that it is taken for. -/
theorem converts_of_toBinary64 (type : IntegerType) (taken : toBinary64 text = .ok number) :
    Converts type text number.toRat := by
  obtain ⟨decimal, read, rfl⟩ := toBinary64_eq_ok_iff.mp taken
  exact converts_of_read type read

theorem toInteger_eq_ok_iff (taken : toBinary64 text = .ok number) :
    toInteger type text = .ok whole ↔
      binary64.isInfinite number = false ∧ type.Has (wholePart number.toRat) ∧ whole = wholePart number.toRat := by
  obtain ⟨inside, beyond⟩ := converts_of_toBinary64 type taken
  constructor
  · intro answer
    by_cases has : type.Has (wholePart number.toRat)
    · rw [inside has, Except.ok.injEq] at answer
      exact ⟨IntegerType.isInfinite_eq_false_of_has has, has, answer.symm⟩
    · rw [beyond has] at answer
      cases answer
  · rintro ⟨_, has, rfl⟩
    exact inside has

theorem toInteger_outOfRange (taken : toBinary64 text = .ok number)
    (beyond : ¬ (binary64.isInfinite number = false ∧ type.Has (wholePart number.toRat))) :
    toInteger type text = .error (.outOfRange text type.name) := by
  apply (converts_of_toBinary64 type taken).2
  intro has
  exact beyond ⟨IntegerType.isInfinite_eq_false_of_has has, has⟩

theorem exists_of_toInteger (answer : toInteger type text = .ok whole) :
    ∃ number, toBinary64 text = .ok number ∧ type.Has (wholePart number.toRat) ∧ whole = wholePart number.toRat := by
  have accepted : ¬ Refused (toBinary64 text) := by
    intro refused
    have none := (NumericReader.binary64.refused_iff text).mp refused
    obtain ⟨_, _, invalid⟩ := ((NumericReader.integer type).refused_iff text).mpr none
    cases answer.symm.trans invalid
  obtain ⟨number, taken⟩ := exists_toBinary64 accepted
  exact ⟨number, taken, ((toInteger_eq_ok_iff taken).mp answer).2⟩

theorem toInteger_unique {whole' : ℤ} (answer : toInteger type text = .ok whole)
    (also : toInteger other text = .ok whole') : whole = whole' := by
  obtain ⟨number, taken, _, rfl⟩ := exists_of_toInteger answer
  exact ((toInteger_eq_ok_iff taken).mp also).2.2.symm

theorem toInteger_wider (low : other.least ≤ type.least) (high : type.greatest ≤ other.greatest)
    (answer : toInteger type text = .ok whole) : toInteger other text = .ok whole := by
  obtain ⟨number, taken, has, rfl⟩ := exists_of_toInteger answer
  apply (converts_of_toBinary64 other taken).1
  exact ⟨low.trans has.1, has.2.trans high⟩

/-- The readers of numbers accept the same arguments, and the binary ones hold every number. The integer ones take the
whole part of the binary64 number that an argument is taken for, if that is finite and the type has the whole part; the
cast never puts a bound of the type in its place. So they agree where they answer, and a wider type answers where a
narrower one does. -/
theorem readers_cohere :
    (∀ text, (∀ reader : NumericReader, Refused (reader.read text)) ∨
      ∀ reader : NumericReader, ¬ Refused (reader.read text)) ∧
    (∀ text, ¬ OutOfRange (toBinary64 text) ∧ ¬ OutOfRange (toBinary32 text)) ∧
    (∀ text, ¬ Refused (toBinary64 text) → ∃ number, toBinary64 text = .ok number ∧
      ∀ type : IntegerType,
        (∀ whole, toInteger type text = .ok whole ↔
          binary64.isInfinite number = false ∧ type.Has (wholePart number.toRat) ∧ whole = wholePart number.toRat) ∧
        (¬ (binary64.isInfinite number = false ∧ type.Has (wholePart number.toRat)) →
          toInteger type text = .error (.outOfRange text type.name))) ∧
    (∀ (type : IntegerType) whole, type.excludes (whole * unitsInOne) = false → type.clamp whole = whole) ∧
    (∀ text type other whole whole', toInteger type text = .ok whole → toInteger other text = .ok whole' →
      whole = whole') ∧
    (∀ text (type other : IntegerType) whole, other.least ≤ type.least → type.greatest ≤ other.greatest →
      toInteger type text = .ok whole → toInteger other text = .ok whole) ∧
    ∀ index (found : LineMatch),
      (∃ text, found.arguments[index]? = some text ∧
        ∀ reader : NumericReader, reader.readArgument index found = reader.read text) ∨
      found.arguments[index]? = none ∧
        ∀ reader : NumericReader, reader.readArgument index found = .error (.missingArgument index) := by
  refine ⟨?same, not_outOfRange_binary, ?taken, fun _ _ => IntegerType.clamp_of_not_excludes,
    fun _ _ _ _ _ => toInteger_unique, fun _ _ _ _ => toInteger_wider, NumericReader.readArgument_cases⟩
  case same =>
    intro text
    simp only [NumericReader.refused_iff]
    by_cases none : Decimal.read? text = none
    · exact .inl fun _ => none
    · exact .inr fun _ => none
  case taken =>
    intro text accepted
    obtain ⟨number, taken⟩ := exists_toBinary64 accepted
    exact ⟨number, taken, fun type => ⟨fun whole => toInteger_eq_ok_iff taken, toInteger_outOfRange taken⟩⟩

theorem readers_cohere_at_bounds :
    let text : Text := ['1', '2', '7', '.', '9']
    let huge : Text := List.replicate 309 '9'
    let infinity : Binary := ⟨false, twoTo binary64.limit⟩
    let zero : Binary := ⟨true, 0⟩
    ¬ Refused (toBinary64 text) ∧ toInteger .int8 text = .ok 127 ∧
      (∃ number, toBinary64 text = .ok number ∧ wholePart number.toRat = 127) ∧
      (∀ whole, toInteger .uint8 text = .ok whole → 127 = whole) ∧
      IntegerType.int16.least ≤ IntegerType.int8.least ∧ IntegerType.int8.greatest ≤ IntegerType.int16.greatest ∧
      toInteger .int16 text = .ok 127 ∧
      ¬ Refused (toBinary64 huge) ∧ toBinary64 huge = .ok infinity ∧ binary64.isInfinite infinity = true ∧
      toInteger .uint64 huge = .error (.outOfRange huge "u64") ∧
      IntegerType.uint8.excludes (zero.truncate * unitsInOne) = false ∧
      IntegerType.uint8.clamp zero.truncate = zero.truncate := by
  intro text huge infinity zero
  obtain ⟨_, _, taken, casts, agree, wider, _⟩ := readers_cohere
  have answer : toInteger .int8 text = .ok 127 := by decide +kernel
  have low : IntegerType.int16.least ≤ IntegerType.int8.least := by decide
  have high : IntegerType.int8.greatest ≤ IntegerType.int16.greatest := by decide
  have accepted (text : Text) (read : Decimal.read? text ≠ none) : ¬ Refused (toBinary64 text) := fun refused =>
    read ((NumericReader.binary64.refused_iff text).mp refused)
  have small : ¬ Refused (toBinary64 text) := accepted text (by decide +kernel)
  have large : ¬ Refused (toBinary64 huge) := accepted huge (by decide +kernel)
  have found : toBinary64 huge = .ok infinity := by decide +kernel
  have infinite : binary64.isInfinite infinity = true := by decide +kernel
  have kept : IntegerType.uint8.excludes (zero.truncate * unitsInOne) = false := by decide +kernel
  obtain ⟨number, text_number, whole⟩ := taken text small
  obtain ⟨_, huge_number, past⟩ := taken huge large
  cases found.symm.trans huge_number
  have beyond : toInteger .uint64 huge = .error (.outOfRange huge "u64") := by
    apply (past .uint64).2
    rw [infinite]
    nofun
  exact ⟨small, answer, ⟨number, text_number, (((whole .int8).1 127).mp answer).2.2.symm⟩,
    fun whole => agree text .int8 .uint8 127 whole answer, low, high, wider text .int8 .int16 127 low high answer,
    large, found, infinite, beyond, kept, casts .uint8 zero.truncate kept⟩

end Argument

end LineTemplates
