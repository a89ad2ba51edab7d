import LineTemplates.LineMatch

/-! The readers that take an argument for a number. All of them read the same notation into binary64 first; they differ
in what they make of that number, and in the name that stands in their errors. -/

namespace LineTemplates

namespace Argument

variable {Answer : Type}

def Refused (answer : Except ConversionError Answer) : Prop := ∃ text target, answer = .error (.invalid text target)

def OutOfRange (answer : Except ConversionError Answer) : Prop :=
  ∃ text target, answer = .error (.outOfRange text target)

inductive Agree : Except ConversionError Answer → Except ConversionError Answer → Prop
  | value (found : Answer) : Agree (.ok found) (.ok found)
  | outOfRange (first second : Text) (target : String) :
      Agree (.error (.outOfRange first target)) (.error (.outOfRange second target))

end Argument

open Argument

inductive NumericReader where
  | binary64
  | binary32
  | integer (type : IntegerType)

namespace NumericReader

abbrev Answer : NumericReader → Type
  | binary64 | binary32 => Binary
  | integer _ => Int

def target : NumericReader → String
  | binary64 => "f64"
  | binary32 => "f32"
  | integer type => type.name

def read : (reader : NumericReader) → Text → Except ConversionError reader.Answer
  | binary64 => toBinary64
  | binary32 => toBinary32
  | integer type => toInteger type

def readArgument : (reader : NumericReader) → Nat → LineMatch → Except ConversionError reader.Answer
  | binary64 => LineMatch.binary64Argument
  | binary32 => LineMatch.binary32Argument
  | integer type => LineMatch.integerArgument type

def convert? : (reader : NumericReader) → Binary → Option reader.Answer
  | binary64 => some
  | binary32 => fun number => some (LineTemplates.binary32.round number)
  | integer type => type.ofBinary?

def answer (reader : NumericReader) (text : Text) (number : Binary) : Except ConversionError reader.Answer :=
  (reader.convert? number).elim (.error (.outOfRange text reader.target)) .ok

variable {reader : NumericReader} {text : Text} {decimal : Decimal}

theorem read_eq (reader : NumericReader) (text : Text) :
    reader.read text = match Decimal.read? text with
      | none => .error (.invalid text reader.target)
      | some decimal => reader.answer text (Binary.ofDecimal decimal) := by
  cases read : Decimal.read? text with
  | none =>
    cases reader with
    | binary64 => simp [NumericReader.read, toBinary64, toBinary, read, target]
    | binary32 => simp [NumericReader.read, toBinary32, toBinary, read, target, Functor.map, Except.map]
    | integer type => simp [NumericReader.read, toInteger, toBinary, read, target, bind, Except.bind]
  | some decimal =>
    cases reader with
    | binary64 => simp [NumericReader.read, toBinary64, toBinary, read, answer, convert?]
    | binary32 => simp [NumericReader.read, toBinary32, toBinary, read, answer, convert?, Functor.map, Except.map]
    | integer type =>
      cases held : type.ofBinary? (Binary.ofDecimal decimal) with
      | none => simp [NumericReader.read, toInteger, toBinary, read, answer, convert?, target, bind, Except.bind, held]
      | some whole => simp [NumericReader.read, toInteger, toBinary, read, answer, convert?, bind, Except.bind, held]

theorem read_of_read? (reader : NumericReader) (read : Decimal.read? text = some decimal) :
    reader.read text = reader.answer text (Binary.ofDecimal decimal) := by
  rw [read_eq, read]

/-- One notation is accepted by all readers. -/
theorem refused_iff (reader : NumericReader) (text : Text) :
    Refused (reader.read text) ↔ Decimal.read? text = none := by
  rw [read_eq, Refused]
  cases Decimal.read? text with
  | none => simp
  | some decimal => cases held : reader.convert? (Binary.ofDecimal decimal) <;> simp [answer, held]

theorem agree_answer (reader : NumericReader) (first second : Text) (number : Binary) :
    Agree (reader.answer first number) (reader.answer second number) := by
  rw [answer, answer]
  cases reader.convert? number with
  | none => exact .outOfRange ..
  | some found => exact .value found

theorem readArgument_cases (index : Nat) (found : LineMatch) :
    (∃ text, found.arguments[index]? = some text ∧
      ∀ reader : NumericReader, reader.readArgument index found = reader.read text) ∨
    found.arguments[index]? = none ∧
      ∀ reader : NumericReader, reader.readArgument index found = .error (.missingArgument index) := by
  have reads (reader : NumericReader) : reader.readArgument index found = found.argument index >>= reader.read := by
    cases reader <;> rfl
  cases taken : found.arguments[index]? with
  | some text =>
    refine .inl ⟨text, rfl, fun reader => ?_⟩
    rw [reads, LineMatch.argument, taken]
    rfl
  | none =>
    refine .inr ⟨rfl, fun reader => ?_⟩
    rw [reads, LineMatch.argument, taken]
    rfl

end NumericReader

end LineTemplates
