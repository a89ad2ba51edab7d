import LineTemplates.Number.Decimal
import LineTemplates.Proofs.Text.Lines
import LineTemplates.Proofs.Text.Quoted
import Mathlib.Data.Nat.Digits.Lemmas
import Mathlib.Data.Rat.Cast.Defs

/-! Decimal notation. The number that a text writes is the sign, applied to the digits before the point and the digits
behind it; the reader accepts the texts that write a number and no others, and that number is what it reads. -/

namespace LineTemplates

namespace Digits

variable {text : Text}

def written (digits : Text) : ℕ := Nat.ofDigits 10 (digits.reverse.map value)

theorem natural_eq_written (digits : Text) : natural 10 digits = written digits := by
  rw [natural, written, Nat.ofDigits_eq_foldr, List.foldr_map, List.foldl_eq_foldr_reverse]
  simp only [Nat.add_comm, Nat.cast_id]

theorem written_append (whole fraction : Text) :
    written (whole ++ fraction) = written whole * 10 ^ fraction.length + written fraction := by
  rw [written, List.reverse_append, List.map_append, Nat.ofDigits_append, List.length_map, List.length_reverse,
    Nat.add_comm, Nat.mul_comm]
  rfl

theorem natural?_eq_some_iff {number : ℕ} :
    natural? text = some number ↔ text ≠ [] ∧ (∀ char ∈ text, char.isDigit = true) ∧ number = written text := by
  rw [natural?, Option.ite_none_right_eq_some, natural_eq_written, Option.some.injEq, List.all_eq_true, and_assoc,
    eq_comm (a := written text)]

end Digits

namespace Decimal

variable {negative : Bool} {text whole fraction : Text} {value : ℚ} {decimal : Decimal}

inductive WritesUnsigned : Text → ℚ → Prop
  | whole {digits : Text} (some : digits ≠ []) (plain : ∀ char ∈ digits, char.isDigit = true) :
      WritesUnsigned digits (Digits.written digits)
  | pointed {whole fraction ending : Text} (some : whole ++ fraction ≠ [])
      (plain : ∀ char ∈ whole ++ fraction, char.isDigit = true) (ends : ending = [] ∨ ending = ['f']) :
      WritesUnsigned (whole ++ '.' :: (fraction ++ ending))
        (Digits.written whole + Digits.written fraction / 10 ^ fraction.length)

inductive Writes : Text → ℚ → Prop
  | plain {text : Text} {value : ℚ} (unsigned : WritesUnsigned text value) : Writes text value
  | negated {text : Text} {value : ℚ} (unsigned : WritesUnsigned text value) : Writes ('-' :: text) (-value)

def magnitude (decimal : Decimal) : ℚ := decimal.digits / 10 ^ decimal.places

theorem magnitude_nonneg (decimal : Decimal) : 0 ≤ decimal.magnitude :=
  div_nonneg decimal.digits.cast_nonneg (pow_nonneg (by norm_num) _)

def toRat (decimal : Decimal) : ℚ := if decimal.negative then -decimal.magnitude else decimal.magnitude

theorem ofDigits?_eq_some_iff :
    ofDigits? negative whole fraction = some decimal ↔ whole ++ fraction ≠ [] ∧
      (∀ char ∈ whole ++ fraction, char.isDigit = true) ∧
      decimal = ⟨negative, Digits.written (whole ++ fraction), fraction.length⟩ := by
  rw [ofDigits?, Option.map_eq_some_iff]
  constructor
  · rintro ⟨digits, read, rfl⟩
    obtain ⟨some, plain, rfl⟩ := Digits.natural?_eq_some_iff.mp read
    exact ⟨some, plain, rfl⟩
  · rintro ⟨some, plain, rfl⟩
    exact ⟨_, Digits.natural?_eq_some_iff.mpr ⟨some, plain, rfl⟩, rfl⟩

theorem magnitude_of_digits (negative : Bool) (whole fraction : Text) :
    magnitude ⟨negative, Digits.written (whole ++ fraction), fraction.length⟩ =
      Digits.written whole + Digits.written fraction / 10 ^ fraction.length := by
  have positive : (10 : ℚ) ^ fraction.length ≠ 0 := pow_ne_zero _ (by norm_num)
  rw [magnitude, Digits.written_append]
  push_cast
  rw [add_div, mul_div_cancel_right₀ _ positive]

theorem not_mem_of_digits {char : Char} (plain : ∀ char ∈ text, char.isDigit = true) (other : char.isDigit = false) :
    char ∉ text := by
  intro inside
  rw [plain char inside] at other
  cases other

theorem negative_of_readUnsigned? (read : readUnsigned? negative text = some decimal) : decimal.negative = negative := by
  unfold readUnsigned? at read
  split at read
  · obtain ⟨_, _, rfl⟩ := ofDigits?_eq_some_iff.mp read
    rfl
  · obtain ⟨_, _, rfl⟩ := ofDigits?_eq_some_iff.mp read
    rfl

theorem writesUnsigned_iff (negative : Bool) :
    WritesUnsigned text value ↔
      ∃ decimal, readUnsigned? negative text = some decimal ∧ decimal.magnitude = value := by
  constructor
  · intro writes
    cases writes with
    | whole some plain =>
      have cut : Text.cut? '.' text = none := Text.cut?_eq_none_iff.mpr (not_mem_of_digits plain rfl)
      refine ⟨⟨negative, Digits.written text, 0⟩, ?_, ?_⟩
      · rw [readUnsigned?, cut]
        apply ofDigits?_eq_some_iff.mpr
        simpa using ⟨some, plain⟩
      · simp [magnitude]
    | @pointed whole fraction ending some plain ends =>
      rw [List.forall_mem_append] at plain
      have cut := Text.cut?_append (not_mem_of_digits plain.1 (show Char.isDigit '.' = false from rfl)) (fraction ++ ending)
      have trimmed : Text.withoutEnding ['f'] (fraction ++ ending) = fraction := by
        have absent : 'f' ∉ fraction := not_mem_of_digits plain.2 rfl
        rcases ends with rfl | rfl
        · have other : ¬ ['f'] <:+ fraction := fun last => absent (last.subset (List.mem_singleton_self _))
          simp [Text.withoutEnding, other]
        · simp [Text.withoutEnding]
      refine ⟨_, ?_, magnitude_of_digits negative whole fraction⟩
      rw [readUnsigned?, cut]
      dsimp only
      rw [trimmed]
      exact ofDigits?_eq_some_iff.mpr ⟨some, List.forall_mem_append.mpr plain, rfl⟩
  · rintro ⟨decimal, read, rfl⟩
    unfold readUnsigned? at read
    split at read
    · obtain ⟨some, plain, rfl⟩ := ofDigits?_eq_some_iff.mp read
      rw [magnitude_of_digits]
      simp only [List.append_nil] at some plain
      simpa [Digits.written] using WritesUnsigned.whole some plain
    · rename_i whole behind found
      obtain ⟨rfl, -⟩ := Text.eq_append_of_cut? found
      obtain ⟨ending, shape, ends⟩ := Text.withoutEnding_append ['f'] behind
      obtain ⟨some, plain, rfl⟩ := ofDigits?_eq_some_iff.mp read
      rw [magnitude_of_digits]
      conv in behind => rw [shape]
      exact .pointed some plain ends

theorem WritesUnsigned.head?_ne_minus (writes : WritesUnsigned text value) : text.head? ≠ some '-' := by
  have other {digits : Text} (plain : ∀ char ∈ digits, char.isDigit = true) : digits.head? ≠ some '-' := by
    intro first
    exact not_mem_of_digits plain rfl (List.mem_of_head? first)
  cases writes with
  | whole _ plain => exact other plain
  | @pointed whole fraction ending _ plain _ =>
    cases whole with
    | nil => simp
    | cons first more =>
      have digits := (List.forall_mem_append.mp plain).1
      simpa using other digits

/-- The reader accepts the texts of decimal notation and reads the number that is written. -/
theorem writes_iff : Writes text value ↔ ∃ decimal, read? text = some decimal ∧ decimal.toRat = value := by
  constructor
  · rintro (⟨unsigned⟩ | ⟨unsigned⟩)
    · obtain ⟨decimal, read, rfl⟩ := (writesUnsigned_iff false).mp unsigned
      have sign := negative_of_readUnsigned? read
      refine ⟨decimal, ?_, by rw [toRat, if_neg (by simp [sign])]⟩
      unfold read?
      split
      · exact absurd rfl unsigned.head?_ne_minus
      · exact read
    · obtain ⟨decimal, read, rfl⟩ := (writesUnsigned_iff true).mp unsigned
      exact ⟨decimal, read, by rw [toRat, if_pos (negative_of_readUnsigned? read)]⟩
  · rintro ⟨decimal, read, rfl⟩
    unfold read? at read
    split at read
    · rw [toRat, if_pos (negative_of_readUnsigned? read)]
      exact .negated ((writesUnsigned_iff true).mpr ⟨decimal, read, rfl⟩)
    · rw [toRat, if_neg (by simp [negative_of_readUnsigned? read])]
      exact .plain ((writesUnsigned_iff false).mpr ⟨decimal, read, rfl⟩)

theorem writes_toString (number : ℤ) : Writes (toString number).toList number := by
  have digits (number : ℕ) : WritesUnsigned (toString number).toList number := by
    have shown : (toString number).toList = Nat.toDigits 10 number := Nat.toList_repr
    have written : Digits.written (Nat.toDigits 10 number) = number := by
      rw [← Digits.natural_eq_written, Digits.natural_toDigits (by decide) (by decide)]
    rw [shown]
    nth_rewrite 2 [← written]
    exact .whole Nat.toDigits_ne_nil fun char inside => Nat.isDigit_of_mem_toDigits (by decide) (by decide) inside
  cases number with
  | ofNat number => exact .plain (digits number)
  | negSucc number =>
    have shown : (toString (Int.negSucc number)).toList = '-' :: (toString (number + 1)).toList := by
      exact String.toList_append
    rw [shown, Int.cast_negSucc]
    exact .negated (digits (number + 1))

end Decimal

end LineTemplates
