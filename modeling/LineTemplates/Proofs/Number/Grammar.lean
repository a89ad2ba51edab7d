import LineTemplates.Proofs.Number.Nearest

/-! The grammar of decimal notation, and how one number is written in several ways: zeros may stand in front of it and
behind its fraction, a part without digits may be left out, and an `f` may follow a fraction. -/

namespace LineTemplates

namespace Digits

def zeros (count : ℕ) : Text := List.replicate count '0'

theorem forall_mem_zeros (count : ℕ) : ∀ char ∈ zeros count, char.isDigit = true := by
  intro char inside
  rw [List.eq_of_mem_replicate inside]
  rfl

theorem written_zeros (count : ℕ) : written (zeros count) = 0 := by
  rw [written, zeros, List.reverse_replicate, List.map_replicate]
  exact Nat.ofDigits_replicate_zero

theorem written_zeros_append (count : ℕ) (digits : Text) : written (zeros count ++ digits) = written digits := by
  rw [written_append, written_zeros, Nat.zero_mul, Nat.zero_add]

theorem written_append_zeros (digits : Text) (count : ℕ) :
    written (digits ++ zeros count) = written digits * 10 ^ count := by
  rw [written_append, written_zeros, Nat.add_zero, zeros, List.length_replicate]

end Digits

open Digits

namespace Decimal

variable {text whole fraction : Text} {decimal : Decimal}

/-- Decimal notation without a sign: digits, or digits and a point that more digits may follow, or a point and digits. An
`f` may stand behind what has a point. -/
inductive NotatedUnsigned : Text → Prop
  | whole {digits : Text} (some : digits ≠ []) (plain : ∀ char ∈ digits, char.isDigit = true) : NotatedUnsigned digits
  | pointed {whole fraction ending : Text} (some : whole ≠ []) (plain : ∀ char ∈ whole, char.isDigit = true)
      (more : ∀ char ∈ fraction, char.isDigit = true) (ends : ending = [] ∨ ending = ['f']) :
      NotatedUnsigned (whole ++ '.' :: (fraction ++ ending))
  | fraction {fraction ending : Text} (some : fraction ≠ []) (plain : ∀ char ∈ fraction, char.isDigit = true)
      (ends : ending = [] ∨ ending = ['f']) : NotatedUnsigned ('.' :: (fraction ++ ending))

inductive Notated : Text → Prop
  | plain {text : Text} (unsigned : NotatedUnsigned text) : Notated text
  | negated {text : Text} (unsigned : NotatedUnsigned text) : Notated ('-' :: text)

theorem notatedUnsigned_iff : NotatedUnsigned text ↔ ∃ value, WritesUnsigned text value := by
  constructor
  · intro notated
    cases notated with
    | whole some plain => exact ⟨_, .whole some plain⟩
    | pointed some plain more ends =>
      exact ⟨_, .pointed (List.append_ne_nil_of_left_ne_nil some _) (List.forall_mem_append.mpr ⟨plain, more⟩) ends⟩
    | @fraction fraction ending some plain ends =>
      have writes : WritesUnsigned ([] ++ '.' :: (fraction ++ ending)) _ := .pointed some plain ends
      exact ⟨_, writes⟩
  · rintro ⟨value, writes⟩
    cases writes with
    | whole some plain => exact .whole some plain
    | @pointed whole fraction ending some plain ends =>
      obtain ⟨digits, more⟩ := List.forall_mem_append.mp plain
      cases whole with
      | nil => exact .fraction some more ends
      | cons first rest => exact .pointed (List.cons_ne_nil first rest) digits more ends

/-- The texts of the grammar are those that write a number. -/
theorem notated_iff : Notated text ↔ ∃ value, Writes text value := by
  constructor
  · rintro (unsigned | unsigned)
    · obtain ⟨value, writes⟩ := notatedUnsigned_iff.mp unsigned
      exact ⟨value, .plain writes⟩
    · obtain ⟨value, writes⟩ := notatedUnsigned_iff.mp unsigned
      exact ⟨-value, .negated writes⟩
  · rintro ⟨_, writes | writes⟩
    · exact .plain (notatedUnsigned_iff.mpr ⟨_, writes⟩)
    · exact .negated (notatedUnsigned_iff.mpr ⟨_, writes⟩)

theorem notated_iff_read? : Notated text ↔ read? text ≠ none := by
  rw [notated_iff, Option.ne_none_iff_exists']
  simp only [writes_iff]
  constructor
  · rintro ⟨_, decimal, read, _⟩
    exact ⟨decimal, read⟩
  · rintro ⟨decimal, read⟩
    exact ⟨_, decimal, read, rfl⟩

instance : Decidable (Notated text) := decidable_of_iff _ notated_iff_read?.symm

example : Notated ['-', '1', '.', 'f'] ∧ ¬ Notated ['1', 'f'] ∧ ¬ Notated ['.', 'f'] := by decide +kernel

theorem negative_of_read? (read : read? text = some decimal) : decimal.negative = true ↔ text.head? = some '-' := by
  unfold read? at read
  split at read
  · simp [negative_of_readUnsigned? read]
  · rename_i unsigned
    rw [negative_of_readUnsigned? read]
    constructor
    · nofun
    · intro first
      obtain ⟨rest, rfl⟩ := List.head?_eq_some_iff.mp first
      exact absurd rfl (unsigned rest)

inductive Spells (whole fraction : Text) : Text → Prop
  | pointed (leading trailing : ℕ) {ending : Text} (ends : ending = [] ∨ ending = ['f']) :
      Spells whole fraction (zeros leading ++ whole ++ '.' :: (fraction ++ zeros trailing ++ ending))
  | pointless (leading : ℕ) (some : whole ≠ []) (none : fraction = []) : Spells whole fraction (zeros leading ++ whole)

theorem Spells.writesUnsigned (spells : Spells whole fraction text) (some : whole ++ fraction ≠ [])
    (plain : ∀ char ∈ whole ++ fraction, char.isDigit = true) :
    WritesUnsigned text (written whole + written fraction / 10 ^ fraction.length) := by
  obtain ⟨digits, more⟩ := List.forall_mem_append.mp plain
  cases spells with
  | @pointed leading trailing ending ends =>
    have filled : zeros leading ++ whole ++ (fraction ++ zeros trailing) ≠ [] := by
      intro nothing
      simp only [List.append_eq_nil_iff] at nothing
      exact some (List.append_eq_nil_iff.mpr ⟨nothing.1.2, nothing.2.1⟩)
    have padded : ∀ char ∈ zeros leading ++ whole ++ (fraction ++ zeros trailing), char.isDigit = true := by
      simp only [List.forall_mem_append]
      exact ⟨⟨forall_mem_zeros leading, digits⟩, more, forall_mem_zeros trailing⟩
    have writes := WritesUnsigned.pointed filled padded ends
    have length : (fraction ++ zeros trailing).length = fraction.length + trailing := by
      rw [List.length_append, zeros, List.length_replicate]
    have positive : (10 : ℚ) ^ trailing ≠ 0 := pow_ne_zero _ (by norm_num)
    rw [written_zeros_append, written_append_zeros, length, pow_add] at writes
    push_cast at writes
    rwa [mul_div_mul_right _ _ positive] at writes
  | pointless leading filled none =>
    subst none
    have padded : ∀ char ∈ zeros leading ++ whole, char.isDigit = true :=
      List.forall_mem_append.mpr ⟨forall_mem_zeros leading, digits⟩
    have writes := WritesUnsigned.whole (List.append_ne_nil_of_right_ne_nil _ filled) padded
    rw [written_zeros_append] at writes
    simpa [written] using writes

end Decimal

end LineTemplates
