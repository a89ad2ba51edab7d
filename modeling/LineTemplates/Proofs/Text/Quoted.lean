import LineTemplates.Number.Digits
import LineTemplates.Proofs.Text.Pieces
import LineTemplates.Text.Quoted
import Mathlib.Data.List.Basic

/-! Quoted texts read back. The spelling of a character tells where it ends, so that the characters of a quoted text are
found from left to right; inside, no quote stands without a backslash in front of it, so that the quote which opens the
last quoted text of a line is found from right to left. -/

namespace LineTemplates

namespace Digits

theorem value_digitChar : ∀ digit < 16, value digit.digitChar = digit := by
  decide

theorem natural_toDigits {base : Nat} (several : 1 < base) (few : base ≤ 16) (number : Nat) :
    natural base (Nat.toDigits base number) = number := by
  induction number using Nat.strong_induction_on with
  | _ number step =>
    rw [Nat.toDigits_eq_if several]
    split
    · rename_i short
      exact (Nat.zero_add _).trans (value_digitChar number (short.trans_le few))
    · have shorter : number / base < number := Nat.div_lt_self (by omega) several
      have read := step _ shorter
      have last := value_digitChar (number % base) ((Nat.mod_lt _ (by omega)).trans_le few)
      rw [natural] at read ⊢
      rw [List.foldl_append, read, List.foldl_cons, List.foldl_nil, last, Nat.div_add_mod]

theorem mem_toDigits {base number : Nat} (several : 1 < base) :
    ∀ char ∈ Nat.toDigits base number, ∃ digit, char = Nat.digitChar digit := by
  induction number using Nat.strong_induction_on with
  | _ number step =>
    rw [Nat.toDigits_eq_if several]
    split
    · simp
    · have shorter : number / base < number := Nat.div_lt_self (by omega) several
      intro char inside
      rcases List.mem_append.mp inside with before | last
      · exact step _ shorter char before
      · exact ⟨_, List.mem_singleton.mp last⟩

end Digits

namespace Text

def escapes : List (Char × Char) :=
  [('0', '\x00'), ('t', '\t'), ('n', '\n'), ('r', '\r'), ('"', '"'), ('\\', '\\')]

inductive Spells (char : Char) : Text → Prop
  | plain (notQuote : char ≠ '"') (notBackslash : char ≠ '\\') : Spells char [char]
  | short {mark : Char} (listed : (mark, char) ∈ escapes) : Spells char ['\\', mark]
  | number : Spells char (spelledByNumber char)

theorem spells_spell (char : Char) : Spells char (spell char) := by
  unfold spell
  split
  · exact .short (by decide)
  · exact .short (by decide)
  · exact .short (by decide)
  · exact .short (by decide)
  · exact .short (by decide)
  · exact .short (by decide)
  · rename_i notQuote notBackslash
    split
    · exact .plain notQuote notBackslash
    · exact .number

theorem feed_not_mem_spell (char : Char) : '\n' ∉ spell char := by
  unfold spell
  split
  · decide
  · decide
  · decide
  · decide
  · decide
  · decide
  · rename_i notFeed _ _ _
    split
    · simpa using Ne.symm notFeed
    · intro inside
      have digit : '\n' ∈ Nat.toDigits 16 char.toNat := by simpa [spelledByNumber] using inside
      obtain ⟨value, same⟩ := Digits.mem_toDigits (by decide) _ digit
      exact Nat.digitChar_ne '\n' rfl same.symm

theorem feed_not_mem_quoted (text : Text) : '\n' ∉ quoted text := by
  have inside : '\n' ∉ text.flatMap spell := by
    rw [List.mem_flatMap]
    rintro ⟨char, _, here⟩
    exact feed_not_mem_spell char here
  simpa [quoted] using inside

def unspell? : Text → Option (Char × Text)
  | [] => none
  | '\\' :: 'u' :: more => (cut? '\x7d' more.tail).map fun (digits, rest) => (Char.ofNat (Digits.natural 16 digits), rest)
  | '\\' :: mark :: rest => (escapes.lookup mark).map (·, rest)
  | char :: rest => some (char, rest)

theorem unspell?_append {char : Char} {text : Text} (spells : Spells char text) (rest : Text) :
    unspell? (text ++ rest) = some (char, rest) := by
  cases spells with
  | plain notQuote notBackslash => simp [unspell?, notBackslash]
  | short listed =>
    simp only [escapes, List.mem_cons, Prod.mk.injEq, List.not_mem_nil, or_false] at listed
    rcases listed with listed | listed | listed | listed | listed | listed <;> (obtain ⟨rfl, rfl⟩ := listed; rfl)
  | number =>
    have closes : '\x7d' ∉ Nat.toDigits 16 char.toNat := by
      intro inside
      obtain ⟨digit, same⟩ := Digits.mem_toDigits (by decide) _ inside
      exact Nat.digitChar_ne '\x7d' rfl same.symm
    have read : cut? '\x7d' (Nat.toDigits 16 char.toNat ++ '\x7d' :: rest) = some (Nat.toDigits 16 char.toNat, rest) :=
      cut?_append closes rest
    simp [spelledByNumber, unspell?, read, Digits.natural_toDigits]

theorem unspell?_spell_append (char : Char) (rest : Text) : unspell? (spell char ++ rest) = some (char, rest) :=
  unspell?_append (spells_spell char) rest

theorem flatMap_spell_inj {text other : Text} (same : text.flatMap spell = other.flatMap spell) : text = other := by
  induction text generalizing other with
  | nil =>
    cases other with
    | nil => rfl
    | cons char rest =>
      have read := unspell?_spell_append char (rest.flatMap spell)
      rw [← List.flatMap_cons, ← same] at read
      cases read
  | cons char rest step =>
    have read := unspell?_spell_append char (rest.flatMap spell)
    rw [← List.flatMap_cons, same] at read
    cases other with
    | nil => cases read
    | cons first more =>
      rw [List.flatMap_cons, unspell?_spell_append] at read
      obtain ⟨rfl, later⟩ := Prod.mk.inj (Option.some.inj read)
      rw [step later.symm]

def QuotesEscaped (text : Text) : Prop := ∀ before after, text = before ++ '"' :: after → ∃ front, before = front ++ ['\\']

theorem QuotesEscaped.append {text other : Text} (escaped : QuotesEscaped text) (more : QuotesEscaped other) :
    QuotesEscaped (text ++ other) := by
  intro before after found
  rcases List.append_eq_append_iff.mp found with ⟨between, rfl, inside⟩ | ⟨between, inside, split⟩
  · obtain ⟨front, rfl⟩ := more _ _ inside
    exact ⟨text ++ front, (List.append_assoc ..).symm⟩
  · cases between with
    | nil =>
      obtain ⟨front, empty⟩ := more [] after split.symm
      simp at empty
    | cons first rest =>
      obtain ⟨rfl, rfl⟩ := List.cons.inj split
      exact escaped _ _ inside

theorem quotesEscaped_of_not_mem {text : Text} (absent : '"' ∉ text) : QuotesEscaped text := by
  rintro before after rfl
  simp at absent

theorem Spells.quotesEscaped {char : Char} {text : Text} (spells : Spells char text) : QuotesEscaped text := by
  cases spells with
  | plain notQuote notBackslash => exact quotesEscaped_of_not_mem (by simp [Ne.symm notQuote])
  | short listed =>
    intro before after found
    cases before with
    | nil => cases found
    | cons first rest =>
      obtain ⟨rfl, later⟩ := List.cons.inj found
      cases rest with
      | nil => exact ⟨[], rfl⟩
      | cons => simp at later
  | number =>
    apply quotesEscaped_of_not_mem
    intro inside
    have digit : '"' ∈ Nat.toDigits 16 char.toNat := by simpa [spelledByNumber] using inside
    obtain ⟨value, same⟩ := Digits.mem_toDigits (by decide) _ digit
    exact Nat.digitChar_ne '"' rfl same.symm

theorem quotesEscaped_flatMap_spell (text : Text) : QuotesEscaped (text.flatMap spell) := by
  induction text with
  | nil => exact quotesEscaped_of_not_mem (List.not_mem_nil)
  | cons char rest step => exact (spells_spell char).quotesEscaped.append step

/-- A quoted text has no other quoted text at its end, unless a backslash stands in front of that. -/
theorem eq_nil_of_quoted_eq_append {text other between : Text} (same : quoted text = between ++ quoted other)
    (ends : '\\' ∉ between.getLast?) : between = [] := by
  cases between with
  | nil => rfl
  | cons first rest =>
    have tails : text.flatMap spell ++ ['"'] = (rest ++ '"' :: other.flatMap spell) ++ ['"'] := by
      rw [List.append_assoc]
      exact (List.cons.inj same).2
    have inside := List.append_cancel_right tails
    obtain ⟨front, rfl⟩ := quotesEscaped_flatMap_spell text _ _ inside
    simp [List.getLast?_cons] at ends

/-- The quoted text at the end of a line is the only one that the line ends with, as long as no backslash stands in front
of it. -/
theorem append_quoted_inj {front text otherFront other : Text} (ends : '\\' ∉ front.getLast?)
    (otherEnds : '\\' ∉ otherFront.getLast?) (same : front ++ quoted text = otherFront ++ quoted other) :
    front = otherFront ∧ text = other := by
  have fronts : front = otherFront := by
    rcases List.append_eq_append_iff.mp same with ⟨between, rfl, split⟩ | ⟨between, rfl, split⟩
    · rw [eq_nil_of_quoted_eq_append split (mt List.mem_getLast?_append_of_mem_getLast? otherEnds), List.append_nil]
    · rw [eq_nil_of_quoted_eq_append split (mt List.mem_getLast?_append_of_mem_getLast? ends), List.append_nil]
  subst fronts
  have quotes := List.append_cancel_left same
  refine ⟨rfl, flatMap_spell_inj ?_⟩
  exact List.append_cancel_right (List.cons.inj quotes).2

end Text

end LineTemplates
