import LineTemplates.Proofs.Pattern.Placeholder
import LineTemplates.Proofs.Segment.Canonical
import LineTemplates.Proofs.Text.Lines

/-! Malformed placeholders. A placeholder that cannot be read has no name, too long a name or an unknown one, or its
constant is not put in parentheses, or is empty; the fault covers it up to where reading stopped. -/

namespace LineTemplates

namespace Lexeme

open Text

/-- The texts of placeholders that cannot be read, each in front of the text behind it, and what is wrong with them. A name
goes as far as there are letters and digits. -/
inductive Malformed : (text after : Text) → PatternFault → Prop
  | unnamed {after : Text} (ends : ∀ char ∈ after.head?, Segment.isNameChar char = false) :
      Malformed ['$'] after .unnamed
  | longName {name after : Text} (plain : ∀ char ∈ name, Segment.isNameChar char = true)
      (ends : ∀ char ∈ after.head?, Segment.isNameChar char = false) (long : Item.longestName < name.length) :
      Malformed ('$' :: name) after (.longName name)
  | unknownName {name after : Text} (filled : name ≠ []) (plain : ∀ char ∈ name, Segment.isNameChar char = true)
      (ends : ∀ char ∈ after.head?, Segment.isNameChar char = false) (short : name.length ≤ Item.longestName)
      (unknown : ∀ item, ¬ Item.Named name item) (other : name ≠ ['a', 'r', 'g']) :
      Malformed ('$' :: name) after (.unknownName name)
  | unopenedArgument {after : Text} (ends : ∀ char ∈ after.head?, Segment.isNameChar char = false)
      (other : after.head? ≠ some '(') : Malformed ['$', 'a', 'r', 'g'] after .unopenedArgument
  | unclosedArgument {inside : Text} (unclosed : ')' ∉ inside) :
      Malformed ('$' :: 'a' :: 'r' :: 'g' :: '(' :: inside) [] .unclosedArgument
  | emptyArgument {after : Text} : Malformed ['$', 'a', 'r', 'g', '(', ')'] after .emptyArgument

variable {source text after : Text} {fault : PatternFault} {size total : Nat}

theorem constant_eq_error_iff :
    constant size source = .error (fault, total) ↔
      (source.head? ≠ some '(' ∧ fault = .unopenedArgument ∧ total = size) ∨
      (∃ inside, source = '(' :: inside ∧ ')' ∉ inside ∧ fault = .unclosedArgument ∧ total = size + utf8Size source) ∨
      ∃ after, source = '(' :: ')' :: after ∧ fault = .emptyArgument ∧ total = size + 2 := by
  constructor
  · intro read
    unfold constant at read
    split at read
    · rename_i inside
      split at read
      · rename_i absent
        cases read
        exact .inr (.inl ⟨inside, rfl, cut?_eq_none_iff.mp absent, rfl, rfl⟩)
      · rename_i after found
        cases read
        obtain ⟨rfl, -⟩ := eq_append_of_cut? found
        exact .inr (.inr ⟨after, rfl, rfl, rfl⟩)
      · cases read
    · rename_i other
      cases read
      refine .inl ⟨?_, rfl, rfl⟩
      intro first
      obtain ⟨inside, rfl⟩ := List.head?_eq_some_iff.mp first
      exact other inside rfl
  · rintro (⟨other, rfl, rfl⟩ | ⟨inside, rfl, unclosed, rfl, rfl⟩ | ⟨after, rfl, rfl, rfl⟩)
    · unfold constant
      split
      · exact absurd rfl other
      · rfl
    · rw [constant, cut?_eq_none_iff.mpr unclosed]
    · rw [constant, cut?, if_pos rfl]

theorem utf8Size_name {name : Text} (plain : ∀ char ∈ name, Segment.isNameChar char = true) :
    utf8Size ('$' :: name) = 1 + name.length := by
  have values : ∀ char ∈ name, Segment.ValueChar char := fun char inside => .inl (plain char inside)
  rw [utf8Size_cons, Segment.utf8Size_of_valueChars values]
  rfl

theorem placeholder_of_malformed (malformed : Malformed ('$' :: text) after fault) :
    placeholder (text ++ after) = .error (fault, utf8Size ('$' :: text)) := by
  have argument (inside : Text) (ends : ∀ char ∈ inside.head?, Segment.isNameChar char = false) :
      placeholder ('a' :: 'r' :: 'g' :: inside) = constant 4 inside := by
    have cut : (['a', 'r', 'g'] ++ inside).takeWhile Segment.isNameChar = ['a', 'r', 'g'] :=
      takeWhile_append_of_ends (by simp [Segment.isNameChar]) ends
    rw [List.cons_append, List.cons_append, List.cons_append, List.nil_append] at cut
    simp [placeholder, cut, Item.longestName, Item.injectName]
  cases malformed with
  | unnamed ends =>
    have cut := takeWhile_append_of_ends (List.forall_mem_nil _) ends
    rw [placeholder, cut]
    rfl
  | longName plain ends long =>
    have filled : text ≠ [] := by
      rintro rfl
      exact absurd long (Nat.not_lt_zero _)
    rw [placeholder, takeWhile_append_of_ends plain ends, utf8Size_name plain]
    simp only [if_neg filled, if_pos long]
  | unknownName filled plain ends short unknown other =>
    have absent : Item.placeholders.lookup text = none := by
      cases known : Item.placeholders.lookup text with
      | none => rfl
      | some item => exact absurd (Item.lookup_placeholders_eq_some_iff.mp known) (unknown item)
    rw [placeholder, takeWhile_append_of_ends plain ends, utf8Size_name plain]
    simp only [if_neg filled, if_neg (Nat.not_lt.mpr short), if_neg (show text ≠ Item.injectName from other), absent]
  | unopenedArgument ends other =>
    refine (argument _ ends).trans ?_
    exact constant_eq_error_iff.mpr (.inl ⟨other, rfl, rfl⟩)
  | @unclosedArgument inside unclosed =>
    refine (argument ('(' :: (inside ++ [])) (by simp [Segment.isNameChar])).trans ?_
    apply constant_eq_error_iff.mpr
    refine .inr (.inl ⟨inside ++ [], rfl, ?_, rfl, ?_⟩)
    · rwa [List.append_nil]
    · rw [List.append_nil]
      change utf8Size (['$', 'a', 'r', 'g'] ++ '(' :: inside) = _
      rw [utf8Size_append]
      rfl
  | emptyArgument =>
    refine (argument ('(' :: ')' :: after) (by simp [Segment.isNameChar])).trans ?_
    exact constant_eq_error_iff.mpr (.inr (.inr ⟨after, rfl, rfl, rfl⟩))

/-- A placeholder is not read just if the source begins with a malformed one. -/
theorem placeholder_eq_error_iff :
    placeholder source = .error (fault, size) ↔
      ∃ text after, source = text ++ after ∧ size = utf8Size ('$' :: text) ∧ Malformed ('$' :: text) after fault := by
  constructor
  · intro read
    have whole := takeWhile_append_drop Segment.isNameChar source
    have ends := head?_drop_takeWhile Segment.isNameChar source
    have plain : ∀ char ∈ source.takeWhile Segment.isNameChar, Segment.isNameChar char = true :=
      List.all_eq_true.mp List.all_takeWhile
    unfold placeholder at read
    simp only at read
    split at read
    · rename_i empty
      cases read
      rw [empty] at whole ends ⊢
      exact ⟨[], _, whole.symm, rfl, .unnamed ends⟩
    split at read
    · rename_i long
      cases read
      exact ⟨_, _, whole.symm, (utf8Size_name plain).symm, .longName plain ends long⟩
    split at read
    · rename_i filled short called
      rw [called] at read whole ends
      rcases constant_eq_error_iff.mp read with ⟨other, rfl, rfl⟩ | ⟨inside, shape, unclosed, rfl, rfl⟩ |
        ⟨after, shape, rfl, rfl⟩
      · exact ⟨_, _, whole.symm, rfl, .unopenedArgument ends other⟩
      · refine ⟨Item.injectName ++ '(' :: inside, [], ?_, ?_, .unclosedArgument unclosed⟩
        · rw [List.append_nil, ← shape, whole]
        · rw [shape, ← List.cons_append, utf8Size_append]
          rfl
      · refine ⟨Item.injectName ++ ['(', ')'], after, ?_, rfl, .emptyArgument⟩
        rw [← whole, shape]
        rfl
    split at read
    · cases read
    · rename_i filled short other _ unknown
      cases read
      refine ⟨_, _, whole.symm, (utf8Size_name plain).symm, .unknownName filled plain ends (Nat.not_lt.mp short) ?_ other⟩
      intro item named
      rw [Item.lookup_placeholders_eq_some_iff.mpr named] at unknown
      cases unknown
  · rintro ⟨text, after, rfl, rfl, malformed⟩
    exact placeholder_of_malformed malformed

end Lexeme

end LineTemplates
