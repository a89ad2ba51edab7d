import LineTemplates.Proofs.Text.Pieces
import LineTemplates.Pattern.Lexeme

/-! Placeholders. A name goes as far as there are letters and digits; it is one of the eight that stand alone, or it
takes a constant in parentheses, and nothing else is read after the mark. -/

namespace LineTemplates

open Text

namespace Item

inductive Named : Text → Item → Prop
  | value : Named ['v', 'a', 'l', 'u', 'e'] .value
  | ident : Named ['i', 'd', 'e', 'n', 't'] .ident
  | rest : Named ['r', 'e', 's', 't'] .rest
  | lbracket : Named ['l', 'b', 'r', 'a', 'c', 'k', 'e', 't'] (.literal '<')
  | rbracket : Named ['r', 'b', 'r', 'a', 'c', 'k', 'e', 't'] (.literal '>')
  | lbrace : Named ['l', 'b', 'r', 'a', 'c', 'e'] (.literal '[')
  | rbrace : Named ['r', 'b', 'r', 'a', 'c', 'e'] (.literal ']')
  | dollar : Named ['d', 'o', 'l', 'l', 'a', 'r'] (.literal '$')

theorem lookup_placeholders_eq_some_iff {name : Text} {item : Item} :
    placeholders.lookup name = some item ↔ Named name item := by
  constructor
  · intro found
    have listed : (name, item) ∈ placeholders := by
      obtain ⟨before, after, shape, _⟩ := List.lookup_eq_some_iff.mp found
      simp [shape]
    simp only [placeholders, List.mem_cons, Prod.mk.injEq, List.not_mem_nil, or_false] at listed
    rcases listed with same | same | same | same | same | same | same | same <;>
      (obtain ⟨rfl, rfl⟩ := same; constructor)
  · intro named
    cases named <;> decide

namespace Named

variable {name : Text} {item : Item}

theorem isNameChar (named : Named name item) : ∀ char ∈ name, Segment.isNameChar char = true := by
  cases named <;> simp [Segment.isNameChar]

theorem ne_nil (named : Named name item) : name ≠ [] := by
  cases named <;> decide

theorem length_le (named : Named name item) : name.length ≤ longestName := by
  cases named <;> decide

theorem ne_injectName (named : Named name item) : name ≠ injectName := by
  cases named <;> decide

theorem print_eq (named : Named name item) : item.print = placeholderMark :: name := by
  cases named <;> decide

end Named

theorem print_inject (text : Text) :
    (inject text).print = placeholderMark :: injectName ++ '(' :: text ++ [')'] := by
  simp [print, placeholderName?, placeholders]

theorem print_literal {char : Char} (plain : char ∉ ['<', '>', '[', ']', '$', '_']) :
    (literal char).print = [char] := by
  have unnamed : placeholderName? (literal char) = none := by
    simp only [List.mem_cons, List.not_mem_nil, or_false, not_or] at plain
    obtain ⟨notLess, notGreater, notOpen, notClose, notDollar, _⟩ := plain
    simp [placeholderName?, placeholders, Ne.symm notLess, Ne.symm notGreater, Ne.symm notOpen, Ne.symm notClose,
      Ne.symm notDollar]
  simp [print, unnamed]

end Item

namespace Lexeme

theorem constant_eq_ok_iff {size : Nat} {source after : Text} {item : Item} :
    constant size source = .ok (item, after) ↔
      ∃ text, text ≠ [] ∧ ')' ∉ text ∧ item = .inject text ∧ source = '(' :: text ++ ')' :: after := by
  constructor
  · intro read
    unfold constant at read
    split at read
    · split at read
      · cases read
      · cases read
      · rename_i inside _ text rest nonempty found
        cases read
        obtain ⟨rfl, closes⟩ := eq_append_of_cut? found
        exact ⟨text, nonempty, closes, rfl, rfl⟩
    · cases read
  · rintro ⟨text, nonempty, closes, rfl, rfl⟩
    rw [List.cons_append, constant]
    split
    · rename_i absent
      simp [cut?_append closes] at absent
    · rename_i found
      rw [cut?_append closes] at found
      cases found
      exact absurd rfl nonempty
    · rename_i found
      rw [cut?_append closes] at found
      cases found
      rfl

theorem placeholder_eq_ok_iff {source after : Text} {item : Item} :
    placeholder source = .ok (item, after) ↔
      (∃ name, Item.Named name item ∧ (∀ char ∈ after.head?, Segment.isNameChar char = false) ∧
        source = name ++ after) ∨
      ∃ text, text ≠ [] ∧ ')' ∉ text ∧ item = .inject text ∧
        source = Item.injectName ++ '(' :: text ++ ')' :: after := by
  constructor
  · intro read
    have whole := takeWhile_append_drop Segment.isNameChar source
    unfold placeholder at read
    simp only at read
    split at read
    · cases read
    split at read
    · cases read
    split at read
    · rename_i called
      obtain ⟨text, nonempty, closes, rfl, shape⟩ := constant_eq_ok_iff.mp read
      refine .inr ⟨text, nonempty, closes, rfl, ?_⟩
      rw [← whole, shape, called, List.append_assoc]
    split at read
    · rename_i known
      cases read
      exact .inl ⟨_, Item.lookup_placeholders_eq_some_iff.mp known,
        head?_drop_takeWhile Segment.isNameChar source, whole.symm⟩
    · cases read
  · rintro (⟨name, named, ends, rfl⟩ | ⟨text, nonempty, closes, rfl, rfl⟩)
    · have cut := takeWhile_append_of_ends named.isNameChar ends
      have known := Item.lookup_placeholders_eq_some_iff.mpr named
      simp [placeholder, cut, named.ne_nil, Nat.not_lt.mpr named.length_le, named.ne_injectName, known]
    · have cut : (Item.injectName ++ '(' :: (text ++ ')' :: after)).takeWhile Segment.isNameChar =
          Item.injectName :=
        takeWhile_append_of_ends (by simp [Item.injectName, Segment.isNameChar]) (by simp [Segment.isNameChar])
      have read : constant 4 ('(' :: text ++ ')' :: after) = .ok (.inject text, after) :=
        constant_eq_ok_iff.mpr ⟨text, nonempty, closes, rfl, rfl⟩
      rw [List.append_assoc, placeholder]
      simp only [List.cons_append, cut]
      exact read

end Lexeme

end LineTemplates
