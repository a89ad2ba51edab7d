import LineTemplates.Text
import Mathlib.Data.List.TakeWhile

/-! Pieces at the front of a text. A reader takes as many characters of a kind as there are, perhaps up to a limit,
or all of them up to a mark; the lemmas say when such a piece is the one that was put there. -/

namespace LineTemplates

theorem map_eq_ok_iff {ε α β : Type} {f : α → β} {outcome : Except ε α} {value : β} :
    f <$> outcome = .ok value ↔ ∃ inner, outcome = .ok inner ∧ f inner = value := by
  cases outcome <;> simp [Functor.map, Except.map]

theorem map_eq_error_iff {ε α β : Type} {change : α → β} {outcome : Except ε α} {error : ε} :
    outcome.map change = .error error ↔ outcome = .error error := by
  cases outcome <;> simp [Except.map]

namespace Text

variable {test : Char → Bool} {limit : Nat} {text front after : Text}

theorem head?_append_ends (frontEnds : ∀ char ∈ front.head?, test char = false)
    (ends : ∀ char ∈ after.head?, test char = false) : ∀ char ∈ (front ++ after).head?, test char = false := by
  cases front with
  | nil => exact ends
  | cons first rest => exact frontEnds

theorem takeWhile_append_of_ends (inside : ∀ char ∈ front, test char = true)
    (ends : ∀ char ∈ after.head?, test char = false) : (front ++ after).takeWhile test = front := by
  rw [List.takeWhile_append_of_pos inside]
  cases after with
  | nil => simp
  | cons char more => rw [List.takeWhile_cons_of_neg (by simp [ends char rfl]), List.append_nil]

theorem takeWhile_append_drop (test : Char → Bool) (text : Text) :
    text.takeWhile test ++ text.drop (text.takeWhile test).length = text :=
  List.prefix_iff_eq_append.mp (List.takeWhile_prefix test)

theorem head?_drop_takeWhile {α : Type} (test : α → Bool) (list : List α) :
    ∀ item ∈ (list.drop (list.takeWhile test).length).head?, test item = false := by
  induction list with
  | nil => simp
  | cons first rest step =>
    by_cases passes : test first = true
    · rw [List.takeWhile_cons_of_pos passes]
      simpa using step
    · rw [List.takeWhile_cons_of_neg passes]
      simpa using passes

/-- A piece that is full, or that no character of its kind follows, is taken as it stands. -/
theorem takeWhile_take_append (inside : ∀ char ∈ front, test char = true) (short : front.length ≤ limit)
    (ends : front.length < limit → ∀ char ∈ after.head?, test char = false) :
    ((front ++ after).take limit).takeWhile test = front := by
  rw [List.take_append, List.take_of_length_le short]
  apply takeWhile_append_of_ends inside
  rcases Nat.lt_or_eq_of_le short with shorter | full
  · intro char first
    rw [List.head?_take] at first
    split at first
    · cases first
    · exact ends shorter char first
  · simp [full]

theorem takeWhile_take_append_drop (test : Char → Bool) (limit : Nat) (text : Text) :
    (text.take limit).takeWhile test ++ text.drop ((text.take limit).takeWhile test).length = text :=
  List.prefix_iff_eq_append.mp ((List.takeWhile_prefix test).trans (List.take_prefix limit text))

theorem head?_drop_takeWhile_take (short : ((text.take limit).takeWhile test).length < limit) :
    ∀ char ∈ (text.drop ((text.take limit).takeWhile test).length).head?, test char = false := by
  induction text generalizing limit with
  | nil => simp
  | cons first rest step =>
    cases limit with
    | zero => simp at short
    | succ limit =>
      rw [List.take_succ_cons] at short ⊢
      by_cases passes : test first = true
      · rw [List.takeWhile_cons_of_pos passes] at short ⊢
        simpa using step (by simpa using short)
      · rw [List.takeWhile_cons_of_neg passes]
        simpa using passes

theorem cut?_append {mark : Char} (absent : mark ∉ front) (after : Text) :
    cut? mark (front ++ mark :: after) = some (front, after) := by
  induction front with
  | nil => simp [cut?]
  | cons char rest step =>
    rw [List.mem_cons, not_or] at absent
    simp [cut?, Ne.symm absent.1, step absent.2]

theorem utf8Size_pos (filled : text ≠ []) : 0 < utf8Size text := by
  cases text with
  | nil => exact absurd rfl filled
  | cons char rest => exact Nat.add_pos_left char.utf8Size_pos _

def dropBytes? : Nat → Text → Option Text
  | 0, text => some text
  | _ + 1, [] => none
  | bytes + 1, char :: rest =>
    if char.utf8Size ≤ bytes + 1 then dropBytes? (bytes + 1 - char.utf8Size) rest else none

theorem dropBytes?_append (front back : Text) : dropBytes? (utf8Size front) (front ++ back) = some back := by
  induction front with
  | nil => cases back <;> rfl
  | cons char rest step =>
    obtain ⟨bytes, size⟩ := Nat.exists_eq_add_one.mpr (utf8Size_pos (List.cons_ne_nil char rest))
    have fits : char.utf8Size ≤ bytes + 1 := by
      rw [← size, utf8Size_cons]
      exact Nat.le_add_right ..
    rw [size, List.cons_append, dropBytes?, if_pos fits, ← size, utf8Size_cons, Nat.add_sub_cancel_left]
    exact step

theorem withoutEnding_append (tail text : Text) :
    ∃ ending, text = withoutEnding tail text ++ ending ∧ (ending = [] ∨ ending = tail) := by
  by_cases ends : tail.isSuffixOf text = true
  · obtain ⟨front, rfl⟩ := List.isSuffixOf_iff_suffix.mp ends
    exact ⟨tail, by simp [withoutEnding], .inr rfl⟩
  · exact ⟨[], by simp [withoutEnding, ends], .inl rfl⟩

end Text

end LineTemplates
