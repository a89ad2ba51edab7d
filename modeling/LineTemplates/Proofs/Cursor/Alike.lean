import LineTemplates.Proofs.Cursor.Portion
import Mathlib.Data.List.Forall2

/-! Lines that differ between quotes only. Every item goes the same way on both lines, and what it gives is the same
except for the strings that stand between the quotes and for what a rest finds left. -/

namespace LineTemplates

namespace Segment

inductive Alike : Segment → Segment → Prop
  | same (segment : Segment) : Alike segment segment
  | quoted (text other : Text) : Alike (quoted text) (quoted other)

theorem Alike.isBlank_eq {segment other : Segment} (alike : Alike segment other) : segment.isBlank = other.isBlank := by
  cases alike <;> rfl

theorem getElem?_alike {segments others : List Segment} (alike : List.Forall₂ Alike segments others) (index : Nat) :
    segments[index]? = others[index]? ∨
      ∃ text other, segments[index]? = some (.quoted text) ∧ others[index]? = some (.quoted other) := by
  induction alike generalizing index with
  | nil => exact .inl rfl
  | cons first _ step =>
    cases index with
    | succ index => exact step index
    | zero =>
      cases first with
      | same segment => exact .inl rfl
      | quoted text other => exact .inr ⟨text, other, rfl, rfl⟩

theorem length_takeWhile_isBlank {segments others : List Segment} (alike : List.Forall₂ Alike segments others) :
    (segments.takeWhile isBlank).length = (others.takeWhile isBlank).length := by
  induction alike with
  | nil => rfl
  | @cons segment other _ _ first _ step =>
    by_cases blank : segment.isBlank = true
    · have otherBlank : other.isBlank = true := first.isBlank_eq ▸ blank
      rw [List.takeWhile_cons_of_pos blank, List.takeWhile_cons_of_pos otherBlank, List.length_cons, List.length_cons,
        step]
    · have otherPlain : ¬ other.isBlank = true := first.isBlank_eq ▸ blank
      rw [List.takeWhile_cons_of_neg blank, List.takeWhile_cons_of_neg otherPlain]

end Segment

namespace Cursor

open Segment (Alike)

variable {segments others : List Segment} (alike : List.Forall₂ Alike segments others) (cursor : Cursor)

include alike

theorem atEnd_alike : cursor.atEnd segments = cursor.atEnd others := by
  rw [atEnd, atEnd, alike.length_eq]

theorem skipBlanks_alike : cursor.skipBlanks segments = cursor.skipBlanks others := by
  have blanks := Segment.length_takeWhile_isBlank (List.forall₂_drop cursor.segment alike)
  rw [skipBlanks, skipBlanks, blanks]

theorem valid_alike (valid : cursor.Valid segments) : cursor.Valid others := by
  refine ⟨alike.length_eq ▸ valid.segment_le, ?_⟩
  intro moved
  obtain ⟨text, here, short⟩ := valid.inside moved
  refine ⟨text, ?_, short⟩
  rcases Segment.getElem?_alike alike cursor.segment with same | ⟨_, _, quoted, _⟩
  · rw [← same, here]
  · rw [here] at quoted
    cases quoted

theorem whole?_alike :
    cursor.whole? segments = cursor.whole? others ∨
      ∃ text other, cursor.whole? segments = some (.quoted text) ∧ cursor.whole? others = some (.quoted other) := by
  unfold whole?
  split
  · exact Segment.getElem?_alike alike cursor.segment
  · exact .inl rfl

theorem literal?_alike (char : Char) : cursor.literal? segments char = cursor.literal? others char := by
  unfold literal? segment?
  rcases Segment.getElem?_alike alike cursor.segment with same | ⟨text, other, here, there⟩
  · rw [same]
  · rw [here, there]
    rfl

end Cursor

structure Capture where
  item : Item
  argument : Text
deriving DecidableEq, Repr

namespace Capture

/-- Captures at the same position of two matches. They are the same, unless a value has captured quoted strings that
stand at one place of the lines, or a rest what was left of them. -/
inductive Agrees (segments others : List Segment) : Capture → Capture → Prop
  | same (capture : Capture) : Agrees segments others capture capture
  | quoted {index : Nat} {text other : Text} (here : segments[index]? = some (.quoted text))
      (there : others[index]? = some (.quoted other)) : Agrees segments others ⟨.value, text⟩ ⟨.value, other⟩
  | rest (text other : Text) : Agrees segments others ⟨.rest, text⟩ ⟨.rest, other⟩

theorem agrees_self (segments others : List Segment) (captures : List Capture) :
    List.Forall₂ (Agrees segments others) captures captures :=
  List.forall₂_same.mpr fun capture _ => .same capture

end Capture

namespace Item

open Segment (Alike)

variable {segments others : List Segment}

def TakenAlike (segments others : List Segment) (item : Item) (taken other : Cursor × List Text) : Prop :=
  taken.1 = other.1 ∧
    List.Forall₂ (Capture.Agrees segments others) (taken.2.map (Capture.mk item)) (other.2.map (Capture.mk item))

theorem takenAlike_self (item : Item) (result : Option (Cursor × List Text)) :
    Option.Rel (TakenAlike segments others item) result result := by
  cases result with
  | none => exact .none
  | some taken => exact .some ⟨rfl, Capture.agrees_self ..⟩

/-- An item goes the same way on two alike lines. -/
theorem take_alike (alike : List.Forall₂ Alike segments others) (item : Item) (tail : Option Text) (cursor : Cursor) :
    Option.Rel (TakenAlike segments others item) (item.take segments tail cursor) (item.take others tail cursor) := by
  cases item with
  | literal char =>
    rw [take, take, Cursor.literal?_alike alike]
    exact takenAlike_self ..
  | skipBlanks =>
    rw [take, take, Cursor.skipBlanks_alike alike]
    exact takenAlike_self ..
  | ident =>
    rw [take, take]
    rcases Cursor.whole?_alike alike cursor with same | ⟨text, other, here, there⟩
    · rw [same]
      exact takenAlike_self ..
    · rw [here, there]
      exact .none
  | value =>
    rw [take, take]
    rcases Cursor.whole?_alike alike cursor with same | ⟨text, other, here, there⟩
    · rw [same]
      exact takenAlike_self ..
    · rw [here, there]
      have standing := (Cursor.whole?_eq_some_iff.mp here).2
      have otherStanding := (Cursor.whole?_eq_some_iff.mp there).2
      exact .some ⟨rfl, .cons (.quoted standing otherStanding) .nil⟩
  | rest =>
    rw [take, take, Cursor.atEnd_alike alike, alike.length_eq]
    split
    · exact .none
    · exact .some ⟨rfl, .cons (.rest ..) .nil⟩
  | inject text => exact takenAlike_self ..

end Item

end LineTemplates
