import LineTemplates.Cursor
import LineTemplates.Proofs.Segment.Canonical

/-! Portions of a line. Whatever an item makes of a line between two places is one of a few kinds of portions, and
the portion's text is what the line loses from the one place to the other. -/

namespace LineTemplates

namespace Cursor

/-- A place that a line has: at most its end, and inside a segment only if that is a run. -/
structure Valid (segments : List Segment) (cursor : Cursor) : Prop where
  segment_le : cursor.segment ≤ segments.length
  inside : cursor.offset ≠ 0 → ∃ text, segments[cursor.segment]? = some (.run text) ∧ cursor.offset < text.length

variable {segments : List Segment} {cursor : Cursor} {segment : Segment}

theorem valid_start (segments : List Segment) : start.Valid segments := ⟨Nat.zero_le _, fun inside => absurd rfl inside⟩

theorem offset_eq_zero (valid : cursor.Valid segments) (here : segments[cursor.segment]? = some segment)
    (noRun : ∀ text, segment ≠ .run text) : cursor.offset = 0 := by
  by_contra inside
  obtain ⟨text, other, _⟩ := valid.inside inside
  exact noRun text (Option.some.inj (here.symm.trans other))

theorem whole?_eq_some_iff :
    cursor.whole? segments = some segment ↔ cursor.offset = 0 ∧ segments[cursor.segment]? = some segment := by
  simp [whole?, segment?]

theorem remaining_whole (segments : List Segment) (index : Nat) :
    remaining segments ⟨index, 0⟩ = Segment.renderAll (segments.drop index) := by
  simp only [remaining]
  split
  · rename_i ended
    rw [ended]
    rfl
  · rename_i first more shape
    rw [shape, Segment.renderFrom_zero]
    rfl

theorem remaining_here {index : Nat} (here : segments[index]? = some segment) (offset : Nat) :
    remaining segments ⟨index, offset⟩ = segment.renderFrom offset ++ remaining segments ⟨index + 1, 0⟩ := by
  obtain ⟨bound, rfl⟩ := List.getElem?_eq_some_iff.mp here
  rw [remaining_whole, remaining]
  simp only [List.drop_eq_getElem_cons bound]
  rfl

end Cursor

/-- What an item makes of a line: the text that it takes from it and the arguments that it gives for that. -/
structure Portion where
  item : Item
  text : Text
  arguments : List Text
deriving DecidableEq, Repr

namespace Item

open Segment (isNameChar quoteMark)

/-- The portions between two places of a line. A literal takes its character from a run or a symbol, never from a
quoted string; `tail` is what may be left off the argument of a rest. -/
inductive Takes (segments : List Segment) (tail : Option Text) : Cursor → Portion → Cursor → Prop
  | insideRun {index offset : Nat} {text : Text} {char : Char} (here : segments[index]? = some (.run text))
      (next : text[offset]? = some char) (short : offset + 1 < text.length) :
      Takes segments tail ⟨index, offset⟩ ⟨.literal char, [char], []⟩ ⟨index, offset + 1⟩
  | endOfRun {index offset : Nat} {text : Text} {char : Char} (here : segments[index]? = some (.run text))
      (next : text[offset]? = some char) (last : offset + 1 = text.length) :
      Takes segments tail ⟨index, offset⟩ ⟨.literal char, [char], []⟩ ⟨index + 1, 0⟩
  | symbol {index : Nat} {char : Char} (here : segments[index]? = some (.symbol char)) :
      Takes segments tail ⟨index, 0⟩ ⟨.literal char, [char], []⟩ ⟨index + 1, 0⟩
  | blanks {index : Nat} {text : Text} (here : text.map Segment.symbol <+: segments.drop index)
      (blank : ∀ char ∈ text, char = ' ' ∨ char = '\t') :
      Takes segments tail ⟨index, 0⟩ ⟨.skipBlanks, text, []⟩ ⟨index + text.length, 0⟩
  | noBlanks {cursor : Cursor} : Takes segments tail cursor ⟨.skipBlanks, [], []⟩ cursor
  | ident {index : Nat} {first : Char} {more : Text} (here : segments[index]? = some (.run (first :: more)))
      (letter : isNameChar first = true) :
      Takes segments tail ⟨index, 0⟩ ⟨.ident, first :: more, [first :: more]⟩ ⟨index + 1, 0⟩
  | run {index : Nat} {text : Text} (here : segments[index]? = some (.run text)) :
      Takes segments tail ⟨index, 0⟩ ⟨.value, text, [text]⟩ ⟨index + 1, 0⟩
  | quoted {index : Nat} {text : Text} (here : segments[index]? = some (.quoted text)) :
      Takes segments tail ⟨index, 0⟩ ⟨.value, quoteMark :: text ++ [quoteMark], [text]⟩ ⟨index + 1, 0⟩
  | inject {cursor : Cursor} {text : Text} : Takes segments tail cursor ⟨.inject text, [], [text]⟩ cursor
  | rest {cursor : Cursor} {argument ending : Text} (more : cursor.segment < segments.length)
      (whole : cursor.remaining segments = argument ++ ending) (trailing : ending = [] ∨ tail = some ending) :
      Takes segments tail cursor ⟨.rest, cursor.remaining segments, [argument]⟩ ⟨segments.length, 0⟩

variable {segments : List Segment} {tail : Option Text} {cursor place : Cursor}

theorem takes_of_literal? {char : Char} (valid : cursor.Valid segments)
    (found : cursor.literal? segments char = some place) :
    Takes segments tail cursor ⟨.literal char, [char], []⟩ place := by
  simp only [Cursor.literal?, Cursor.segment?, Option.bind_eq_bind, Option.bind_eq_some_iff] at found
  obtain ⟨segment, here, found⟩ := found
  cases segment with
  | run text =>
    simp only [Option.bind_eq_some_iff] at found
    obtain ⟨other, next, found⟩ := found
    split at found
    · cases found
    rename_i same
    obtain rfl := not_not.mp same
    obtain ⟨bound, _⟩ := List.getElem?_eq_some_iff.mp next
    by_cases short : cursor.offset + 1 < (Segment.run text).literalLength
    · rw [if_pos short] at found
      cases found
      exact .insideRun here next short
    · rw [if_neg short] at found
      cases found
      exact .endOfRun here next (Nat.le_antisymm bound (Nat.not_lt.mp short))
  | quoted text => simp at found
  | symbol other =>
    obtain ⟨index, offset⟩ := cursor
    obtain rfl : offset = 0 := Cursor.offset_eq_zero valid here nofun
    simp only [Option.bind_some] at found
    split at found
    · cases found
    rename_i same
    obtain rfl := not_not.mp same
    cases found
    exact .symbol here

theorem takeWhile_isBlank (segments : List Segment) :
    ∃ text : Text, segments.takeWhile Segment.isBlank = text.map Segment.symbol ∧
      ∀ char ∈ text, char = ' ' ∨ char = '\t' := by
  induction segments with
  | nil => exact ⟨[], rfl, by simp⟩
  | cons segment more step =>
    by_cases passes : segment.isBlank = true
    · obtain ⟨text, shape, blank⟩ := step
      rw [List.takeWhile_cons_of_pos passes, shape]
      cases segment with
      | symbol char =>
        have blankHere : char = ' ' ∨ char = '\t' := by simpa [Segment.isBlank] using passes
        exact ⟨char :: text, rfl, List.forall_mem_cons.mpr ⟨blankHere, blank⟩⟩
      | _ => cases passes
    · exact ⟨[], by rw [List.takeWhile_cons_of_neg passes]; rfl, by simp⟩

theorem takes_of_skipBlanks :
    ∃ text, Takes segments tail cursor ⟨.skipBlanks, text, []⟩ (cursor.skipBlanks segments) := by
  obtain ⟨index, offset⟩ := cursor
  by_cases whole : offset = 0
  · subst whole
    obtain ⟨text, shape, blank⟩ := takeWhile_isBlank (segments.drop index)
    have begins : text.map Segment.symbol <+: segments.drop index := shape ▸ List.takeWhile_prefix _
    refine ⟨text, ?_⟩
    simp only [Cursor.skipBlanks, if_true, shape, List.length_map]
    exact .blanks begins blank
  · refine ⟨[], ?_⟩
    simp only [Cursor.skipBlanks, whole, if_false]
    exact .noBlanks

/-- An item takes nothing but its portions. -/
theorem takes_of_take {item : Item} {given : List Text} (valid : cursor.Valid segments)
    (taken : item.take segments tail cursor = some (place, given)) :
    ∃ text, Takes segments tail cursor ⟨item, text, given⟩ place := by
  cases item with
  | literal char =>
    simp only [take, Option.map_eq_some_iff, Prod.mk.injEq] at taken
    obtain ⟨_, found, rfl, rfl⟩ := taken
    exact ⟨[char], takes_of_literal? valid found⟩
  | skipBlanks =>
    cases taken
    exact takes_of_skipBlanks
  | ident =>
    obtain ⟨index, offset⟩ := cursor
    simp only [take] at taken
    split at taken
    · rename_i text here
      obtain ⟨rfl, here⟩ := Cursor.whole?_eq_some_iff.mp here
      split at taken
      · rename_i letter
        cases taken
        cases text with
        | nil => cases letter
        | cons first more => exact ⟨first :: more, .ident here (by simpa using letter)⟩
      · cases taken
    · cases taken
  | value =>
    obtain ⟨index, offset⟩ := cursor
    simp only [take] at taken
    split at taken
    · rename_i text here
      obtain ⟨rfl, here⟩ := Cursor.whole?_eq_some_iff.mp here
      cases taken
      exact ⟨text, .run here⟩
    · rename_i text here
      obtain ⟨rfl, here⟩ := Cursor.whole?_eq_some_iff.mp here
      cases taken
      exact ⟨_, .quoted here⟩
    · cases taken
  | rest =>
    simp only [take] at taken
    split at taken
    · cases taken
    · rename_i more
      cases taken
      obtain ⟨ending, whole, trailing⟩ := Text.withoutEnding_append (tail.getD []) (cursor.remaining segments)
      refine ⟨_, .rest (by simpa [Cursor.atEnd] using more) whole ?_⟩
      cases tail with
      | none => exact .inl (trailing.elim id id)
      | some text => exact trailing.imp_right fun same => congrArg some same.symm
  | inject text =>
    cases taken
    exact ⟨[], .inject⟩

/-- The text of a portion is the line between its two places. -/
theorem remaining_of_takes {portion : Portion} (takes : Takes segments tail cursor portion place) :
    cursor.remaining segments = portion.text ++ place.remaining segments := by
  cases takes with
  | insideRun here next short =>
    obtain ⟨bound, standing⟩ := List.getElem?_eq_some_iff.mp next
    rw [Cursor.remaining_here here, Cursor.remaining_here here, Segment.renderFrom,
      List.drop_eq_getElem_cons bound, standing]
    rfl
  | endOfRun here next last =>
    obtain ⟨bound, standing⟩ := List.getElem?_eq_some_iff.mp next
    rw [Cursor.remaining_here here, Segment.renderFrom, List.drop_eq_getElem_cons bound, standing, last,
      List.drop_length]
  | symbol here => exact Cursor.remaining_here here 0
  | @blanks index text here blank =>
    obtain ⟨after, whole⟩ := here
    have texts : Segment.renderAll (text.map Segment.symbol) = text := by
      simp [Segment.renderAll, List.flatMap_map]
    have moved : segments.drop (index + text.length) = after := by
      rw [← List.drop_drop, ← whole]
      simp
    rw [Cursor.remaining_whole, Cursor.remaining_whole, moved, ← whole, Segment.renderAll, List.flatMap_append]
    exact congrArg (· ++ _) texts
  | noBlanks => rfl
  | ident here letter => exact Cursor.remaining_here here 0
  | run here => exact Cursor.remaining_here here 0
  | quoted here => exact Cursor.remaining_here here 0
  | inject => rfl
  | rest more whole trailing => simp [Cursor.remaining_whole]

end Item

end LineTemplates
