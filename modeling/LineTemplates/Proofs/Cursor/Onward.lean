import LineTemplates.Proofs.Cursor.Portion
import LineTemplates.Pattern.Evaluation
import LineTemplates.Walk

/-! Places ahead. A line leaves room for so many moves and no more; an item leads to a valid place, and each time
that the place is a new one some of the room is used up. -/

namespace LineTemplates

namespace Cursor

def left (segments : List Segment) (cursor : Cursor) : Nat := Walk.room (segments.drop cursor.segment) - cursor.offset

structure Onward (segments : List Segment) (cursor place : Cursor) : Prop where
  valid : place.Valid segments
  ahead : place = cursor ∨ place.left segments < cursor.left segments

variable {segments : List Segment} {cursor place : Cursor} {segment : Segment}

theorem Onward.refl (valid : cursor.Valid segments) : Onward segments cursor cursor := ⟨valid, .inl rfl⟩

theorem Onward.trans {first second third : Cursor} (before : Onward segments first second)
    (after : Onward segments second third) : Onward segments first third := by
  refine ⟨after.valid, ?_⟩
  rcases before.ahead with rfl | shorter
  · exact after.ahead
  · rcases after.ahead with rfl | shorterStill
    · exact .inr shorter
    · exact .inr (Nat.lt_trans shorterStill shorter)

theorem Onward.left_lt (onward : Onward segments cursor place) (moved : place ≠ cursor) :
    place.left segments < cursor.left segments := onward.ahead.resolve_left moved

theorem room_drop {index : Nat} (here : segments[index]? = some segment) :
    Walk.room (segments.drop index) = max 1 segment.literalLength + Walk.room (segments.drop (index + 1)) := by
  obtain ⟨bound, rfl⟩ := List.getElem?_eq_some_iff.mp here
  rw [List.drop_eq_getElem_cons bound]
  rfl

theorem room_append (front back : List Segment) :
    Walk.room (front ++ back) = Walk.room front + Walk.room back := by
  induction front with
  | nil => simp [Walk.room]
  | cons segment more step =>
    simp only [Walk.room, List.cons_append, List.foldr_cons] at step ⊢
    omega

theorem length_le_room (segments : List Segment) : segments.length ≤ Walk.room segments := by
  induction segments with
  | nil => simp
  | cons segment more step =>
    simp only [Walk.room, List.foldr_cons, List.length_cons] at step ⊢
    omega

theorem left_le_room (segments : List Segment) (cursor : Cursor) : cursor.left segments ≤ Walk.room segments := by
  have parts := room_append (segments.take cursor.segment) (segments.drop cursor.segment)
  rw [List.take_append_drop] at parts
  rw [left]
  omega

theorem room_lt_moves (segments : List Segment) : Walk.room segments < Pattern.moves segments := by
  induction segments with
  | nil => decide
  | cons segment more step =>
    simp only [Walk.room, Pattern.moves, List.foldr_cons] at step ⊢
    omega

theorem offset_lt (valid : cursor.Valid segments) (here : segments[cursor.segment]? = some segment) :
    cursor.offset < max 1 segment.literalLength := by
  by_cases whole : cursor.offset = 0
  · omega
  · obtain ⟨text, same, short⟩ := valid.inside whole
    obtain rfl : segment = .run text := Option.some.inj (here.symm.trans same)
    exact Nat.lt_of_lt_of_le short (Nat.le_max_right ..)

theorem valid_whole {index : Nat} (bound : index ≤ segments.length) : Valid segments ⟨index, 0⟩ :=
  ⟨bound, fun inside => absurd rfl inside⟩

theorem onward_nextSegment (valid : cursor.Valid segments) (here : segments[cursor.segment]? = some segment) :
    Onward segments cursor ⟨cursor.segment + 1, 0⟩ := by
  obtain ⟨bound, _⟩ := List.getElem?_eq_some_iff.mp here
  refine ⟨valid_whole bound, .inr ?_⟩
  have inside := offset_lt valid here
  have parts := room_drop here
  simp only [left]
  omega

theorem onward_blanks {index count : Nat} (bound : index + count ≤ segments.length) :
    Onward segments ⟨index, 0⟩ ⟨index + count, 0⟩ := by
  refine ⟨valid_whole bound, ?_⟩
  cases count with
  | zero => exact .inl rfl
  | succ count =>
    right
    have parts := room_append ((segments.drop index).take (count + 1)) ((segments.drop index).drop (count + 1))
    rw [List.take_append_drop, List.drop_drop] at parts
    have positive := length_le_room ((segments.drop index).take (count + 1))
    rw [List.length_take, List.length_drop] at positive
    simp only [left]
    omega

theorem onward_end (valid : cursor.Valid segments) (more : cursor.segment < segments.length) :
    Onward segments cursor ⟨segments.length, 0⟩ := by
  refine ⟨valid_whole (Nat.le_refl _), .inr ?_⟩
  have here := List.getElem?_eq_getElem more
  have parts := room_drop here
  have inside := offset_lt valid here
  have atEnd : left segments ⟨segments.length, 0⟩ = 0 := by simp [left, Walk.room]
  rw [atEnd, left]
  omega

/-- Every portion leads onward. -/
theorem onward_of_takes {tail : Option Text} {portion : Portion} (valid : cursor.Valid segments)
    (takes : Item.Takes segments tail cursor portion place) : Onward segments cursor place := by
  cases takes with
  | insideRun here next short =>
    obtain ⟨bound, _⟩ := List.getElem?_eq_some_iff.mp here
    refine ⟨⟨bound.le, fun _ => ⟨_, here, short⟩⟩, .inr ?_⟩
    have parts := room_drop here
    simp only [left, Segment.literalLength] at parts ⊢
    omega
  | endOfRun here next last => exact onward_nextSegment valid here
  | symbol here => exact onward_nextSegment valid here
  | @blanks index text here blank =>
    have bound := here.length_le
    rw [List.length_map, List.length_drop] at bound
    have begun : index ≤ segments.length := valid.segment_le
    exact onward_blanks (by omega)
  | noBlanks => exact .refl valid
  | ident here letter => exact onward_nextSegment valid here
  | run here => exact onward_nextSegment valid here
  | quoted here => exact onward_nextSegment valid here
  | inject => exact .refl valid
  | rest more whole trailing => exact onward_end valid more

instance : LE Cursor where
  le first second := first.segment < second.segment ∨ first.segment = second.segment ∧ first.offset ≤ second.offset

theorem le_iff {first second : Cursor} :
    first ≤ second ↔ first.segment < second.segment ∨ first.segment = second.segment ∧ first.offset ≤ second.offset :=
  Iff.rfl

protected theorem le_refl (cursor : Cursor) : cursor ≤ cursor := .inr ⟨rfl, Nat.le_refl _⟩

protected theorem le_trans {first second third : Cursor} (before : first ≤ second) (after : second ≤ third) :
    first ≤ third := by
  rw [le_iff] at before after ⊢
  omega

theorem le_of_takes {tail : Option Text} {portion : Portion}
    (takes : Item.Takes segments tail cursor portion place) : cursor ≤ place := by
  cases takes with
  | noBlanks => exact Cursor.le_refl _
  | inject => exact Cursor.le_refl _
  | rest more whole trailing => exact .inl more
  | _ =>
    rw [le_iff]
    dsimp only
    omega

theorem le_of_take {item : Item} {tail : Option Text} {given : List Text} (valid : cursor.Valid segments)
    (taken : item.take segments tail cursor = some (place, given)) : cursor ≤ place := by
  obtain ⟨text, takes⟩ := Item.takes_of_take valid taken
  exact le_of_takes takes

theorem onward_of_take {item : Item} {tail : Option Text} {given : List Text} (valid : cursor.Valid segments)
    (taken : item.take segments tail cursor = some (place, given)) : Onward segments cursor place := by
  obtain ⟨text, takes⟩ := Item.takes_of_take valid taken
  exact onward_of_takes valid takes

end Cursor

end LineTemplates
