import LineTemplates.Proofs.Cursor.Portion

/-! Lines without their blanks. A place where no blank begins has its counterpart on the line without blanks, with the
same segment there; an item that is no skip of blanks and no rest goes from counterpart to counterpart. -/

namespace LineTemplates

namespace Segment

def withoutBlanks (segments : List Segment) : List Segment := segments.filter fun segment => !segment.isBlank

theorem withoutBlanks_append (front back : List Segment) :
    withoutBlanks (front ++ back) = withoutBlanks front ++ withoutBlanks back := List.filter_append ..

theorem isBlank_of_mem_withoutBlanks {segments : List Segment} {segment : Segment}
    (inside : segment ∈ withoutBlanks segments) : segment.isBlank = false := by
  simpa using (List.mem_filter.mp inside).2

theorem drop_withoutBlanks (segments : List Segment) (index : Nat) :
    (withoutBlanks segments).drop (withoutBlanks (segments.take index)).length =
      withoutBlanks (segments.drop index) := by
  have parts := withoutBlanks_append (segments.take index) (segments.drop index)
  rw [List.take_append_drop] at parts
  rw [parts, List.drop_left]

end Segment

namespace Cursor

variable {line : List Segment} {cursor place : Cursor} {segment : Segment}

def withoutBlanks (line : List Segment) (cursor : Cursor) : Cursor :=
  ⟨(Segment.withoutBlanks (line.take cursor.segment)).length, cursor.offset⟩

@[simp]
theorem offset_withoutBlanks (line : List Segment) (cursor : Cursor) :
    (cursor.withoutBlanks line).offset = cursor.offset := rfl

def Settled (line : List Segment) (cursor : Cursor) : Prop :=
  ∀ segment ∈ cursor.segment? line, segment.isBlank = false

theorem segment?_eq_head? (line : List Segment) (cursor : Cursor) :
    cursor.segment? line = (line.drop cursor.segment).head? := by
  rw [segment?, List.head?_drop]

theorem atEnd_eq_isNone (line : List Segment) (cursor : Cursor) :
    cursor.atEnd line = (cursor.segment? line).isNone := by
  rw [Bool.eq_iff_iff, Option.isNone_iff_eq_none, segment?, List.getElem?_eq_none_iff, atEnd, decide_eq_true_iff]

section Settled

variable (settled : cursor.Settled line)

include settled

theorem segment?_withoutBlanks :
    (cursor.withoutBlanks line).segment? (Segment.withoutBlanks line) = cursor.segment? line := by
  unfold Settled at settled
  rw [segment?_eq_head?] at settled ⊢
  rw [segment?_eq_head?, withoutBlanks, Segment.drop_withoutBlanks]
  cases following : line.drop cursor.segment with
  | nil => rfl
  | cons segment more =>
    have plain : segment.isBlank = false := settled segment (by rw [following]; rfl)
    rw [Segment.withoutBlanks, List.filter_cons_of_pos (by simp [plain])]
    rfl

theorem atEnd_withoutBlanks :
    (cursor.withoutBlanks line).atEnd (Segment.withoutBlanks line) = cursor.atEnd line := by
  rw [atEnd_eq_isNone, atEnd_eq_isNone, segment?_withoutBlanks settled]

theorem whole?_withoutBlanks :
    (cursor.withoutBlanks line).whole? (Segment.withoutBlanks line) = cursor.whole? line := by
  rw [whole?, whole?, segment?_withoutBlanks settled]
  rfl

theorem nextSegment_withoutBlanks (here : cursor.segment? line = some segment) :
    (cursor.withoutBlanks line).nextSegment = cursor.nextSegment.withoutBlanks line := by
  have plain : segment.isBlank = false := settled segment here
  have front : line.take (cursor.segment + 1) = line.take cursor.segment ++ [segment] := by
    rw [List.take_add_one]
    change _ ++ (cursor.segment? line).toList = _
    rw [here]
    rfl
  rw [nextSegment, nextSegment, withoutBlanks, withoutBlanks, front, Segment.withoutBlanks_append, List.length_append]
  simp [Segment.withoutBlanks, plain]

theorem literal?_withoutBlanks (char : Char) :
    (cursor.withoutBlanks line).literal? (Segment.withoutBlanks line) char =
      (cursor.literal? line char).map (withoutBlanks line) := by
  rw [literal?, literal?, segment?_withoutBlanks settled]
  cases here : cursor.segment? line with
  | none => rfl
  | some segment =>
    have next := nextSegment_withoutBlanks settled here
    have inside : (⟨(cursor.withoutBlanks line).segment, cursor.offset + 1⟩ : Cursor) =
        withoutBlanks line ⟨cursor.segment, cursor.offset + 1⟩ := rfl
    cases segment with
    | quoted text => rfl
    | symbol symbol => simp [apply_ite (Option.map (withoutBlanks line)), next, inside]
    | run text =>
      cases standing : text[cursor.offset]? with
      | none => simp [standing]
      | some found => simp [standing, apply_ite (Option.map (withoutBlanks line)), next, inside]

end Settled

theorem settled_skipBlanks_of_whole (whole : cursor.offset = 0) : (cursor.skipBlanks line).Settled line := by
  intro segment here
  rw [skipBlanks, if_pos whole, segment?_eq_head?, ← List.drop_drop] at here
  exact Text.head?_drop_takeWhile Segment.isBlank (line.drop cursor.segment) segment here

theorem settled_skipBlanks (valid : cursor.Valid line) : (cursor.skipBlanks line).Settled line := by
  by_cases whole : cursor.offset = 0
  · exact settled_skipBlanks_of_whole whole
  · obtain ⟨text, run, _⟩ := valid.inside whole
    intro segment here
    rw [skipBlanks, if_neg whole, segment?, run] at here
    cases here
    rfl

theorem skipBlanks_of_settled (settled : cursor.Settled line) : cursor.skipBlanks line = cursor := by
  by_cases whole : cursor.offset = 0
  · have nothing : (line.drop cursor.segment).takeWhile Segment.isBlank = [] := by
      unfold Settled at settled
      rw [segment?_eq_head?] at settled
      cases following : line.drop cursor.segment with
      | nil => rfl
      | cons segment more =>
        have plain : segment.isBlank = false := settled segment (by rw [following]; rfl)
        rw [List.takeWhile_cons_of_neg (by simp [plain])]
    rw [skipBlanks, if_pos whole, nothing, ← whole]
    rfl
  · rw [skipBlanks, if_neg whole]

theorem skipBlanks_skipBlanks (line : List Segment) (cursor : Cursor) :
    (cursor.skipBlanks line).skipBlanks line = cursor.skipBlanks line := by
  by_cases whole : cursor.offset = 0
  · exact skipBlanks_of_settled (settled_skipBlanks_of_whole whole)
  · simp [skipBlanks, whole]

theorem settled_of_withoutBlanks (line : List Segment) (cursor : Cursor) :
    cursor.Settled (Segment.withoutBlanks line) :=
  fun _ here => Segment.isBlank_of_mem_withoutBlanks (List.mem_of_getElem? here)

theorem withoutBlanks_skipBlanks (line : List Segment) (cursor : Cursor) :
    (cursor.skipBlanks line).withoutBlanks line = cursor.withoutBlanks line := by
  by_cases whole : cursor.offset = 0
  · have blanks : Segment.withoutBlanks ((line.drop cursor.segment).takeWhile Segment.isBlank) = [] := by
      apply List.filter_eq_nil_iff.mpr
      intro segment inside
      simp [List.mem_takeWhile_imp inside]
    have skipped := List.prefix_iff_eq_take.mp (List.takeWhile_prefix Segment.isBlank (l := line.drop cursor.segment))
    rw [skipBlanks, if_pos whole, withoutBlanks, withoutBlanks, List.take_add, ← skipped, Segment.withoutBlanks_append,
      blanks, List.append_nil, whole]
  · rw [skipBlanks, if_neg whole]

end Cursor

namespace Item

variable {line : List Segment} {cursor : Cursor}

/-- An item makes the same of both lines, at a place where no blank begins or where it skips them. -/
theorem take_withoutBlanks {item : Item} (begun : cursor.Settled line ∨ item = .skipBlanks) (goesOn : item ≠ .rest)
    (tail : Option Text) :
    item.take (Segment.withoutBlanks line) tail (cursor.withoutBlanks line) =
      (item.take line tail cursor).map fun taken => (taken.1.withoutBlanks line, taken.2) := by
  have next {segment : Segment} (here : cursor.whole? line = some segment) (settled : cursor.Settled line) :=
    Cursor.nextSegment_withoutBlanks settled (Cursor.whole?_eq_some_iff.mp here).2
  cases item with
  | literal char =>
    have settled : cursor.Settled line := begun.resolve_right (by simp)
    rw [take, take, Cursor.literal?_withoutBlanks settled, Option.map_map, Option.map_map]
    rfl
  | skipBlanks =>
    have still := Cursor.skipBlanks_of_settled (Cursor.settled_of_withoutBlanks line (cursor.withoutBlanks line))
    rw [take, take, still, Option.map_some, Cursor.withoutBlanks_skipBlanks]
  | ident =>
    have settled : cursor.Settled line := begun.resolve_right (by simp)
    rw [take, take, Cursor.whole?_withoutBlanks settled]
    cases here : cursor.whole? line with
    | none => rfl
    | some segment =>
      cases segment with
      | run text =>
        dsimp only
        rw [apply_ite (Option.map _), next here settled]
        rfl
      | _ => rfl
  | value =>
    have settled : cursor.Settled line := begun.resolve_right (by simp)
    rw [take, take, Cursor.whole?_withoutBlanks settled]
    cases here : cursor.whole? line with
    | none => rfl
    | some segment =>
      have moved := next here settled
      cases segment with
      | run text => exact congrArg (fun place => some (place, [text])) moved
      | quoted text => exact congrArg (fun place => some (place, [text])) moved
      | symbol char => rfl
  | rest => exact absurd rfl goesOn
  | inject text => rfl

end Item

end LineTemplates
