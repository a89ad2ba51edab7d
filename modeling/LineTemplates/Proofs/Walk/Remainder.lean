import LineTemplates.Proofs.Walk.Refinement

/-! What a rest takes. The pattern in front of it decides alone whether the line matches and from which place the rest
takes over; what follows it can do no more than cut its own characters off the end of the argument. -/

namespace LineTemplates

namespace Cursor

def position (segments : List Segment) (cursor : Cursor) : Nat :=
  (Segment.renderAll (segments.take cursor.segment)).length + cursor.offset

theorem remaining_eq_drop {segments : List Segment} {cursor : Cursor} (valid : cursor.Valid segments) :
    cursor.remaining segments = (Segment.renderAll segments).drop (cursor.position segments) := by
  obtain ⟨index, offset⟩ := cursor
  have parts : Segment.renderAll segments =
      Segment.renderAll (segments.take index) ++ Segment.renderAll (segments.drop index) := by
    rw [Segment.renderAll, Segment.renderAll, Segment.renderAll, ← List.flatMap_append, List.take_append_drop]
  have whole : (Segment.renderAll segments).drop (position segments ⟨index, offset⟩) =
      (remaining segments ⟨index, 0⟩).drop offset := by
    rw [parts, position, List.drop_length_add_append, remaining_whole]
  rw [whole]
  by_cases start : offset = 0
  · rw [start, List.drop_zero]
  · obtain ⟨text, here, short⟩ := valid.inside start
    rw [remaining_here here offset, remaining_here here 0, Segment.renderFrom_zero, Segment.render_run,
      Segment.renderFrom, List.drop_append_of_le_length short.le]

end Cursor

namespace Evaluation

theorem andThen_andThen (first second : Cursor → Evaluation) (outcome : Evaluation) :
    (outcome.andThen first).andThen second = outcome.andThen fun place => (first place).andThen second := by
  cases outcome with
  | reached place arguments => exact andThen_after second arguments (first place)
  | _ => rfl

theorem iterate_ne_finished {body : Cursor → Evaluation}
    (goesOn : ∀ cursor arguments, body cursor ≠ .finished arguments) (limit : Nat) :
    ∀ cursor arguments, iterate body limit cursor ≠ .finished arguments := by
  induction limit with
  | zero => nofun
  | succ limit step =>
    intro cursor arguments ended
    rw [iterate] at ended
    split at ended
    · cases ended
    · rename_i inner
      exact goesOn cursor _ inner
    · split at ended
      · cases ended
      · obtain ⟨more, inner, _⟩ := after_eq_finished ended.symm
        exact step _ _ inner

end Evaluation

namespace Pattern

open Evaluation

def items : Pattern → List Item
  | done => []
  | item head next => head :: next.items
  | group _ body next => body.items ++ next.items

def ofLiterals : Text → Pattern
  | [] => done
  | char :: rest => item (.literal char) (ofLiterals rest)

theorem literals?_eq_some_iff {pattern : Pattern} {text : Text} :
    pattern.literals? = some text ↔ pattern = ofLiterals text := by
  constructor
  · intro found
    fun_induction literals? pattern generalizing text with
    | case1 =>
      cases found
      rfl
    | case2 char next step =>
      obtain ⟨rest, later, rfl⟩ := Option.map_eq_some_iff.mp found
      rw [step later, ofLiterals]
    | case3 => cases found
  · rintro rfl
    induction text with
    | nil => rfl
    | cons char rest step => rw [ofLiterals, literals?, step, Option.map_eq_map, Option.map_some]

variable {line : List Segment} {before pattern : Pattern}

theorem evaluate_ne_finished (restFree : Item.rest ∉ pattern.items) :
    ∀ cursor arguments, pattern.evaluate line cursor ≠ .finished arguments := by
  induction pattern with
  | done => nofun
  | item head next step =>
    intro cursor arguments ended
    simp only [items, List.mem_cons, not_or] at restFree
    rw [evaluate] at ended
    split at ended
    · cases ended
    · rw [if_neg (Ne.symm restFree.1)] at ended
      obtain ⟨more, inner, _⟩ := after_eq_finished ended.symm
      exact step restFree.2 _ _ inner
  | group kind body next bodyStep step =>
    intro cursor arguments ended
    simp only [items, List.mem_append, not_or] at restFree
    rw [evaluate_eq_andThen] at ended
    have goesOn := iterate_ne_finished (bodyStep restFree.1) (rounds line kind) cursor
    cases result : iterate (body.evaluate line) (rounds line kind) cursor with
    | failed =>
      rw [result] at ended
      cases ended
    | finished given => exact goesOn given result
    | reached place given =>
      rw [result] at ended
      obtain ⟨more, inner, _⟩ := after_eq_finished ended.symm
      exact step restFree.2 _ _ inner

/-- A pattern in front of another one does what it does alone, and the other goes on where it has led. -/
theorem evaluate_append (restFree : Item.rest ∉ before.items) (after : Pattern) (cursor : Cursor) :
    (before ++ after).evaluate line cursor = (before.evaluate line cursor).andThen (after.evaluate line) := by
  induction before generalizing cursor with
  | done => exact (after_nil _).symm
  | item head next step =>
    simp only [items, List.mem_cons, not_or] at restFree
    have goesOn : head ≠ .rest := Ne.symm restFree.1
    have shape : item head next ++ after = item head (next ++ after) := rfl
    rw [shape, evaluate, evaluate, Walk.take_tail goesOn _ next.tail?]
    cases head.take line next.tail? cursor with
    | none => rfl
    | some found =>
      obtain ⟨place, given⟩ := found
      dsimp only
      rw [if_neg goesOn, if_neg goesOn, step restFree.2, andThen_after]
  | group kind body next bodyStep step =>
    simp only [items, List.mem_append, not_or] at restFree
    have shape : group kind body next ++ after = group kind body (next ++ after) := rfl
    rw [shape, evaluate_eq_andThen, evaluate_eq_andThen, andThen_andThen]
    congr 1
    funext place
    exact step restFree.2 place

theorem evaluate_rest (after : Pattern) (cursor : Cursor) :
    (item .rest after).evaluate line cursor = if cursor.atEnd line then .failed
      else .finished [Text.withoutEnding (after.tail?.getD []) (cursor.remaining line)] := by
  rw [evaluate, Item.take]
  by_cases ended : cursor.atEnd line = true
  · rw [if_pos ended, if_pos ended]
  · rw [if_neg ended, if_neg ended]
    rfl

/-- The pattern in front of a rest leads to the place where the rest takes over, or the match has failed. -/
theorem evaluate_before_rest (restFree : Item.rest ∉ before.items) (after : Pattern) (cursor : Cursor) :
    (before ++ item .rest after).evaluate line cursor =
      match before.evaluate line cursor with
      | .reached place given =>
        if place.atEnd line then .failed
        else .finished (given ++ [Text.withoutEnding (after.tail?.getD []) (place.remaining line)])
      | _ => .failed := by
  rw [evaluate_append restFree]
  cases outcome : before.evaluate line cursor with
  | failed => rfl
  | finished given => exact absurd outcome (evaluate_ne_finished restFree _ _)
  | reached place given =>
    rw [Evaluation.andThen, evaluate_rest]
    dsimp only
    split
    · rfl
    · rfl

theorem tail?_eq_literals? {after : Pattern} (apart : ∀ kind body next, after ≠ .group kind body next) :
    after.tail? = after.literals? := by
  cases after with
  | group kind body next => exact absurd rfl (apart kind body next)
  | _ => rfl

/-- What is given for the text that a rest takes: if nothing but literals follows the rest, and the text ends with them,
the text without them; otherwise the whole text. -/
inductive Trimmed (after : Pattern) (text : Text) : Text → Prop
  | cut {last ending : Text} (literals : after = ofLiterals ending) (ends : text = last ++ ending) :
      Trimmed after text last
  | whole (other : ∀ last ending, after = ofLiterals ending → text ≠ last ++ ending) : Trimmed after text text

theorem trimmed_withoutEnding (after : Pattern) (text : Text) :
    Trimmed after text (Text.withoutEnding (after.literals?.getD []) text) := by
  cases tail : after.literals? with
  | none =>
    have kept : Text.withoutEnding [] text = text := by simp [Text.withoutEnding]
    rw [Option.getD_none, kept]
    apply Trimmed.whole
    intro last ending literals
    rw [← literals?_eq_some_iff, tail] at literals
    cases literals
  | some ending =>
    have literals := literals?_eq_some_iff.mp tail
    rw [Option.getD_some]
    by_cases ends : ending <:+ text
    · obtain ⟨last, rfl⟩ := ends
      apply Trimmed.cut literals
      simp [Text.withoutEnding]
    · have kept : Text.withoutEnding ending text = text := by
        rw [Text.withoutEnding, if_neg (mt List.isSuffixOf_iff_suffix.mp ends)]
      rw [kept]
      apply Trimmed.whole
      rintro last other same rfl
      have found := literals?_eq_some_iff.mpr same
      rw [tail] at found
      cases found
      exact ends (List.suffix_append ..)

end Pattern

namespace Template

open Pattern (Spelling Runs Trimmed)

section Rest

variable {segments : List Segment} {before after : Pattern}

/-- The template of a pattern with a rest goes on from where the pattern in front of the rest has led. -/
theorem match?_of_reached (name source : Text) (restFree : Item.rest ∉ before.items)
    (apart : ∀ kind body next, after ≠ .group kind body next) {place : Cursor} {given : List Text}
    (reached : before.evaluate segments .start = .reached place given) (more : place.segment < segments.length) :
    (ofPattern name source (before ++ Pattern.item .rest after)).match? segments =
      some (given ++ [Text.withoutEnding (after.literals?.getD []) (place.remaining segments)]) := by
  have left : ¬ place.atEnd segments = true := by simpa [Cursor.atEnd] using more
  rw [match?_ofPattern, Pattern.evaluate_before_rest restFree, reached, ← Pattern.tail?_eq_literals? apart]
  dsimp only
  rw [if_neg left]
  rfl

theorem exists_reached_of_match? {name source : Text} {arguments : List Text} (restFree : Item.rest ∉ before.items)
    (matched : (ofPattern name source (before ++ Pattern.item .rest after)).match? segments = some arguments) :
    ∃ place given, before.evaluate segments .start = .reached place given ∧ place.segment < segments.length := by
  rw [match?_ofPattern, Pattern.evaluate_before_rest restFree] at matched
  split at matched
  · rename_i place given reached
    refine ⟨place, given, reached, ?_⟩
    by_contra ended
    have atEnd : place.atEnd segments = true := by simpa [Cursor.atEnd] using ended
    rw [if_pos atEnd] at matched
    cases matched
  · cases matched

end Rest

/-- A pattern with a rest matches a line just if what stands in front of the rest leads to a place of the line where a
segment is left. The arguments given so far and the line from that place on make up the arguments of the match; what
stands behind the rest is of account only for cutting off its own characters. -/
theorem rest_takes_remainder {name source line : Text} {template : Template} {segments : List Segment}
    {before after : Pattern} (spelled : Spelling (before ++ Pattern.item .rest after) source)
    (compiled : compile name source = .ok template) (tokenized : Segment.tokenize line = .ok segments)
    (restFree : Item.rest ∉ before.items) (apart : ∀ kind body next, after ≠ .group kind body next) :
    ((∃ arguments, template.match? segments = some arguments) ↔
      ∃ place given, Runs segments before .start [] (.reached place given) ∧ place.segment < segments.length) ∧
    ∀ place given, Runs segments before .start [] (.reached place given) → place.segment < segments.length →
      ∃ last, template.match? segments = some (given ++ [last]) ∧
        Trimmed after (line.drop (place.position segments)) last := by
  obtain rfl := Except.ok.inj (compiled.symm.trans (compile_of_spelling name spelled))
  obtain ⟨_, rfl⟩ := Segment.canonical_of_tokenizeFrom tokenized
  have begun := Cursor.valid_start segments
  have runs_iff (outcome : Evaluation) :
      Runs segments before .start [] outcome ↔ outcome = before.evaluate segments .start := by
    rw [Pattern.runs_iff begun, Evaluation.after_nil]
  have found : ∀ place given, Runs segments before .start [] (.reached place given) →
      place.segment < segments.length → ∃ last,
        (ofPattern name source (before ++ Pattern.item .rest after)).match? segments = some (given ++ [last]) ∧
          Trimmed after ((Segment.renderAll segments).drop (place.position segments)) last := by
    intro place given runs more
    have reached := (runs_iff _).mp runs
    have valid := (Pattern.leadsOn_evaluate segments before begun reached.symm).valid
    rw [← Cursor.remaining_eq_drop valid]
    exact ⟨_, match?_of_reached name source restFree apart reached.symm more, Pattern.trimmed_withoutEnding after _⟩
  refine ⟨⟨?_, ?_⟩, found⟩
  · rintro ⟨arguments, matched⟩
    obtain ⟨place, given, reached, more⟩ := exists_reached_of_match? restFree matched
    exact ⟨place, given, (runs_iff _).mpr reached.symm, more⟩
  · rintro ⟨place, given, runs, more⟩
    obtain ⟨last, matched, _⟩ := found place given runs more
    exact ⟨_, matched⟩

theorem rest_takes_remainder_inside_run :
    let source : Text := ['a', '$', 'r', 'e', 's', 't', ')']
    let before : Pattern := .item (.literal 'a') .done
    let after : Pattern := .item (.literal ')') .done
    let template := ofPattern [] source (before ++ Pattern.item .rest after)
    let line : Text := ['a', 'b', '"', 'c', '"', ')']
    let segments : List Segment := [.run ['a', 'b'], .quoted ['c'], .symbol ')']
    Spelling (before ++ Pattern.item .rest after) source ∧ compile [] source = .ok template ∧
      Segment.tokenize line = .ok segments ∧ Item.rest ∉ before.items ∧
      (∀ kind body next, after ≠ .group kind body next) ∧
      Runs segments before .start [] (.reached ⟨0, 1⟩ []) ∧
      template.match? segments = some [['b', '"', 'c', '"']] := by
  intro source before after template line segments
  have spelled : Spelling (before ++ Pattern.item .rest after) source :=
    .literal (by decide) (.placeholder .rest (by simp [Segment.isNameChar]) (.literal (by decide) .done))
  have compiled : compile [] source = .ok template := compile_of_spelling [] spelled
  have canonical : Segment.Canonical segments := by
    simp [segments, Segment.canonical_cons, Segment.canonical_nil, Segment.WellFormed, Segment.MayPrecede,
      Segment.ValueChar]
  have tokenized : Segment.tokenize line = .ok segments := Segment.tokenizeFrom_renderAll canonical 0
  have restFree : Item.rest ∉ before.items := by decide
  have apart : ∀ kind body next, after ≠ .group kind body next := by simp [after]
  have runs : Runs segments before .start [] (.reached ⟨0, 1⟩ []) := .takes rfl (by decide) .done
  obtain ⟨last, matched, trimmed⟩ :=
    (rest_takes_remainder spelled compiled tokenized restFree apart).2 ⟨0, 1⟩ [] runs (by decide)
  have cut : last = ['b', '"', 'c', '"'] := by
    have suffix : line.drop (Cursor.position segments ⟨0, 1⟩) = ['b', '"', 'c', '"'] ++ [')'] := rfl
    rw [suffix] at trimmed
    cases trimmed with
    | @cut _ ending literals ends =>
      have same : ending = [')'] :=
        Option.some.inj ((Pattern.literals?_eq_some_iff.mpr literals).symm.trans rfl)
      rw [same] at ends
      exact (List.append_cancel_right ends).symm
    | whole other => exact absurd rfl (other _ [')'] rfl)
  rw [cut] at matched
  exact ⟨spelled, compiled, tokenized, restFree, apart, runs, matched⟩

end Template

end LineTemplates
