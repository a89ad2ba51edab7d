import LineTemplates.Proofs.Cursor.Blanks
import LineTemplates.Proofs.Template.Reading
import LineTemplates.Proofs.Walk.Remainder

/-! Templates that skip blanks wherever a segment can begin. They find the same in a line however its segments are set
apart, since on the line without blanks they go from counterpart to counterpart. -/

namespace LineTemplates

open Segment (renderAll)

namespace Segment

theorem canonical_insertBlank {front back : List Segment} {char : Char} (canonical : Canonical (front ++ back))
    (blank : char = ' ' ∨ char = '\t') : Canonical (front ++ symbol char :: back) := by
  have plain : (symbol char).WellFormed := by
    rcases blank with rfl | rfl
    · simp [WellFormed, ValueChar]
    · simp [WellFormed, ValueChar]
  obtain ⟨wellFormed, adjacent⟩ := canonical
  rw [List.forall_mem_append] at wellFormed
  rw [List.isChain_append] at adjacent
  refine ⟨List.forall_mem_append.mpr ⟨wellFormed.1, List.forall_mem_cons.mpr ⟨plain, wellFormed.2⟩⟩, ?_⟩
  refine List.isChain_append.mpr ⟨adjacent.1, List.isChain_cons.mpr ⟨fun _ _ => trivial, adjacent.2.1⟩, ?_⟩
  rintro last _ _ ⟨rfl⟩
  cases last <;> trivial

theorem canonical_insertBlanks {front back : List Segment} {blanks : Text} (canonical : Canonical (front ++ back))
    (blank : ∀ char ∈ blanks, char = ' ' ∨ char = '\t') : Canonical (front ++ blanks.map symbol ++ back) := by
  induction blanks generalizing front with
  | nil => simpa using canonical
  | cons char more step =>
    obtain ⟨first, later⟩ := List.forall_mem_cons.mp blank
    have opened : Canonical ((front ++ [symbol char]) ++ back) := by
      simpa using canonical_insertBlank canonical first
    simpa using step opened later

theorem withoutBlanks_insertBlanks (front back : List Segment) {blanks : Text}
    (blank : ∀ char ∈ blanks, char = ' ' ∨ char = '\t') :
    withoutBlanks (front ++ blanks.map symbol ++ back) = withoutBlanks (front ++ back) := by
  have nothing : withoutBlanks (blanks.map symbol) = [] := by
    apply List.filter_eq_nil_iff.mpr
    intro segment inside
    obtain ⟨char, member, rfl⟩ := List.mem_map.mp inside
    have passes : (symbol char).isBlank = true := by simpa [isBlank] using blank char member
    simp [passes]
  rw [withoutBlanks_append, withoutBlanks_append, nothing, List.append_nil, withoutBlanks_append]

end Segment

theorem Evaluation.result?_after (line : List Segment) (given : List Text) (outcome : Evaluation) :
    (outcome.after given).result? line = (outcome.result? line).map (given ++ ·) := by
  cases outcome with
  | reached place arguments => simp [after, result?, apply_ite (Option.map _)]
  | _ => rfl

namespace Pattern

open Evaluation

def ofItems : List Item → Pattern
  | [] => done
  | head :: next => item head (ofItems next)

/-- A row of items, none of them a rest, that skips blanks first, last and between any two others. -/
structure Spaced (pattern : Pattern) : Prop where
  row : pattern = ofItems pattern.items
  restFree : .rest ∉ pattern.items
  begins : pattern.items.head? = some .skipBlanks
  ends : pattern.items.getLast? = some .skipBlanks
  between : pattern.items.IsChain fun first second => first = .skipBlanks ∨ second = .skipBlanks

variable {line : List Segment}

/-- From a place where no blank begins, or where the items skip them, they come to the same result on both lines. -/
theorem result?_withoutBlanks {items : List Item} {cursor : Cursor} (restFree : .rest ∉ items)
    (ends : ∀ last ∈ items.getLast?, last = .skipBlanks)
    (between : items.IsChain fun first second => first = .skipBlanks ∨ second = .skipBlanks)
    (valid : cursor.Valid line) (begun : cursor.Settled line ∨ items.head? = some .skipBlanks) :
    ((ofItems items).evaluate (Segment.withoutBlanks line) (cursor.withoutBlanks line)).result?
        (Segment.withoutBlanks line) =
      ((ofItems items).evaluate line cursor).result? line := by
  induction items generalizing cursor with
  | nil =>
    have settled : cursor.Settled line := begun.resolve_right nofun
    rw [ofItems, evaluate, evaluate, result?, result?, Cursor.atEnd_withoutBlanks settled]
  | cons head next step =>
    rw [List.mem_cons, not_or] at restFree
    rw [List.isChain_cons] at between
    have goesOn : head ≠ .rest := Ne.symm restFree.1
    rw [ofItems, evaluate, evaluate, Item.take_withoutBlanks (begun.imp_right Option.some.inj) goesOn]
    cases taken : head.take line (ofItems next).tail? cursor with
    | none => rfl
    | some found =>
      obtain ⟨place, given⟩ := found
      have onward := Cursor.onward_of_take valid taken
      -- only a skip can be the last item, and only a skip can follow an item that is none
      have settles : place.Settled line ∨ next.head? = some .skipBlanks := by
        by_cases skips : head = .skipBlanks
        · subst skips
          cases taken
          exact .inl (Cursor.settled_skipBlanks valid)
        · cases next with
          | nil => exact absurd (ends head rfl) skips
          | cons second more => exact .inr (congrArg some ((between.1 second rfl).resolve_left skips))
      have endsLater : ∀ last ∈ next.getLast?, last = .skipBlanks := by
        intro last found
        cases next with
        | nil => cases found
        | cons second more => exact ends last found
      simp only [Option.map_some]
      rw [if_neg goesOn, if_neg goesOn, result?_after, result?_after,
        step restFree.2 endsLater between.2 onward.valid settles]

theorem Spaced.result?_evaluate {pattern : Pattern} (spaced : pattern.Spaced) (line : List Segment) :
    (pattern.evaluate (Segment.withoutBlanks line) .start).result? (Segment.withoutBlanks line) =
      (pattern.evaluate line .start).result? line := by
  have ends : ∀ last ∈ pattern.items.getLast?, last = .skipBlanks := by
    rintro last found
    exact Option.some.inj (found.symm.trans spaced.ends)
  rw [spaced.row]
  exact result?_withoutBlanks spaced.restFree ends spaced.between (Cursor.valid_start line) (.inr spaced.begins)

end Pattern

namespace Template

theorem match?_withoutBlanks {name source : Text} {template : Template} (compiled : compile name source = .ok template)
    (spaced : template.pattern.Spaced) (segments : List Segment) :
    template.match? (Segment.withoutBlanks segments) = template.match? segments := by
  obtain ⟨pattern, _, rfl⟩ := compile_eq_ok_iff.mp compiled
  rw [pattern_ofPattern] at spaced
  rw [match?_ofPattern, match?_ofPattern, spaced.result?_evaluate]

/-- A template that skips blanks wherever a segment can begin finds the same in a line with and without them: lines that
have their other segments in common match alike, and blanks may be put between any two segments. -/
theorem blanks_are_inert {name source : Text} {template : Template} (compiled : compile name source = .ok template)
    (spaced : template.pattern.Spaced) :
    (∀ segments, template.match? (Segment.withoutBlanks segments) = template.match? segments) ∧
    (∀ segments others, Segment.withoutBlanks segments = Segment.withoutBlanks others →
      template.match? segments = template.match? others) ∧
    ∀ front back blanks, (∀ char ∈ blanks, char = ' ' ∨ char = '\t') →
      Segment.tokenize (renderAll front ++ renderAll back) = .ok (front ++ back) →
      Segment.tokenize (renderAll front ++ blanks ++ renderAll back) = .ok (front ++ blanks.map .symbol ++ back) ∧
        template.match? (front ++ blanks.map .symbol ++ back) = template.match? (front ++ back) := by
  have stripped := match?_withoutBlanks compiled spaced
  have together (segments others : List Segment)
      (same : Segment.withoutBlanks segments = Segment.withoutBlanks others) :
      template.match? segments = template.match? others := by
    rw [← stripped segments, same, stripped others]
  refine ⟨stripped, together, ?_⟩
  intro front back blanks blank tokenized
  constructor
  · have canonical := Segment.canonical_insertBlanks (Segment.canonical_of_tokenizeFrom tokenized).1 blank
    refine Segment.tokenize_of_renderAll canonical ?_
    simp [renderAll, List.flatMap_map]
  · exact together _ _ (Segment.withoutBlanks_insertBlanks front back blank)

theorem blanks_are_inert_in_assignment :
    let source : Text := ['_', '$', 'v', 'a', 'l', 'u', 'e', '_', '=', '_', '$', 'v', 'a', 'l', 'u', 'e', '_']
    let pattern := Pattern.ofItems [.skipBlanks, .value, .skipBlanks, .literal '=', .skipBlanks, .value, .skipBlanks]
    let template := ofPattern [] source pattern
    let front : List Segment := [.run ['a']]
    let back : List Segment := [.symbol '=', .quoted ['b']]
    compile [] source = .ok template ∧ template.pattern.Spaced ∧
      Segment.tokenize ['a', ' ', '\t', '=', '"', 'b', '"'] = .ok (front ++ [.symbol ' ', .symbol '\t'] ++ back) ∧
      template.match? (front ++ [.symbol ' ', .symbol '\t'] ++ back) = some [['a'], ['b']] ∧
      template.match? (.symbol ' ' :: front ++ back) = some [['a'], ['b']] := by
  intro source pattern template front back
  have spelled : Pattern.Spelling pattern source :=
    .blanks (.placeholder .value (by simp [Segment.isNameChar]) (.blanks (.literal (by decide) (.blanks
      (.placeholder .value (by simp [Segment.isNameChar]) (.blanks .done))))))
  have compiled : compile [] source = .ok template := compile_of_spelling [] spelled
  have spaced : template.pattern.Spaced := by
    rw [pattern_ofPattern]
    exact ⟨rfl, by decide, rfl, rfl, by decide⟩
  have canonical : Segment.Canonical (front ++ back) := by
    simp [front, back, Segment.canonical_cons, Segment.canonical_nil, Segment.WellFormed, Segment.MayPrecede,
      Segment.ValueChar]
  have tokenized : Segment.tokenize (renderAll front ++ renderAll back) = .ok (front ++ back) :=
    Segment.tokenizeFrom_renderAll canonical 0
  have matched : template.match? (front ++ back) = some [['a'], ['b']] := by
    rw [match?_ofPattern]
    decide
  obtain ⟨_, together, inserted⟩ := blanks_are_inert compiled spaced
  obtain ⟨cut, same⟩ := inserted front back [' ', '\t'] (by simp) tokenized
  have alike := together (.symbol ' ' :: front ++ back) (front ++ back) (by decide)
  exact ⟨compiled, spaced, cut, same.trans matched, alike.trans matched⟩

end Template

end LineTemplates
