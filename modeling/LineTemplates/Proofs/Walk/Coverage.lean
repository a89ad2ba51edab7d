import LineTemplates.Proofs.Pattern.Path
import LineTemplates.Proofs.Walk.Refinement

/-! A match accounts for the whole of its line. The pattern is gone through along a path whose portions, put together,
are the line again, and the arguments of the match are those of the portions. -/

namespace LineTemplates

namespace Template

open Pattern (Spelling Path)

theorem succeeds_of_result? {line : List Segment} {outcome : Evaluation} {arguments : List Text}
    (result : outcome.result? line = some arguments) :
    ∃ stop, Pattern.Succeeds outcome stop arguments ∧ ∀ place ∈ stop, place.atEnd line = true := by
  cases outcome with
  | failed => cases result
  | finished more =>
    cases result
    exact ⟨none, .finished, nofun⟩
  | reached place more =>
    simp only [Evaluation.result?] at result
    split at result
    · rename_i ended
      cases result
      exact ⟨some place, .reached, by simpa using ended⟩
    · cases result

theorem remaining_atEnd {line : List Segment} {cursor : Cursor} (ended : cursor.atEnd line = true) :
    cursor.remaining line = [] := by
  have bound : line.length ≤ cursor.segment := by simpa [Cursor.atEnd] using ended
  simp [Cursor.remaining, List.drop_eq_nil_of_le bound]

/-- A match tells the line apart along a path through the template, and its arguments are those of the path. -/
theorem portions_of_match? {name source line : Text} {template : Template} {segments : List Segment}
    {arguments : List Text} (compiled : compile name source = .ok template)
    (tokenized : Segment.tokenize line = .ok segments) (matched : template.match? segments = some arguments) :
    ∃ pattern portions stop, Spelling pattern source ∧ Path segments pattern .start portions stop ∧
      (∀ place ∈ stop, place.atEnd segments = true) ∧ portions.flatMap Portion.text = line ∧
      portions.flatMap Portion.arguments = arguments ∧
      ∀ portion ∈ portions, portion.item = .rest → portion.text ≠ [] ∧ portion.text <:+ line := by
  obtain ⟨pattern, parsed, rfl⟩ := compile_eq_ok_iff.mp compiled
  obtain ⟨canonical, rfl⟩ := Segment.canonical_of_tokenizeFrom tokenized
  rw [match?_ofPattern] at matched
  have begun := Cursor.valid_start segments
  have runs := Pattern.runs_evaluate pattern [] begun
  rw [Evaluation.after_nil] at runs
  obtain ⟨stop, succeeds, ended⟩ := succeeds_of_result? matched
  obtain ⟨portions, path, rfl⟩ := Pattern.path_of_runs runs begun succeeds
  have whole : Cursor.remaining segments .start = Segment.renderAll segments := Cursor.remaining_whole segments 0
  have covered := path.remaining_eq
  have ends := path.endsLine canonical begun
  rw [whole] at covered
  refine ⟨pattern, portions, stop, Pattern.parse_eq_ok_iff.mp parsed, path, ended, ?_, rfl, ?_⟩
  · cases stop with
    | none => simpa using covered.symm
    | some place => simpa [remaining_atEnd (ended place rfl)] using covered.symm
  · intro portion inside rest
    rw [← whole]
    exact ends portion inside rest

theorem portions_of_quoted_and_rest :
    let source : Text := ['$', 'v', 'a', 'l', 'u', 'e', '[', '_', '$', 'r', 'e', 's', 't', ']']
    let pattern : Pattern := .item .value (.group .optional (.item .skipBlanks (.item .rest .done)) .done)
    let line : Text := ['"', 'a', '"', ' ', 'b', '+', 'c']
    let segments : List Segment := [.quoted ['a'], .symbol ' ', .run ['b'], .symbol '+', .run ['c']]
    (ofPattern [] source pattern).match? segments = some [['a'], ['b', '+', 'c']] ∧
      ∃ pattern portions stop, Spelling pattern source ∧ Path segments pattern .start portions stop ∧
        (∀ place ∈ stop, place.atEnd segments = true) ∧ portions.flatMap Portion.text = line ∧
        portions.flatMap Portion.arguments = [['a'], ['b', '+', 'c']] ∧
        ∀ portion ∈ portions, portion.item = .rest → portion.text ≠ [] ∧ portion.text <:+ line := by
  intro source pattern line segments
  have inside : Spelling (.item .skipBlanks (.item .rest .done)) ['_', '$', 'r', 'e', 's', 't'] :=
    .blanks (.placeholder .rest nofun .done)
  have spelled : Spelling pattern source := .placeholder .value (by simp [Segment.isNameChar]) (.group inside .done)
  have compiled : compile [] source = .ok (ofPattern [] source pattern) :=
    compile_eq_ok_iff.mpr ⟨_, Pattern.parse_eq_ok_iff.mpr spelled, rfl⟩
  have canonical : Segment.Canonical segments := by
    simp [segments, Segment.canonical_cons, Segment.canonical_nil, Segment.WellFormed, Segment.MayPrecede,
      Segment.ValueChar]
  have tokenized : Segment.tokenize line = .ok segments := Segment.tokenizeFrom_renderAll canonical 0
  have matched : (ofPattern [] source pattern).match? segments = some [['a'], ['b', '+', 'c']] := by
    rw [match?_ofPattern]
    rfl
  exact ⟨matched, portions_of_match? compiled tokenized matched⟩

end Template

end LineTemplates
