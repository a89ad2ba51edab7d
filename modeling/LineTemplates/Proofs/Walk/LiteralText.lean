import LineTemplates.Proofs.Template.Literals
import LineTemplates.Proofs.Walk.Coverage

/-! Matching nothing but literals. However a line has been cut, a literal takes the next character of it, unless that
is a quote; so a row of literals matches the line that reads as they do, and never a line with a quote in it. -/

namespace LineTemplates

open Segment (Canonical quoteMark)

namespace Cursor

variable {segments : List Segment} {cursor place : Cursor} {char : Char}

theorem atEnd_iff (canonical : Canonical segments) (valid : cursor.Valid segments) :
    cursor.atEnd segments = true ↔ cursor.remaining segments = [] := by
  refine ⟨Template.remaining_atEnd, fun nothing => ?_⟩
  by_contra more
  exact remaining_ne_nil canonical valid (by simpa [atEnd] using more) nothing

/-- No literal takes a quote. A string is taken whole or not at all, and its quotes stand nowhere else. -/
theorem ne_quoteMark_of_literal? (canonical : Canonical segments) (valid : cursor.Valid segments)
    (found : cursor.literal? segments char = some place) : char ≠ quoteMark := by
  have wellFormed {index : Nat} {segment : Segment} (here : segments[index]? = some segment) : segment.WellFormed :=
    canonical.wellFormed segment (List.mem_of_getElem? here)
  have ofRun {index offset : Nat} {text : Text} (here : segments[index]? = some (.run text))
      (next : text[offset]? = some char) : char ≠ quoteMark := by
    rintro rfl
    exact Segment.not_valueChar_quoteMark ((wellFormed here).2.2 _ (List.mem_of_getElem? next))
  have takes : Item.Takes segments none cursor ⟨.literal char, [char], []⟩ place := Item.takes_of_literal? valid found
  cases takes with
  | insideRun here next short => exact ofRun here next
  | endOfRun here next last => exact ofRun here next
  | symbol here => exact (wellFormed here).2

theorem exists_literal? {rest : Text} (canonical : Canonical segments) (valid : cursor.Valid segments)
    (next : cursor.remaining segments = char :: rest) (plain : char ≠ quoteMark) :
    ∃ place, cursor.literal? segments char = some place := by
  obtain ⟨index, offset⟩ := cursor
  have more : index < segments.length := by
    by_contra ended
    rw [Template.remaining_atEnd (by simpa [atEnd] using ended)] at next
    cases next
  have here := List.getElem?_eq_getElem more
  have wellFormed := canonical.wellFormed _ (List.getElem_mem more)
  generalize segments[index] = segment at here wellFormed
  rw [remaining_here here] at next
  cases segment with
  | run text =>
    have inside : offset < text.length := by
      have bound : offset < max 1 text.length := offset_lt valid here
      rwa [Nat.max_eq_right (List.length_pos_iff.mpr wellFormed.1)] at bound
    rw [Segment.renderFrom, List.drop_eq_getElem_cons inside, List.cons_append] at next
    have standing : text[offset]? = some char := List.getElem?_eq_some_iff.mpr ⟨inside, (List.cons.inj next).1⟩
    by_cases short : offset + 1 < text.length
    · exact ⟨⟨index, offset + 1⟩, by simp [literal?, segment?, here, standing, Segment.literalLength, short]⟩
    · exact ⟨⟨index + 1, 0⟩, by simp [literal?, segment?, here, standing, Segment.literalLength, short, nextSegment]⟩
  | quoted text => exact absurd (List.cons.inj next).1.symm plain
  | symbol other =>
    obtain rfl : other = char := (List.cons.inj next).1
    exact ⟨⟨index + 1, 0⟩, by simp [literal?, segment?, here, Segment.literalLength, nextSegment]⟩

end Cursor

namespace Pattern

theorem result?_evaluate_ofLiterals {segments : List Segment} {cursor : Cursor} {text : Text}
    (canonical : Canonical segments) (valid : cursor.Valid segments) (arguments : List Text) :
    ((ofLiterals text).evaluate segments cursor).result? segments = some arguments ↔
      cursor.remaining segments = text ∧ quoteMark ∉ text ∧ arguments = [] := by
  -- a literal leaves the line without its first character, at a place that is as valid as the one before
  induction text generalizing cursor with
  | nil =>
    rw [ofLiterals, evaluate, Evaluation.result?]
    simp only [Cursor.atEnd_iff canonical valid, Option.ite_none_right_eq_some, Option.some.injEq, List.not_mem_nil,
      not_false_eq_true, true_and, eq_comm (a := arguments)]
  | cons char rest step =>
    rw [ofLiterals, evaluate, Item.take]
    cases found : cursor.literal? segments char with
    | none =>
      refine iff_of_false (Option.some_ne_none arguments).symm ?_
      rintro ⟨next, quoteFree, _⟩
      obtain ⟨place, taken⟩ := Cursor.exists_literal? canonical valid next (List.ne_of_not_mem_cons quoteFree).symm
      cases found.symm.trans taken
    | some place =>
      have takes : Item.Takes segments none cursor ⟨.literal char, [char], []⟩ place :=
        Item.takes_of_literal? valid found
      have onward := Cursor.onward_of_takes valid takes
      have plain := Cursor.ne_quoteMark_of_literal? canonical valid found
      have next : cursor.remaining segments = char :: place.remaining segments := Item.remaining_of_takes takes
      simp only [Option.map_some, reduceCtorEq, if_false, Evaluation.after_nil]
      rw [step onward.valid, next, List.cons_inj_right, List.mem_cons, not_or]
      simp [plain.symm]

end Pattern

namespace Template

/-- A template of nothing but literals matches the line that reads as they do and no other, without arguments, and
however that line has been cut. With a quote among the literals it matches no line. -/
theorem literals_match_their_text {name source text line : Text} {template : Template} {segments : List Segment}
    (compiled : compile name source = .ok template) (row : template.LiteralRow text)
    (tokenized : Segment.tokenize line = .ok segments) :
    (∀ arguments, template.match? segments = some arguments ↔ line = text ∧ quoteMark ∉ text ∧ arguments = []) ∧
      (quoteMark ∈ text → template.match? segments = none) := by
  obtain ⟨pattern, spelled, rfl⟩ := compile_eq_ok_iff_spelling.mp compiled
  obtain rfl := literalRow_ofPattern_iff.mp row
  obtain ⟨canonical, rfl⟩ := Segment.canonical_of_tokenizeFrom tokenized
  have matches_iff (arguments : List Text) :
      (ofPattern name source (Pattern.ofLiterals text)).match? segments = some arguments ↔
        Segment.renderAll segments = text ∧ quoteMark ∉ text ∧ arguments = [] := by
    rw [match?_ofPattern, Pattern.result?_evaluate_ofLiterals canonical (Cursor.valid_start segments)]
    rw [Cursor.start, Cursor.remaining_whole, List.drop_zero]
  refine ⟨matches_iff, fun quoted => Option.eq_none_iff_forall_not_mem.mpr ?_⟩
  intro arguments matched
  exact ((matches_iff arguments).mp matched).2.1 quoted

theorem literals_match_their_text_across_runs :
    let long : Text := List.replicate 257 'a'
    let runs : List Segment := [.run (List.replicate 256 'a'), .run ['a']]
    let string : Text := [quoteMark, quoteMark]
    (∃ template, compile [] long = .ok template ∧ template.LiteralRow long ∧ Segment.tokenize long = .ok runs ∧
        template.match? runs = some []) ∧
      ∃ template, compile [] string = .ok template ∧ template.LiteralRow string ∧
        Segment.tokenize string = .ok [.quoted []] ∧ template.match? [.quoted []] = none := by
  intro long runs string
  constructor
  · have letters : ∀ char ∈ long, char = 'a' := fun char => List.eq_of_mem_replicate
    have plain : ∀ char ∈ long, char ∉ Pattern.specialChars := fun char inside => letters char inside ▸ by decide
    have blankFree : '_' ∉ long := fun inside => absurd (letters _ inside) (by decide)
    obtain ⟨template, compiled, row⟩ := spells_itself plain blankFree
    have filled : (Segment.run (List.replicate 256 'a')).WellFormed :=
      ⟨nofun, List.length_replicate.le, fun char inside => List.eq_of_mem_replicate inside ▸ .inl rfl⟩
    have last : Canonical [.run ['a']] := by
      simp [Segment.canonical_cons, Segment.canonical_nil, Segment.WellFormed, Segment.ValueChar]
    have canonical : Canonical runs :=
      Segment.canonical_cons.mpr ⟨filled, fun next first => Option.some.inj first ▸ List.length_replicate, last⟩
    have rendered : Segment.renderAll runs = long := List.replicate_succ'.symm
    have tokenized : Segment.tokenize long = .ok runs := Segment.tokenize_of_renderAll canonical rendered
    have quoteFree : quoteMark ∉ long := fun inside => absurd (letters _ inside) (by decide)
    have matched := (literals_match_their_text compiled row tokenized).1 []
    exact ⟨template, compiled, row, tokenized, matched.mpr ⟨rfl, quoteFree, rfl⟩⟩
  · have spelled : ∃ template, compile [] string = .ok template ∧ template.LiteralRow string :=
      spells_itself (by simp [string, quoteMark, Pattern.specialChars]) (by decide)
    obtain ⟨template, compiled, row⟩ := spelled
    have canonical : Canonical [.quoted []] := by
      simp [Segment.canonical_cons, Segment.canonical_nil, Segment.WellFormed]
    have tokenized : Segment.tokenize string = .ok [.quoted []] := Segment.tokenize_of_renderAll canonical rfl
    exact ⟨template, compiled, row, tokenized, (literals_match_their_text compiled row tokenized).2 (by decide)⟩

end Template

end LineTemplates
