import LineTemplates.Proofs.Text.Pieces
import LineTemplates.Segment
import Mathlib.Data.List.Chain

/-! Canonical lists of segments. Cutting a line into segments loses nothing and leaves no choice: the segments of
a line are the one canonical list that stands for it. -/

namespace LineTemplates

namespace Segment

open Text

def ValueChar (char : Char) : Prop := char.isAlphanum = true ∨ char = '.' ∨ char = '_'

theorem isValueChar_iff {char : Char} : isValueChar char = true ↔ ValueChar char := by
  simp [isValueChar, isNameChar, ValueChar, or_assoc]

theorem ValueChar.utf8Size_eq {char : Char} (value : ValueChar char) : char.utf8Size = 1 := by
  have ascii : char.val ≤ 127 := by
    rcases value with letter | rfl | rfl
    · unfold Char.isAlphanum Char.isAlpha Char.isUpper Char.isLower Char.isDigit at letter
      simp only [Bool.or_eq_true, Bool.and_eq_true, decide_eq_true_eq] at letter
      grind
    · decide
    · decide
  exact Char.utf8Size_eq_one_iff.mpr ascii

theorem utf8Size_of_valueChars {text : Text} (values : ∀ char ∈ text, ValueChar char) :
    utf8Size text = text.length := by
  induction text with
  | nil => rfl
  | cons char rest step =>
    obtain ⟨first, later⟩ := List.forall_mem_cons.mp values
    rw [utf8Size_cons, first.utf8Size_eq, step later, List.length_cons, Nat.add_comm]

/-- What a segment may hold: a run is neither empty nor too long and made of value characters, a quoted string
holds no quote, and a symbol is neither a value character nor a quote. -/
def WellFormed : Segment → Prop
  | run text => text ≠ [] ∧ text.length ≤ 256 ∧ ∀ char ∈ text, ValueChar char
  | quoted text => '"' ∉ text
  | symbol char => ¬ ValueChar char ∧ char ≠ '"'

def MayPrecede : Segment → Segment → Prop
  | run text, run _ => text.length = 256
  | _, _ => True

structure Canonical (segments : List Segment) : Prop where
  wellFormed : ∀ segment ∈ segments, segment.WellFormed
  adjacent : segments.IsChain MayPrecede

theorem canonical_nil : Canonical [] := ⟨by simp, .nil⟩

theorem canonical_cons {segment : Segment} {more : List Segment} :
    Canonical (segment :: more) ↔
      segment.WellFormed ∧ (∀ next ∈ more.head?, segment.MayPrecede next) ∧ Canonical more := by
  constructor
  · rintro ⟨wellFormed, adjacent⟩
    rw [List.isChain_cons] at adjacent
    rw [List.forall_mem_cons] at wellFormed
    exact ⟨wellFormed.1, adjacent.1, wellFormed.2, adjacent.2⟩
  · rintro ⟨first, joint, wellFormed, adjacent⟩
    exact ⟨List.forall_mem_cons.mpr ⟨first, wellFormed⟩, List.isChain_cons.mpr ⟨joint, adjacent⟩⟩

def renderAll (segments : List Segment) : Text := segments.flatMap render

@[simp]
theorem renderAll_nil : renderAll [] = [] := rfl

@[simp]
theorem renderAll_cons (segment : Segment) (more : List Segment) :
    renderAll (segment :: more) = segment.render ++ renderAll more := rfl

theorem not_valueChar_quoteMark : ¬ ValueChar quoteMark := by
  simp [ValueChar, quoteMark]

theorem render_ne_nil {segment : Segment} (wellFormed : segment.WellFormed) : segment.render ≠ [] := by
  cases segment with
  | run text => exact wellFormed.1
  | quoted text => simp
  | symbol char => simp

theorem begins_value_iff {segment : Segment} (wellFormed : segment.WellFormed) :
    (∃ char ∈ segment.render.head?, ValueChar char) ↔ ∃ text, segment = run text := by
  cases segment with
  | run text =>
    obtain ⟨nonempty, _, inside⟩ := wellFormed
    obtain ⟨char, rest, rfl⟩ := List.exists_cons_of_ne_nil nonempty
    exact ⟨fun _ => ⟨_, rfl⟩, fun _ => ⟨char, rfl, inside char (by simp)⟩⟩
  | quoted text => simp [not_valueChar_quoteMark]
  | symbol char => simp [wellFormed.1]

theorem renderAll_begins_value_iff {segments : List Segment} (canonical : Canonical segments) :
    (∃ char ∈ (renderAll segments).head?, ValueChar char) ↔ ∃ text, run text ∈ segments.head? := by
  cases segments with
  | nil => simp
  | cons segment more =>
    have wellFormed := (canonical_cons.mp canonical).1
    rw [renderAll_cons, List.head?_append_of_ne_nil _ (render_ne_nil wellFormed), begins_value_iff wellFormed]
    simp

def sameRun (rest : Text) : Text := (rest.take (longestRun - 1)).takeWhile isValueChar

theorem length_sameRun_lt (rest : Text) : (sameRun rest).length < 256 := by
  have short : (sameRun rest).length ≤ longestRun - 1 :=
    ((List.takeWhile_prefix isValueChar).length_le).trans (List.length_take_le ..)
  exact Nat.lt_succ_of_le short

theorem canonical_run {char : Char} {rest : Text} {following : List Segment} (value : ValueChar char)
    (canonical : Canonical following) (rendered : renderAll following = rest.drop (sameRun rest).length) :
    Canonical (run (char :: sameRun rest) :: following) := by
  have inside : ∀ other ∈ sameRun rest, ValueChar other :=
    fun other member => isValueChar_iff.mp (List.mem_takeWhile_imp member)
  have short := length_sameRun_lt rest
  refine canonical_cons.mpr ⟨⟨by simp, short, List.forall_mem_cons.mpr ⟨value, inside⟩⟩, ?_, canonical⟩
  intro next first
  cases next with
  | quoted _ => trivial
  | symbol _ => trivial
  | run text =>
    by_contra unfilled
    have shorter : (sameRun rest).length < longestRun - 1 := by
      simp only [MayPrecede, List.length_cons, longestRun] at unfilled short ⊢
      omega
    obtain ⟨other, front, otherValue⟩ := (renderAll_begins_value_iff canonical).mpr ⟨text, first⟩
    rw [rendered] at front
    have stops := head?_drop_takeWhile_take shorter other front
    exact absurd (isValueChar_iff.mpr otherValue) (by simp [stops])

theorem canonical_of_tokenizeFrom {offset : Nat} {line : Text} {segments : List Segment}
    (cut : tokenizeFrom offset line = .ok segments) : Canonical segments ∧ renderAll segments = line := by
  fun_induction tokenizeFrom offset line generalizing segments with
  | case1 offset =>
    cases cut
    exact ⟨canonical_nil, rfl⟩
  | case2 offset char rest value more size =>
    rename_i step
    obtain ⟨following, tail, rfl⟩ := map_eq_ok_iff.mp cut
    obtain ⟨canonical, rendered⟩ := step tail
    refine ⟨canonical_run (isValueChar_iff.mp value) canonical rendered, ?_⟩
    rw [renderAll_cons, rendered]
    exact congrArg (char :: ·) (takeWhile_take_append_drop isValueChar (longestRun - 1) rest)
  | case3 offset rest absent => cases cut
  | case4 offset rest body after found size plain =>
    rename_i step
    obtain ⟨following, tail, rfl⟩ := map_eq_ok_iff.mp cut
    obtain ⟨canonical, rendered⟩ := step tail
    obtain ⟨whole, absent⟩ := eq_append_of_cut? found
    refine ⟨canonical_cons.mpr ⟨absent, fun _ _ => trivial, canonical⟩, ?_⟩
    rw [renderAll_cons, rendered, whole]
    simp
  | case5 offset char rest value different step =>
    obtain ⟨following, tail, rfl⟩ := map_eq_ok_iff.mp cut
    obtain ⟨canonical, rendered⟩ := step tail
    have wellFormed : (symbol char).WellFormed := ⟨mt isValueChar_iff.mpr value, different⟩
    refine ⟨canonical_cons.mpr ⟨wellFormed, fun _ _ => trivial, canonical⟩, ?_⟩
    rw [renderAll_cons, rendered]
    rfl

theorem sameRun_append {char : Char} {text : Text} {more : List Segment}
    (canonical : Canonical (run (char :: text) :: more)) :
    sameRun (text ++ renderAll more) = text := by
  obtain ⟨⟨_, short, inside⟩, joint, following⟩ := canonical_cons.mp canonical
  apply takeWhile_take_append
  · intro other member
    exact isValueChar_iff.mpr (inside other (List.mem_cons_of_mem _ member))
  · simp only [List.length_cons, longestRun] at short ⊢
    omega
  · intro shorter other front
    by_contra value
    have valueChar : ValueChar other := isValueChar_iff.mp (by simpa using value)
    obtain ⟨next, first⟩ := (renderAll_begins_value_iff following).mp ⟨other, front, valueChar⟩
    have full := joint _ first
    simp only [MayPrecede, List.length_cons, longestRun] at full shorter
    omega

theorem tokenizeFrom_renderAll {segments : List Segment} (canonical : Canonical segments) (offset : Nat) :
    tokenizeFrom offset (renderAll segments) = .ok segments := by
  induction segments generalizing offset with
  | nil => simp [tokenizeFrom]
  | cons segment more step =>
    obtain ⟨wellFormed, _, following⟩ := canonical_cons.mp canonical
    cases segment with
    | run text =>
      obtain ⟨char, text, rfl⟩ := List.exists_cons_of_ne_nil wellFormed.1
      have value : isValueChar char = true := isValueChar_iff.mpr (wellFormed.2.2 char (by simp))
      have cut := sameRun_append canonical
      rw [sameRun] at cut
      rw [renderAll_cons, render_run, List.cons_append, tokenizeFrom]
      simp only [value, if_true, cut, List.drop_left]
      rw [step following]
      rfl
    | quoted text =>
      have shape : renderAll (quoted text :: more) = quoteMark :: (text ++ quoteMark :: renderAll more) := by simp
      have plain : isValueChar quoteMark = false := rfl
      have closed : cut? quoteMark (text ++ quoteMark :: renderAll more) = some (text, renderAll more) :=
        cut?_append wellFormed _
      rw [shape, tokenizeFrom]
      simp only [plain, Bool.false_eq_true, if_false, if_true]
      split
      · rename_i absent
        cases closed.symm.trans absent
      · rename_i body after found
        cases closed.symm.trans found
        rw [step following]
        rfl
    | symbol char =>
      have plain : isValueChar char = false := by simpa using mt isValueChar_iff.mp wellFormed.1
      have different : char ≠ quoteMark := wellFormed.2
      rw [renderAll_cons, render_symbol, List.cons_append, List.nil_append, tokenizeFrom]
      simp only [plain, different, Bool.false_eq_true, if_false]
      rw [step following]
      rfl

theorem tokenize_of_renderAll {line : Text} {segments : List Segment} (canonical : Canonical segments)
    (rendered : renderAll segments = line) : tokenize line = .ok segments := by
  rw [← rendered]
  exact tokenizeFrom_renderAll canonical 0

/-- A line is cut into segments just if they are canonical and stand for the line. -/
theorem tokenize_eq_ok_iff (line : Text) (segments : List Segment) :
    tokenize line = .ok segments ↔ Canonical segments ∧ renderAll segments = line := by
  constructor
  · exact canonical_of_tokenizeFrom
  · rintro ⟨canonical, rendered⟩
    exact tokenize_of_renderAll canonical rendered

end Segment

end LineTemplates
