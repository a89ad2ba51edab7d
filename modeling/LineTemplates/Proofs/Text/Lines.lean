import LineTemplates.Proofs.Text.Pieces
import LineTemplates.Text.Lines
import Mathlib.Data.List.DropRight

/-! Lines of a text. A text is a row of lines that are ended by a line feed, and a piece behind them that is not; what
holds of every text is shown along that row. -/

namespace LineTemplates.Text

variable {line rest text : Text}

theorem cut?_eq_none_iff {mark : Char} : cut? mark text = none ↔ mark ∉ text := by
  induction text with
  | nil => simp [cut?]
  | cons char rest step =>
    by_cases same : char = mark
    · simp [cut?, same]
    · simp [cut?, same, Ne.symm same, step]

/-- What holds of a piece without a line feed, and of a text whenever it holds of the text behind its first line, holds
of every text. -/
theorem line_induction {motive : Text → Prop} (last : ∀ piece, '\n' ∉ piece → motive piece)
    (ended : ∀ line rest, '\n' ∉ line → motive rest → motive (line ++ '\n' :: rest)) (text : Text) : motive text := by
  induction text using lines.induct with
  | case1 found => exact last [] (cut?_eq_none_iff.mp found)
  | case2 text found filled => exact last text (cut?_eq_none_iff.mp found)
  | case3 text line rest found step =>
    obtain ⟨rfl, absent⟩ := eq_append_of_cut? found
    exact ended line rest absent step

theorem lines_piece (absent : '\n' ∉ text) : lines text = if text = [] then [] else [text] := by
  rw [lines]
  split
  · rfl
  · rename_i found
    rw [cut?_eq_none_iff.mpr absent] at found
    cases found

theorem lines_append (absent : '\n' ∉ line) (rest : Text) :
    lines (line ++ '\n' :: rest) = withoutReturn line :: lines rest := by
  rw [lines]
  split
  · rename_i found
    rw [cut?_append absent] at found
    cases found
  · rename_i found
    rw [cut?_append absent] at found
    cases found
    rfl

theorem split_ne_nil (mark : Char) (text : Text) : split mark text ≠ [] := by
  induction text with
  | nil => simp [split]
  | cons char rest step =>
    rw [split]
    cases pieces : split mark rest with
    | nil => exact absurd pieces step
    | cons piece more =>
      dsimp only
      split <;> exact List.cons_ne_nil _ _

theorem split_piece {mark : Char} (absent : mark ∉ text) : split mark text = [text] := by
  induction text with
  | nil => rfl
  | cons char rest step =>
    rw [List.mem_cons, not_or] at absent
    simp [split, step absent.2, Ne.symm absent.1]

theorem split_append {mark : Char} (absent : mark ∉ line) (rest : Text) :
    split mark (line ++ mark :: rest) = line :: split mark rest := by
  induction line with
  | nil =>
    rw [List.nil_append, split]
    cases pieces : split mark rest with
    | nil => exact absurd pieces (split_ne_nil mark rest)
    | cons piece more => simp
  | cons char more step =>
    rw [List.mem_cons, not_or] at absent
    simp [split, step absent.2, Ne.symm absent.1]

theorem split_cons_mark (mark : Char) (rest : Text) : split mark (mark :: rest) = [] :: split mark rest :=
  split_append List.not_mem_nil rest

theorem exists_split_cons {mark char : Char} (other : char ≠ mark) (rest : Text) :
    ∃ piece more, split mark rest = piece :: more ∧ split mark (char :: rest) = (char :: piece) :: more := by
  obtain ⟨piece, more, pieces⟩ := List.exists_cons_of_ne_nil (split_ne_nil mark rest)
  exact ⟨piece, more, pieces, by simp [split, pieces, other]⟩

/-- The pieces of a text are the first ones of another just if that is the text itself, or goes on with a mark. -/
theorem split_prefix_split_iff {mark : Char} {front text : Text} :
    split mark front <+: split mark text ↔ text = front ∨ front ++ [mark] <+: text := by
  induction front generalizing text with
  | nil =>
    cases text with
    | nil => simp [split]
    | cons char rest =>
      by_cases marked : char = mark
      · rw [marked, split_cons_mark]
        simp [split]
      · obtain ⟨piece, more, _, pieces⟩ := exists_split_cons marked rest
        rw [pieces]
        simp [split, Ne.symm marked]
  | cons first front step =>
    cases text with
    | nil =>
      have apart : ¬ split mark (first :: front) <+: split mark [] := by
        by_cases marked : first = mark
        · rw [marked, split_cons_mark]
          simp [split, split_ne_nil]
        · obtain ⟨piece, more, _, pieces⟩ := exists_split_cons marked front
          rw [pieces]
          simp [split]
      simp [apart]
    | cons char rest =>
      by_cases marked : first = mark <;> by_cases other : char = mark
      · rw [marked, other, split_cons_mark, split_cons_mark]
        simpa using step
      · obtain ⟨piece, more, _, pieces⟩ := exists_split_cons other rest
        rw [marked, split_cons_mark, pieces]
        simp [other, Ne.symm other]
      · obtain ⟨piece, more, _, pieces⟩ := exists_split_cons marked front
        rw [other, split_cons_mark, pieces]
        simp [marked, Ne.symm marked]
      · obtain ⟨piece, more, inner, pieces⟩ := exists_split_cons marked front
        obtain ⟨otherPiece, others, otherInner, otherPieces⟩ := exists_split_cons other rest
        have within : split mark front <+: split mark rest ↔ rest = front ∨ front ++ [mark] <+: rest := step
        rw [inner, otherInner, List.cons_prefix_cons] at within
        rw [pieces, otherPieces, List.cons_append, List.cons_prefix_cons, List.cons_prefix_cons, List.cons.injEq,
          List.cons.injEq, and_assoc, within, and_or_left, eq_comm (a := first)]

theorem not_mem_of_mem_split (mark : Char) (text : Text) : ∀ piece ∈ split mark text, mark ∉ piece := by
  induction text with
  | nil => simp [split]
  | cons char rest step =>
    rw [split]
    cases pieces : split mark rest with
    | nil => exact absurd pieces (split_ne_nil mark rest)
    | cons first more =>
      rw [pieces] at step
      by_cases marked : char = mark
      · simpa [marked] using step
      · simpa [marked, Ne.symm marked] using step

theorem split_ended {mark : Char} {texts : List Text} (absent : ∀ text ∈ texts, mark ∉ text) :
    split mark (texts.flatMap (· ++ [mark])) = texts ++ [[]] := by
  induction texts with
  | nil => rfl
  | cons first more step =>
    rw [List.forall_mem_cons] at absent
    rw [List.flatMap_cons, List.append_assoc, List.singleton_append, split_append absent.1, step absent.2,
      List.cons_append]

theorem split_join {mark : Char} {texts : List Text} (some : texts ≠ []) (absent : ∀ text ∈ texts, mark ∉ text) :
    split mark (join [mark] texts) = texts := by
  induction texts with
  | nil => exact absurd rfl some
  | cons first more step =>
    rw [List.forall_mem_cons] at absent
    rw [join]
    by_cases last : more = []
    · rw [last, List.intercalate_singleton, split_piece absent.1]
    · rw [List.intercalate_cons_of_ne_nil last, List.append_assoc, List.singleton_append, split_append absent.1]
      exact congrArg (first :: ·) (step last absent.2)

theorem not_mem_join {char : Char} {separator : Text} {texts : List Text} (apart : char ∉ separator)
    (absent : ∀ text ∈ texts, char ∉ text) : char ∉ join separator texts := by
  induction texts with
  | nil => exact List.not_mem_nil
  | cons first more step =>
    rw [List.forall_mem_cons] at absent
    rw [join]
    by_cases last : more = []
    · rw [last, List.intercalate_singleton]
      exact absent.1
    · rw [List.intercalate_cons_of_ne_nil last]
      exact List.not_mem_append (List.not_mem_append absent.1 apart) (step absent.2)

theorem getLast?_append_line (line rest : Text) :
    (line ++ '\n' :: rest).getLast? = some (rest.getLast?.getD '\n') := by
  rw [List.getLast?_append, List.getLast?_cons]
  rfl

/-- A text with a line end at its end stands somewhere in a row of lines just if the first line ends with it, or if it
stands behind that line. -/
theorem infix_append_line_iff (ending : Text) (free : '\n' ∉ ending) (absent : '\n' ∉ line) :
    ending ++ ['\n'] <:+: line ++ '\n' :: rest ↔ ending <:+ line ∨ ending ++ ['\n'] <:+: rest := by
  constructor
  · rintro ⟨before, after, whole⟩
    rw [← List.append_assoc, List.append_assoc, List.singleton_append] at whole
    rcases List.append_eq_append_iff.mp whole with ⟨between, rfl, tails⟩ | ⟨between, fronts, tails⟩
    · cases between with
      | nil => exact .inl ⟨before, by simp⟩
      | cons char more =>
        obtain ⟨rfl, _⟩ := List.cons.inj tails
        simp at absent
    · cases between with
      | nil => exact .inl ⟨before, by simpa using fronts⟩
      | cons char more =>
        obtain ⟨rfl, rfl⟩ := List.cons.inj tails
        rw [← List.singleton_append, ← List.append_assoc] at fronts
        rcases List.append_eq_append_iff.mp fronts with ⟨inner, first, rfl⟩ | ⟨inner, _, rfl⟩
        · have outside : '\n' ∉ inner := fun inside => free (List.mem_append_left _ inside)
          cases inner using List.reverseRecOn with
          | nil => exact .inr ⟨[], after, by simp⟩
          | append_singleton front last =>
            rw [← List.append_assoc] at first
            obtain rfl := List.singleton_inj.mp (List.append_inj' first rfl).2
            simp at outside
        · exact .inr ⟨inner, after, by simp⟩
  · rintro (⟨before, rfl⟩ | ⟨before, after, rfl⟩)
    · exact ⟨before, rest, by simp⟩
    · exact ⟨line ++ '\n' :: before, after, by simp⟩

section Returns

theorem trimEnd_eq_rdropWhile (mark : Char) (text : Text) : trimEnd mark text = text.rdropWhile (· = mark) := rfl

theorem trimEnd_eq_self_iff {mark : Char} : trimEnd mark text = text ↔ text.getLast? ≠ some mark := by
  rw [trimEnd_eq_rdropWhile, List.rdropWhile_eq_self_iff]
  cases text using List.reverseRecOn with
  | nil => simp
  | append_singleton front last => simp

theorem trimEnd_append {mark : Char} {marks : Text} (all : ∀ char ∈ marks, char = mark) (text : Text) :
    trimEnd mark (text ++ marks) = trimEnd mark text := by
  rw [trimEnd, List.reverse_append, List.dropWhile_append_of_pos]
  · rfl
  · simpa using all

theorem exists_trimEnd (mark : Char) (text : Text) :
    ∃ count, text = trimEnd mark text ++ List.replicate count mark ∧ (trimEnd mark text).getLast? ≠ some mark := by
  have ending : ∀ char ∈ text.rtakeWhile (· = mark), char = mark := by
    intro char inside
    simpa using List.mem_rtakeWhile_imp inside
  refine ⟨(text.rtakeWhile (· = mark)).length, ?_, ?_⟩
  · rw [← List.eq_replicate_length.mpr ending, trimEnd_eq_rdropWhile, List.rdropWhile_append_rtakeWhile]
  · rw [← trimEnd_eq_self_iff, trimEnd_eq_rdropWhile, trimEnd_eq_rdropWhile, List.rdropWhile_idempotent]

theorem trimEnd_withoutReturn (line : Text) : trimEnd '\r' (withoutReturn line) = trimEnd '\r' line := by
  obtain ⟨ending, whole, rfl | rfl⟩ := withoutEnding_append ['\r'] line
  · rw [List.append_nil] at whole
    rw [withoutReturn, ← whole]
  · conv_rhs => rw [whole]
    rw [trimEnd_append (by simp), withoutReturn]

theorem withoutReturn_append_return (line : Text) : withoutReturn (line ++ ['\r']) = line := by
  simp [withoutReturn, withoutEnding]

theorem withoutReturn_eq_self (kept : line.getLast? ≠ some '\r') : withoutReturn line = line := by
  obtain ⟨ending, whole, rfl | rfl⟩ := withoutEnding_append ['\r'] line
  · rw [List.append_nil] at whole
    exact whole.symm
  · rw [whole] at kept
    simp at kept

theorem getLast?_withoutReturn_eq_iff : (withoutReturn line).getLast? = some '\r' ↔ ['\r', '\r'] <:+ line := by
  constructor
  · intro ends
    obtain ⟨front, same⟩ := List.getLast?_eq_some_iff.mp ends
    by_cases kept : line.getLast? = some '\r'
    · obtain ⟨whole, rfl⟩ := List.getLast?_eq_some_iff.mp kept
      rw [withoutReturn_append_return] at same
      exact ⟨front, by simp [same]⟩
    · rw [withoutReturn_eq_self kept] at ends
      exact absurd ends kept
  · rintro ⟨front, rfl⟩
    have two : front ++ ['\r', '\r'] = (front ++ ['\r']) ++ ['\r'] := by simp
    rw [two, withoutReturn_append_return, List.getLast?_concat]

/-- A line keeps a carriage return at its end just if there are two of them before a line feed, or if the last line is
not ended and has one. -/
theorem exists_lines_return_iff :
    (∃ line ∈ lines text, line.getLast? = some '\r') ↔ ['\r', '\r', '\n'] <:+: text ∨ text.getLast? = some '\r' := by
  induction text using line_induction with
  | last piece absent =>
    have nowhere : ¬ ['\r', '\r', '\n'] <:+: piece := fun inside => absent (inside.subset (by simp))
    rw [lines_piece absent]
    by_cases blank : piece = [] <;> simp [blank, nowhere]
  | ended line rest absent step =>
    have feed : rest.getLast?.getD '\n' = '\r' ↔ rest.getLast? = some '\r' := by
      cases rest.getLast? <;> simp
    have place : ['\r', '\r', '\n'] <:+: line ++ '\n' :: rest ↔
        ['\r', '\r'] <:+ line ∨ ['\r', '\r', '\n'] <:+: rest :=
      infix_append_line_iff ['\r', '\r'] (by decide) absent
    rw [lines_append absent, List.exists_mem_cons_iff, step, getLast?_withoutReturn_eq_iff, place, getLast?_append_line,
      Option.some.injEq, feed, or_assoc]

end Returns

section Numbers

def numberedFrom (start : Nat) (lines : List Text) : List (Nat × Text) :=
  (lines.zipIdx start).filterMap fun (line, number) => if line = [] then none else some (number, line)

variable {start : Nat} {lines : List Text}

theorem numberedFrom_cons (start : Nat) (line : Text) (lines : List Text) :
    numberedFrom start (line :: lines) =
      (if line = [] then [] else [(start, line)]) ++ numberedFrom (start + 1) lines := by
  by_cases blank : line = [] <;> simp [numberedFrom, blank]

theorem start_le_of_mem_numberedFrom {number : Nat} (inside : (number, line) ∈ numberedFrom start lines) :
    start ≤ number := by
  induction lines generalizing start with
  | nil => simp [numberedFrom] at inside
  | cons first more step =>
    rw [numberedFrom_cons, List.mem_append] at inside
    rcases inside with here | later
    · split at here <;> simp_all
    · exact (Nat.le_succ _).trans (step later)

theorem mem_of_mem_numberedFrom {number : Nat} (inside : (number, line) ∈ numberedFrom start lines) :
    line ∈ lines ∧ line ≠ [] := by
  obtain ⟨⟨other, place⟩, among, same⟩ := List.mem_filterMap.mp inside
  by_cases blank : other = []
  · simp [blank] at same
  · simp only [if_neg blank, Option.some.injEq, Prod.mk.injEq] at same
    obtain ⟨rfl, rfl⟩ := same
    exact ⟨List.fst_mem_of_mem_zipIdx among, blank⟩

theorem map_snd_numberedFrom (start : Nat) (lines : List Text) :
    (numberedFrom start lines).map Prod.snd = lines.filter (· ≠ []) := by
  induction lines generalizing start with
  | nil => rfl
  | cons first more step => by_cases blank : first = [] <;> simp [numberedFrom_cons, blank, step]

theorem numberedFrom_append (start : Nat) (front back : List Text) :
    numberedFrom start (front ++ back) = numberedFrom start front ++ numberedFrom (start + front.length) back := by
  rw [numberedFrom, List.zipIdx_append, List.filterMap_append]
  rfl

/-- A numbered line stands behind as many lines as its number says, and those before it that are numbered are in front of
it. -/
theorem exists_of_numberedFrom_eq_append {number : Nat} {front back : List (Nat × Text)}
    (cut : numberedFrom start lines = front ++ (number, line) :: back) :
    ∃ before after, lines = before ++ line :: after ∧ number = start + before.length ∧ line ≠ [] ∧
      front = numberedFrom start before := by
  induction lines generalizing start front with
  | nil => simp [numberedFrom] at cut
  | cons first more step =>
    rw [numberedFrom_cons] at cut
    by_cases blank : first = []
    · rw [if_pos blank, List.nil_append] at cut
      obtain ⟨before, after, rfl, rfl, filled, rfl⟩ := step cut
      refine ⟨first :: before, after, rfl, ?_, filled, ?_⟩
      · rw [List.length_cons]
        omega
      · rw [numberedFrom_cons, if_pos blank, List.nil_append]
    · rw [if_neg blank, List.singleton_append] at cut
      cases front with
      | nil =>
        obtain ⟨⟨rfl, rfl⟩, _⟩ := by simpa using cut
        exact ⟨[], more, rfl, rfl, blank, rfl⟩
      | cons pair front =>
        obtain ⟨rfl, behind⟩ := List.cons.inj cut
        obtain ⟨before, after, rfl, rfl, filled, rfl⟩ := step behind
        refine ⟨first :: before, after, rfl, ?_, filled, ?_⟩
        · rw [List.length_cons]
          omega
        · rw [numberedFrom_cons, if_neg blank, List.singleton_append]

theorem numberedFrom_map_eq_iff {change : Text → Text} (blank : change [] = []) :
    numberedFrom start (lines.map change) = numberedFrom start lines ↔ ∀ line ∈ lines, change line = line := by
  induction lines generalizing start with
  | nil => simp
  | cons first more step =>
    rw [List.map_cons, numberedFrom_cons, numberedFrom_cons, List.forall_mem_cons]
    by_cases empty : first = []
    · simp [empty, blank, step]
    by_cases gone : change first = []
    · -- The number of the line that is lost does not come back.
      have lost : numberedFrom (start + 1) (more.map change) ≠ (start, first) :: numberedFrom (start + 1) more := by
        intro same
        have inside : (start, first) ∈ numberedFrom (start + 1) (more.map change) := by simp [same]
        exact absurd (start_le_of_mem_numberedFrom inside) (by omega)
      simp [empty, gone, Ne.symm empty, lost]
    · simp [empty, gone, step]

/-- Without carriage returns at their ends, the lines are the pieces between line feeds. The piece behind the last one
is no line if it is empty, but an empty line is left out in any case. -/
theorem numberedFrom_split (start : Nat) (text : Text) :
    numberedFrom start ((Text.lines text).map (trimEnd '\r')) =
      numberedFrom start ((split '\n' text).map (trimEnd '\r')) := by
  induction text using line_induction generalizing start with
  | last piece absent =>
    rw [lines_piece absent, split_piece absent]
    by_cases blank : piece = []
    · subst blank
      rfl
    · rw [if_neg blank]
  | ended line rest absent step =>
    rw [lines_append absent, split_append absent, List.map_cons, List.map_cons, numberedFrom_cons, numberedFrom_cons,
      trimEnd_withoutReturn, step]

end Numbers

end LineTemplates.Text
