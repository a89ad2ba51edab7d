import LineTemplates.CaseFile
import LineTemplates.Proofs.Folder.Files
import LineTemplates.Proofs.Registry.Entries
import LineTemplates.Proofs.Text.Lines

/-! The verdict of a case. A case passes just if its templates and its lines are what they are expected to be; a case that
fails on a line names the first line that is not. -/

namespace LineTemplates

namespace Expectation

/-- A line is what it is expected to be: it is refused, or no template matches it, or else one does, which has the expected
name and takes the expected arguments as far as there are any. -/
def Met (registry : Registry) (line : Text) (expected : Expectation) : Prop :=
  if expected.error then ∃ error, registry.parseLine line = .error error
  else if expected.noMatch then registry.parseLine line = .ok none
  else ∃ found, registry.parseLine line = .ok (some found) ∧ (∀ name ∈ expected.template, found.template = name) ∧
    ∀ arguments ∈ expected.arguments, found.arguments = arguments

variable {registry : Registry} {line : Text} {expected : Expectation}

theorem filter_ne_eq_none_iff {α : Type} [DecidableEq α] {given : Option α} {actual : α} :
    given.filter (· ≠ actual) = none ↔ ∀ value ∈ given, actual = value := by
  cases given with
  | none => simp
  | some value => by_cases same : actual = value <;> simp [Option.filter, same, Ne.symm]

theorem matchMismatch?_eq_none_iff {found : LineMatch} :
    CaseFile.matchMismatch? expected found = none ↔
      (∀ name ∈ expected.template, found.template = name) ∧
        ∀ arguments ∈ expected.arguments, found.arguments = arguments := by
  rw [← filter_ne_eq_none_iff, ← filter_ne_eq_none_iff, CaseFile.matchMismatch?]
  cases expected.template.filter (· ≠ found.template) <;> cases expected.arguments.filter (· ≠ found.arguments) <;> simp

theorem mismatch?_eq_none_iff :
    CaseFile.mismatch? (registry.parseLine line) expected = none ↔ expected.Met registry line := by
  unfold CaseFile.mismatch? Met
  cases registry.parseLine line with
  | error error => by_cases refused : expected.error = true <;> simp [refused]
  | ok answer =>
    by_cases refused : expected.error = true
    · simp [refused]
    cases answer with
    | none => by_cases unmatched : expected.noMatch = true <;> simp [refused, unmatched]
    | some found =>
      by_cases unmatched : expected.noMatch = true
      · simp [refused, unmatched]
      · simp [refused, unmatched, matchMismatch?_eq_none_iff]

instance : Decidable (expected.Met registry line) := decidable_of_iff _ mismatch?_eq_none_iff

end Expectation

namespace CaseFile

open Text (numberedFrom)

section Lines

variable {registry : Registry} {expectations : List Expectation} {pairs : List (Nat × Text)} {lines : List Text}

theorem firstMismatch?_eq_none_iff (paired : pairs.length = expectations.length) :
    firstMismatch? registry pairs expectations = none ↔
      List.Forall₂ (fun line expected => Expectation.Met registry line expected) (pairs.map Prod.snd) expectations := by
  induction pairs generalizing expectations with
  | nil =>
    obtain rfl := List.length_eq_zero_iff.mp paired.symm
    simp [firstMismatch?]
  | cons pair more step =>
    obtain ⟨number, line⟩ := pair
    obtain ⟨expected, expectations, rfl⟩ := List.exists_cons_of_length_eq_add_one paired.symm
    rw [firstMismatch?, List.map_cons, List.forall₂_cons, ← Expectation.mismatch?_eq_none_iff]
    cases mismatch? (registry.parseLine line) expected with
    | none => simpa using step (by simpa using paired)
    | some mismatch => simp

theorem firstMismatch?_append {front back : List (Nat × Text)} {earlier later : List Expectation} {number : Nat}
    {line : Text} {expected : Expectation} {mismatch : Mismatch}
    (met : List.Forall₂ (fun line expected => Expectation.Met registry line expected) (front.map Prod.snd) earlier)
    (unmet : mismatch? (registry.parseLine line) expected = some mismatch) :
    firstMismatch? registry (front ++ (number, line) :: back) (earlier ++ expected :: later) =
      some (.line number line mismatch) := by
  induction front generalizing earlier with
  | nil =>
    cases met
    rw [List.nil_append, List.nil_append, firstMismatch?, unmet]
  | cons pair more step =>
    cases met with
    | cons first met =>
      rw [List.cons_append, List.cons_append, firstMismatch?, Expectation.mismatch?_eq_none_iff.mpr first]
      exact step met

/-- A mismatch is that of the first line that is not what it is expected to be. -/
theorem exists_of_firstMismatch? {failure : CaseFailure}
    (found : firstMismatch? registry pairs expectations = some failure) :
    ∃ front number line back earlier expected later mismatch, pairs = front ++ (number, line) :: back ∧
      expectations = earlier ++ expected :: later ∧
      List.Forall₂ (fun line expected => Expectation.Met registry line expected) (front.map Prod.snd) earlier ∧
      mismatch? (registry.parseLine line) expected = some mismatch ∧ failure = .line number line mismatch := by
  fun_induction firstMismatch? registry pairs expectations with
  | case1 number line lines expected expectations mismatch unmet =>
    cases found
    exact ⟨[], number, line, lines, [], expected, expectations, mismatch, rfl, rfl, .nil, unmet, rfl⟩
  | case2 number line lines expected expectations met step =>
    obtain ⟨front, _, _, back, earlier, _, later, _, rfl, rfl, before, unmet, rfl⟩ := step found
    have first := Expectation.mismatch?_eq_none_iff.mp met
    exact ⟨(number, line) :: front, _, _, back, expected :: earlier, _, later, _, rfl, rfl, .cons first before, unmet, rfl⟩
  | case3 => cases found

/-- The line of the given number is the first one that is not what it is expected to be. Empty lines count, but nothing is
expected of them. -/
def FirstUnmet (registry : Registry) (lines : List Text) (expectations : List Expectation) (number : Nat) (line : Text) :
    Prop :=
  ∃ before after earlier later expected, lines = before ++ line :: after ∧ number = before.length + 1 ∧ line ≠ [] ∧
    expectations = earlier ++ expected :: later ∧
    List.Forall₂ (fun line expected => Expectation.Met registry line expected) (before.filter (· ≠ [])) earlier ∧
    ¬ expected.Met registry line

theorem firstUnmet_iff {number : Nat} {line : Text} :
    (∃ mismatch, firstMismatch? registry (numberedFrom 1 lines) expectations = some (.line number line mismatch)) ↔
      FirstUnmet registry lines expectations number line := by
  constructor
  · rintro ⟨mismatch, found⟩
    obtain ⟨front, _, _, back, earlier, expected, later, _, cut, whole, met, unmet, same⟩ := exists_of_firstMismatch? found
    cases same
    obtain ⟨before, after, rfl, rfl, filled, rfl⟩ := Text.exists_of_numberedFrom_eq_append cut
    rw [Text.map_snd_numberedFrom] at met
    refine ⟨before, after, earlier, later, expected, rfl, Nat.add_comm .., filled, whole, met, ?_⟩
    rw [← Expectation.mismatch?_eq_none_iff, unmet]
    exact Option.some_ne_none mismatch
  · rintro ⟨before, after, earlier, later, expected, rfl, rfl, filled, rfl, met, unmet⟩
    rw [← Expectation.mismatch?_eq_none_iff, ← Ne, Option.ne_none_iff_exists'] at unmet
    obtain ⟨mismatch, unmet⟩ := unmet
    rw [← Text.map_snd_numberedFrom 1] at met
    refine ⟨mismatch, ?_⟩
    rw [Text.numberedFrom_append, Text.numberedFrom_cons, if_neg filled, List.singleton_append,
      firstMismatch?_append met unmet, Nat.add_comm]

end Lines

section Cases

variable {found : Found} {content body : Text} {header : CaseHeader}

theorem failure_run [TomlDecoder] (readable : found.text = .ok content) (parsed : read content = .ok (header, body)) :
    (run found).failure = failure? header body := by
  rw [run, readable]
  dsimp only
  rw [parsed]

def CompilesTo (header : CaseHeader) (registry : Registry) : Prop :=
  List.Forall₂ (fun entry template => Template.compile entry.name entry.source = .ok template) header.templates
    registry.templates

theorem compilesTo_iff {registry : Registry} :
    CompilesTo header registry ↔ TemplateSet.compile header.templates = .ok registry :=
  TemplateSet.compile_eq_ok_iff_forall₂.symm

theorem failure?_eq_none_iff_faulty (expects : header.expectsGrammarError = true) :
    failure? header body = none ↔
      ∃ entry ∈ header.templates, ∃ error, Template.compile entry.name entry.source = .error error := by
  have faulty : failure? header body = none ↔ ¬ ∃ registry, TemplateSet.compile header.templates = .ok registry := by
    rw [failure?, expects]
    cases TemplateSet.compile header.templates <;> simp
  rw [faulty, TemplateSet.compile_eq_ok_iff_forall]
  push Not
  refine exists_congr fun entry => and_congr_right fun _ => ?_
  cases Template.compile entry.name entry.source <;> simp

theorem failure?_eq_iff (expects : header.expectsGrammarError = false) {outcome : Option CaseFailure}
    (noFault : ∀ errors, outcome ≠ some (.grammar errors)) :
    failure? header body = outcome ↔
      ∃ registry, CompilesTo header registry ∧ bodyFailure? registry body header.expectations = outcome := by
  simp only [compilesTo_iff]
  rw [failure?, expects]
  cases TemplateSet.compile header.templates with
  | ok registry => simp
  | error errors => simpa using (noFault _).symm

theorem bodyFailure?_eq_iff {registry : Registry} {expectations : List Expectation} {outcome : Option CaseFailure}
    (noCount : ∀ lines expectations, outcome ≠ some (.lineCount lines expectations)) :
    bodyFailure? registry body expectations = outcome ↔
      ((Text.lines body).filter (· ≠ [])).length = expectations.length ∧
        firstMismatch? registry (numberedFrom 1 (Text.lines body)) expectations = outcome := by
  have count : (bodyLines body).length = ((Text.lines body).filter (· ≠ [])).length := by
    rw [← Text.map_snd_numberedFrom 1, List.length_map]
    rfl
  rw [bodyFailure?, count]
  split
  · rename_i differ
    exact iff_of_false (noCount _ _).symm fun both => differ both.1
  · rename_i same
    exact (and_iff_right (not_not.mp same)).symm

end Cases

end CaseFile

end LineTemplates
