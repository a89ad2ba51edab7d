import LineTemplates.Proofs.CaseFile.Selection
import LineTemplates.Proofs.Program.Transcript

/-! Runs of a suite. What `test` prints and how it exits comes from the cases of the chosen categories, each of them run
once: the lines of every category, the count of the cases that pass and that fail, and success if there is a case and
none of them fails. -/

namespace LineTemplates

def SuiteCase.Passes [TomlDecoder] (case : SuiteCase) : Prop := (CaseFile.run (.file case.content)).failure = none

instance [TomlDecoder] (case : SuiteCase) : Decidable case.Passes := inferInstanceAs (Decidable (_ = _))

namespace GroupReport

def caseReport [TomlDecoder] (root : Text) (case : SuiteCase) : CaseReport :=
  .ofFound (Suite.pathIn root case.path) (case.path.getLastD []) (.file case.content)

theorem passed_caseReport [TomlDecoder] (root : Text) (case : SuiteCase) :
    (caseReport root case).passed = decide case.Passes := by
  rw [Bool.eq_iff_iff, decide_eq_true_iff]
  exact Option.isNone_iff_eq_none

end GroupReport

namespace Program

section Outcome

variable [TomlDecoder]

theorem exists_details_suiteOutcome (plain : Bool) (groups : List GroupReport) :
    let reports := groups.flatMap GroupReport.cases
    ∃ details, (suiteOutcome plain groups).transcript.errors =
      groups.flatMap (groupLines plain) ++ details ++
        ["", summaryLine plain (reports.countP (·.passed)) (reports.countP (!·.passed))] := by
  intro reports
  have failed : (reports.filter (!·.passed)).length = reports.countP (!·.passed) := List.countP_eq_length_filter.symm
  have total := reports.length_eq_countP_add_countP (·.passed)
  have others : reports.countP (fun report => decide ¬report.passed = true) = reports.countP (!·.passed) := by
    simp
  rw [others] at total
  have passed : reports.length - (reports.filter (!·.passed)).length = reports.countP (·.passed) := by omega
  unfold suiteOutcome
  dsimp only
  rw [passed, failed]
  exact ⟨_, rfl⟩

theorem code_suiteOutcome_eq_zero_iff (plain : Bool) (groups : List GroupReport) :
    (suiteOutcome plain groups).code = 0 ↔ ∀ report ∈ groups.flatMap GroupReport.cases, report.passed = true := by
  have none : ((groups.flatMap GroupReport.cases).filter (!·.passed)).isEmpty = true ↔
      ∀ report ∈ groups.flatMap GroupReport.cases, report.passed = true := by
    rw [List.isEmpty_iff, List.filter_eq_nil_iff]
    simp
  rw [← none]
  unfold suiteOutcome
  dsimp only
  generalize ((groups.flatMap GroupReport.cases).filter (!·.passed)).isEmpty = empty
  cases empty <;> simp

theorem reports_eq (root : Text) (selected : List Category) :
    (selected.map (GroupReport.ofCategory root)).flatMap GroupReport.cases =
      (selected.flatMap Category.cases).map (GroupReport.caseReport root) := by
  rw [List.flatMap_map, List.map_flatMap]
  rfl

theorem exists_summary (plain : Bool) (root : Text) (selected : List Category) :
    let runs := selected.flatMap Category.cases
    let groups := selected.map (GroupReport.ofCategory root)
    ∃ details passed failed, passed = runs.countP (·.Passes) ∧ passed + failed = runs.length ∧
      (suiteOutcome plain groups).transcript.errors =
        groups.flatMap (groupLines plain) ++ details ++ ["", summaryLine plain passed failed] := by
  intro runs groups
  have passes (case : SuiteCase) : (GroupReport.caseReport root case).passed = decide case.Passes :=
    GroupReport.passed_caseReport root case
  obtain ⟨details, printed⟩ := exists_details_suiteOutcome plain groups
  rw [reports_eq] at printed
  have total := (runs.map (GroupReport.caseReport root)).length_eq_countP_add_countP (·.passed)
  refine ⟨details, _, _, ?_, ?_, printed⟩
  · simp only [List.countP_map, Function.comp_def, passes, runs]
  · rw [List.length_map] at total
    simp only [total, Bool.not_eq_true, Bool.decide_eq_false, runs]

theorem code_eq_zero_iff (plain : Bool) (root : Text) (selected : List Category) :
    (suiteOutcome plain (selected.map (GroupReport.ofCategory root))).code = 0 ↔
      ∀ case ∈ selected.flatMap Category.cases, case.Passes := by
  rw [code_suiteOutcome_eq_zero_iff, reports_eq, List.forall_mem_map]
  simp only [GroupReport.passed_caseReport, decide_eq_true_iff]

end Outcome

section Test

variable {files : Files} {root : Text} {inner : Folder}

/-- In a folder the cases of the chosen categories are run, if there are any. -/
theorem test_of_folder [TomlDecoder] (found : files.find root = .folder inner) (plain : Bool) (requests : List Text) :
    let selected := (Suite.select (Suite.categories root inner) requests).1
    if selected = [] then (test files plain root requests).code = 1
    else ∃ warnings, test files plain root requests =
      let outcome := suiteOutcome plain (selected.map (GroupReport.ofCategory root))
      ⟨outcome.code, .ofErrors warnings ++ outcome.transcript⟩ := by
  have categories_eq : categoriesAt files root = Suite.categories root inner := by simp [categoriesAt, found]
  unfold test
  rw [found, categories_eq]
  dsimp only
  by_cases none : Suite.categories root inner = []
  · have noneSelected : (Suite.select (Suite.categories root inner) requests).1 = [] := by
      rw [Suite.select_eq, none, List.filter_nil]
    rw [if_pos noneSelected, if_pos (by simp [none])]
    rfl
  · rw [if_neg (c := (Suite.categories root inner).isEmpty = true) (by simpa using none)]
    split
    · rename_i noneSelected
      rw [if_pos (by simp [noneSelected])]
      rfl
    · rename_i some
      rw [if_neg (by simpa using some)]
      exact ⟨_, rfl⟩

def deniedSuite : Folder :=
  .file ('a' :: Suite.caseEnding) (.ok "".toUTF8) <|
    .folder ['b'] (.file ('c' :: Suite.caseEnding) (.error .denied) .empty) .empty

def deniedFiles : Files where
  find _ := .folder deniedSuite
  modified _ := 0

end Test

end Program

end LineTemplates
