import LineTemplates.CaseFile.Suite
import LineTemplates.Proofs.Folder.Files
import LineTemplates.Proofs.Text.Lines
import LineTemplates.Proofs.Text.Order

/-! The cases of a suite, their categories, and the choice of some of these. A case file of the folder is in one
category, at one place; what is requested only decides which of the categories are kept. -/

namespace LineTemplates

namespace Suite

open Folder (Plain)

def IsCase (path : List Text) : Prop := caseEnding <:+ path.getLastD []

instance (path : List Text) : Decidable (IsCase path) := inferInstanceAs (Decidable (_ <:+ _))

section Discovery

variable {root : Text} {folder : Folder} {above path : List Text} {content : FileContent}

theorem casesAt_eq (short : isTooLong root path = false) (content : FileContent) :
    casesAt root path content = if IsCase path then [⟨path, content⟩] else [] := by
  have named : (stem? (path.getLastD [])).isNone = !decide (IsCase path) := by
    unfold stem? IsCase
    split <;> simp_all
  rw [casesAt, named, short]
  by_cases ending : IsCase path <;> simp [ending]

/-- In a folder without a path that is too long, the cases are the files with the name of a case file. -/
theorem casesFrom_eq (short : ∀ path ∈ folder.paths, isTooLong root (above ++ path) = false) :
    casesFrom root above folder =
      (folder.files.filter fun file => IsCase (above ++ file.1)).map fun file => ⟨above ++ file.1, file.2⟩ := by
  induction folder generalizing above with
  | empty => rfl
  | file name content next step =>
    rw [Folder.paths, List.forall_mem_cons] at short
    rw [casesFrom, casesAt_eq short.1, step short.2, Folder.files]
    by_cases ending : IsCase (above ++ [name]) <;> simp [ending]
  | folder name inner next stepInner step =>
    rw [Folder.paths, List.cons_append, List.forall_mem_cons, List.forall_mem_append, List.forall_mem_map] at short
    obtain ⟨here, below, later⟩ := short
    have through (path : List Text) : (above ++ [name]) ++ path = above ++ name :: path := by simp
    have within : ∀ path ∈ inner.paths, isTooLong root ((above ++ [name]) ++ path) = false := by
      intro path among
      rw [through]
      exact below path among
    rw [casesFrom, here, stepInner within, step later, Folder.files, List.filter_append, List.map_append,
      List.filter_map, List.map_map]
    simp only [through]
    rfl

end Discovery

section Names

variable {path other : List Text}

theorem slashed_eq_nil_iff (plain : ∀ name ∈ path, Plain name) : slashed path = [] ↔ path = [] := by
  cases path with
  | nil => simp [slashed, Text.join]
  | cons name more =>
    have filled := (plain name List.mem_cons_self).filled
    by_cases last : more = []
    · simp [slashed, Text.join, last, filled]
    · simp [slashed, Text.join, List.intercalate_cons_of_ne_nil last]

theorem slashed_inj (plain : ∀ name ∈ path, Plain name) (otherPlain : ∀ name ∈ other, Plain name) :
    slashed path = slashed other ↔ path = other := by
  refine ⟨fun same => ?_, congrArg slashed⟩
  by_cases none : path = []
  · rw [(slashed_eq_nil_iff plain).mpr none] at same
    rw [none, (slashed_eq_nil_iff otherPlain).mp same.symm]
  · have noOther : other ≠ [] := by
      rw [Ne, ← slashed_eq_nil_iff otherPlain, ← same, slashed_eq_nil_iff plain]
      exact none
    calc path
      _ = Text.split '/' (slashed path) := (Text.split_join none fun name among => (plain name among).noSlash).symm
      _ = Text.split '/' (slashed other) := by rw [same]
      _ = other := Text.split_join noOther fun name among => (otherPlain name among).noSlash

theorem categoryName_eq {case : SuiteCase} (plain : ∀ name ∈ case.path, Plain name) :
    categoryName case = slashed case.path.dropLast := by
  have absent : '\\' ∉ slashed case.path.dropLast :=
    Text.not_mem_join (by decide) fun name among => (plain name ((List.dropLast_sublist _).subset among)).noBackslash
  unfold categoryName
  refine (List.map_congr_left fun char inside => ?_).trans (List.map_id _)
  have other : char ≠ '\\' := fun same => absent (same ▸ inside)
  exact if_neg other

end Names

section Requests

/-- Whether a category is asked for: all are without requests, and else those that a request names without the slashes
at its ends, and those that lie below one. -/
def Requested (requests : List Text) (name : Text) : Prop :=
  requests = [] ∨ ∃ request ∈ requests, name = Text.trim '/' request ∨ Text.trim '/' request ++ ['/'] <+: name

instance (requests : List Text) (name : Text) : Decidable (Requested requests name) :=
  inferInstanceAs (Decidable (_ ∨ _))

theorem mem_choose_iff {names chosen requests : List Text} {name : Text} :
    name ∈ (choose names chosen requests).1 ↔
      name ∈ chosen ∨ name ∈ names ∧ ∃ request ∈ requests, answers (Text.trim '/' request) name = true := by
  induction requests generalizing chosen with
  | nil => simp [choose]
  | cons request more step =>
    rw [choose]
    dsimp only
    rw [step, List.mem_append, List.mem_filter, List.exists_mem_cons_iff]
    by_cases before : name ∈ chosen
    · simp [before]
    · have fresh : chosen.contains name = false := by simpa using before
      simp only [before, fresh, Bool.not_false, Bool.and_true, false_or, and_or_left]

theorem select_eq (categories : List Category) (requests : List Text) :
    (select categories requests).1 = categories.filter fun category => Requested requests category.name := by
  unfold select
  by_cases none : requests = []
  · simp [none, Requested]
  · rw [if_neg (by simpa using none)]
    apply List.filter_congr
    intro category among
    rw [Bool.eq_iff_iff, List.contains_iff_mem, mem_choose_iff, decide_eq_true_iff]
    have listed : category.name ∈ categories.map Category.name := List.mem_map_of_mem among
    simp [Requested, none, listed, answers]

end Requests

section Categories

variable {root : Text} {folder : Folder} {category : Category} {case : SuiteCase}

theorem cases_eq (among : category ∈ categories root folder) :
    category.cases = sortedCases ((casesFrom root [] folder).filter (categoryName · = category.name)) := by
  obtain ⟨name, _, rfl⟩ := List.mem_map.mp among
  rfl

theorem mem_cases_iff (among : category ∈ categories root folder) :
    case ∈ category.cases ↔ case ∈ casesFrom root [] folder ∧ categoryName case = category.name := by
  rw [cases_eq among, sortedCases, List.mem_mergeSort, List.mem_filter, decide_eq_true_iff]

theorem names_eq (root : Text) (folder : Folder) :
    (categories root folder).map Category.name = sortedNames ((casesFrom root [] folder).map categoryName) := by
  rw [categories, List.map_map]
  exact List.map_id _

theorem mem_names_iff (name : Text) :
    name ∈ (categories root folder).map Category.name ↔
      ∃ case ∈ casesFrom root [] folder, categoryName case = name := by
  rw [names_eq, sortedNames, List.mem_eraseDups, List.mem_mergeSort, List.mem_map]

theorem pairwise_names (root : Text) (folder : Folder) :
    ((categories root folder).map Category.name).Pairwise (· < ·) := by
  rw [names_eq]
  exact Text.pairwise_lt_eraseDups _ (Text.pairwise_mergeSort_le id Text.notAfter_iff _)

theorem cases_ne_nil (among : category ∈ categories root folder) : category.cases ≠ [] := by
  obtain ⟨case, inside, named⟩ := (mem_names_iff category.name).mp (List.mem_map_of_mem among)
  exact List.ne_nil_of_mem ((mem_cases_iff among).mpr ⟨inside, named⟩)

end Categories

structure Readable (root : Text) (folder : Folder) : Prop where
  tidy : folder.Tidy
  short : ∀ path ∈ folder.paths, isTooLong root path = false

section Tree

variable {root : Text} {folder : Folder} {category : Category} {case : SuiteCase}

theorem mem_casesFrom_iff (readable : Readable root folder) :
    case ∈ casesFrom root [] folder ↔ (case.path, case.content) ∈ folder.files ∧ IsCase case.path := by
  rw [casesFrom_eq readable.short, List.mem_map]
  constructor
  · rintro ⟨⟨path, content⟩, inside, rfl⟩
    rw [List.mem_filter, decide_eq_true_iff] at inside
    exact inside
  · rintro ⟨inside, ending⟩
    exact ⟨_, List.mem_filter.mpr ⟨inside, decide_eq_true ending⟩, rfl⟩

theorem categoryName_of_readable (readable : Readable root folder) (inside : case ∈ casesFrom root [] folder) :
    categoryName case = slashed case.path.dropLast :=
  categoryName_eq (readable.tidy.plain ((mem_casesFrom_iff readable).mp inside).1)

theorem nodup_paths (readable : Readable root folder) : ((casesFrom root [] folder).map SuiteCase.path).Nodup := by
  rw [casesFrom_eq readable.short, List.map_map]
  exact readable.tidy.nodup.sublist (List.filter_sublist.map Prod.fst)

theorem nodup_paths_of_category (readable : Readable root folder) (among : category ∈ categories root folder) :
    (category.cases.map SuiteCase.path).Nodup := by
  rw [cases_eq among, sortedCases, ((List.mergeSort_perm _ _).map SuiteCase.path).nodup_iff]
  exact (nodup_paths readable).sublist (List.filter_sublist.map SuiteCase.path)

theorem exists_above_of_mem_cases (readable : Readable root folder) (among : category ∈ categories root folder)
    (inside : case ∈ category.cases) :
    ∃ above name, case.path = above ++ [name] ∧ slashed above = category.name ∧ ∀ part ∈ above, Plain part := by
  obtain ⟨found, named⟩ := (mem_cases_iff among).mp inside
  have filed := ((mem_casesFrom_iff readable).mp found).1
  have some := Folder.ne_nil_of_mem_files filed
  refine ⟨case.path.dropLast, case.path.getLast some, (List.dropLast_append_getLast some).symm, ?_, ?_⟩
  · exact (categoryName_of_readable readable found).symm.trans named
  · exact fun part here => readable.tidy.plain filed part ((List.dropLast_sublist _).subset here)

theorem pairwise_cases (readable : Readable root folder) (among : category ∈ categories root folder) :
    (category.cases.map fun case => case.path.getLastD []).Pairwise (· < ·) := by
  have sorted : category.cases.Pairwise (·.path ≤ ·.path) := by
    rw [cases_eq among]
    exact Text.pairwise_mergeSort_le SuiteCase.path (fun _ _ => Text.pathNotAfter_iff _ _) _
  have distinct : category.cases.Pairwise (·.path ≠ ·.path) :=
    List.pairwise_map.mp (nodup_paths_of_category readable among)
  rw [List.pairwise_map]
  refine (sorted.and distinct).imp_of_mem ?_
  intro first second inFirst inSecond both
  have lower : first.path < second.path := lt_of_le_of_ne both.1 both.2
  -- Both stand in one folder, so that their names decide.
  obtain ⟨above, name, path, named, plain⟩ := exists_above_of_mem_cases readable among inFirst
  obtain ⟨other, otherName, otherPath, otherNamed, otherPlain⟩ := exists_above_of_mem_cases readable among inSecond
  obtain rfl := (slashed_inj plain otherPlain).mp (named.trans otherNamed.symm)
  rw [path, otherPath] at lower ⊢
  simpa using Text.lt_of_concat_lt lower

end Tree

section Runs

variable {root : Text} {folder : Folder} {case : SuiteCase}

def runs (root : Text) (folder : Folder) (requests : List Text) : List SuiteCase :=
  (select (categories root folder) requests).1.flatMap Category.cases

/-- A file is run just if it has the name of a case file and its folder is asked for. -/
theorem mem_runs_iff (readable : Readable root folder) (requests : List Text) :
    case ∈ runs root folder requests ↔ (case.path, case.content) ∈ folder.files ∧ IsCase case.path ∧
      Requested requests (slashed case.path.dropLast) := by
  rw [runs, select_eq, List.mem_flatMap]
  constructor
  · rintro ⟨category, chosen, inside⟩
    obtain ⟨among, requested⟩ := List.mem_filter.mp chosen
    obtain ⟨found, named⟩ := (mem_cases_iff among).mp inside
    obtain ⟨filed, ending⟩ := (mem_casesFrom_iff readable).mp found
    refine ⟨filed, ending, ?_⟩
    rw [← categoryName_of_readable readable found, named]
    exact of_decide_eq_true requested
  · rintro ⟨filed, ending, requested⟩
    have found := (mem_casesFrom_iff readable).mpr ⟨filed, ending⟩
    obtain ⟨category, among, named⟩ := List.mem_map.mp ((mem_names_iff _).mpr ⟨case, found, rfl⟩)
    rw [← categoryName_of_readable readable found, ← named] at requested
    exact ⟨category, List.mem_filter.mpr ⟨among, decide_eq_true requested⟩,
      (mem_cases_iff among).mpr ⟨found, named.symm⟩⟩

theorem nodup_runs (readable : Readable root folder) (requests : List Text) :
    ((runs root folder requests).map SuiteCase.path).Nodup := by
  rw [runs, select_eq, List.map_flatMap, List.nodup_flatMap]
  constructor
  · intro category chosen
    exact nodup_paths_of_category readable (List.mem_filter.mp chosen).1
  · have ascending := List.pairwise_map.mp (pairwise_names root folder)
    refine (ascending.filter _).imp_of_mem ?_
    intro first second inFirst inSecond lower path inside again
    -- The name of a category is read off the path of a case in it.
    obtain ⟨case, here, rfl⟩ := List.mem_map.mp inside
    obtain ⟨other, there, same⟩ := List.mem_map.mp again
    have named := ((mem_cases_iff (List.mem_filter.mp inFirst).1).mp here).2
    have otherNamed := ((mem_cases_iff (List.mem_filter.mp inSecond).1).mp there).2
    rw [categoryName, same] at otherNamed
    exact absurd (named.symm.trans otherNamed) lower.ne

end Runs

end Suite

end LineTemplates
