import LineTemplates.Proofs.CaseFile.Selection
import LineTemplates.Proofs.Program.Transcript

/-! Requests for categories. They choose the categories that they name and those that lie below one, whatever their
order and however often they are made. The warning of a request comes from what it adds to the requests before it, so
that one that only names what they have named is warned of as well, although it is known. -/

namespace LineTemplates

namespace Suite

/-- Whether a request, without the slashes at its ends, is the path of a category or of a folder that the category lies
below. -/
def Names (request name : Text) : Prop := Text.split '/' (Text.trim '/' request) <+: Text.split '/' name

instance (request name : Text) : Decidable (Names request name) := inferInstanceAs (Decidable (_ <+: _))

/-- Whether a request names no other category than the requests before it. -/
def AddsNothing (names earlier : List Text) (request : Text) : Prop :=
  ∀ name ∈ names, Names request name → ∃ other ∈ earlier, Names other name

instance (names earlier : List Text) (request : Text) : Decidable (AddsNothing names earlier request) :=
  inferInstanceAs (Decidable (∀ name ∈ names, _))

def turns : List Text → List (List Text × Text)
  | [] => []
  | request :: more => ([], request) :: (turns more).map fun (earlier, other) => (request :: earlier, other)

section Turns

variable {requests : List Text}

theorem map_snd_turns (requests : List Text) : (turns requests).map Prod.snd = requests := by
  induction requests with
  | nil => rfl
  | cons request more step =>
    rw [turns, List.map_cons, List.map_map]
    exact congrArg (request :: ·) step

theorem mem_turns_iff {before : List Text} {request : Text} :
    (before, request) ∈ turns requests ↔ ∃ after, requests = before ++ request :: after := by
  induction requests generalizing before with
  | nil => simp [turns]
  | cons first more step =>
    rw [turns, List.mem_cons, List.mem_map]
    constructor
    · rintro (⟨rfl, rfl⟩ | ⟨⟨front, other⟩, inside, ⟨rfl, rfl⟩⟩)
      · exact ⟨more, rfl⟩
      · obtain ⟨after, rfl⟩ := step.mp inside
        exact ⟨after, rfl⟩
    · rintro ⟨after, whole⟩
      cases before with
      | nil =>
        obtain ⟨rfl, -⟩ := List.cons.inj whole
        exact .inl rfl
      | cons head front =>
        obtain ⟨rfl, rest⟩ := List.cons.inj whole
        exact .inr ⟨(front, request), step.mpr ⟨after, rest⟩, rfl⟩

end Turns

theorem answers_iff {request name : Text} : answers (Text.trim '/' request) name = true ↔ Names request name := by
  simp [answers, Names, Text.split_prefix_split_iff]

theorem requested_iff {requests : List Text} {name : Text} :
    Requested requests name ↔ requests = [] ∨ ∃ request ∈ requests, Names request name := by
  simp only [Requested, Names, Text.split_prefix_split_iff]

/-- The requests that are to be warned of are those that add nothing to the ones before them. -/
theorem warned_choose {names chosen earlier requests : List Text}
    (covered : ∀ name ∈ names, name ∈ chosen ↔ ∃ other ∈ earlier, Names other name) :
    (choose names chosen requests).2 =
      ((turns requests).filter fun turn => AddsNothing names (earlier ++ turn.1) turn.2).map
        fun turn => Text.trim '/' turn.2 := by
  induction requests generalizing chosen earlier with
  | nil => rfl
  | cons request more step =>
    rw [choose, turns]
    dsimp only
    set fresh := names.filter fun name => answers (Text.trim '/' request) name && !chosen.contains name with fresh_eq
    have mem_fresh_iff (name : Text) : name ∈ fresh ↔ name ∈ names ∧ Names request name ∧ name ∉ chosen := by
      simp [fresh_eq, answers_iff]
    have empty : fresh.isEmpty = true ↔ AddsNothing names earlier request := by
      rw [List.isEmpty_iff, List.eq_nil_iff_forall_not_mem]
      refine forall_congr' fun name => ?_
      rw [mem_fresh_iff, not_and, not_and, not_not]
      exact imp_congr_right fun among => imp_congr_right fun _ => covered name among
    have coveredMore : ∀ name ∈ names, name ∈ chosen ++ fresh ↔ ∃ other ∈ earlier ++ [request], Names other name := by
      intro name among
      have both : (∃ other ∈ earlier ++ [request], Names other name) ↔ name ∈ chosen ∨ Names request name := by
        simp [or_and_right, exists_or, covered name among]
      rw [both, List.mem_append, mem_fresh_iff, and_iff_right among]
      by_cases before : name ∈ chosen <;> simp [before]
    have later := step coveredMore
    simp only [List.append_assoc, List.singleton_append] at later
    rw [later, List.filter_cons, List.append_nil, List.filter_map]
    by_cases adds : AddsNothing names earlier request
    · simp [empty.mpr adds, adds, Function.comp_def]
    · simp [mt empty.mp adds, adds, Function.comp_def]

theorem warned_select (categories : List Category) (requests : List Text) :
    (select categories requests).2 =
      ((turns requests).filter fun turn => AddsNothing (categories.map Category.name) turn.1 turn.2).map
        fun turn => Text.trim '/' turn.2 := by
  rw [select]
  split
  · rename_i none
    rw [List.isEmpty_iff.mp none]
    rfl
  · have start : ∀ name ∈ categories.map Category.name, name ∈ [] ↔ ∃ other ∈ [], Names other name := by simp
    exact warned_choose start

/-- Filters of which one keeps all that the other keeps leave the same row just if they agree. -/
theorem map_filter_eq_iff {α β : Type} {kept also : α → Bool} {items : List α} (change : α → β)
    (weaker : ∀ item ∈ items, kept item = true → also item = true) :
    (items.filter also).map change = (items.filter kept).map change ↔
      ∀ item ∈ items, also item = true → kept item = true := by
  constructor
  · intro same item inside passes
    have within : (items.filter also).filter kept = items.filter kept := by
      rw [List.filter_filter]
      apply List.filter_congr
      intro other among
      cases keeps : kept other with
      | true => simp [weaker other among keeps]
      | false => simp
    have whole : ((items.filter also).filter kept).length = (items.filter also).length := by
      rw [within]
      simpa using (congrArg List.length same).symm
    exact List.length_filter_eq_length_iff.mp whole item (List.mem_filter.mpr ⟨inside, passes⟩)
  · intro agree
    have same : items.filter also = items.filter kept :=
      List.filter_congr fun item inside => Bool.eq_iff_iff.mpr ⟨agree item inside, weaker item inside⟩
    rw [same]

theorem warned_eq_unknown_iff (names requests : List Text) :
    ((turns requests).filter fun turn => AddsNothing names turn.1 turn.2).map (fun turn => Text.trim '/' turn.2) =
        (requests.filter fun request => ∀ name ∈ names, ¬ Names request name).map (Text.trim '/') ↔
      ∀ before request after, requests = before ++ request :: after → AddsNothing names before request →
        ∀ name ∈ names, ¬ Names request name := by
  have unknown : (requests.filter fun request => ∀ name ∈ names, ¬ Names request name).map (Text.trim '/') =
      ((turns requests).filter fun turn => ∀ name ∈ names, ¬ Names turn.2 name).map fun turn =>
        Text.trim '/' turn.2 := by
    conv_lhs => rw [← map_snd_turns requests, List.filter_map, List.map_map]
    rfl
  rw [unknown, map_filter_eq_iff]
  · simp only [Prod.forall, mem_turns_iff, decide_eq_true_iff, forall_exists_index]
  · intro turn _ none
    have none := of_decide_eq_true none
    exact decide_eq_true fun name among named => absurd named (none name among)

end Suite

namespace Program

variable {files : Files} {root : Text} {categories : List Category}

theorem errors_test [TomlDecoder] (found : categoriesAt files root = categories) (some : categories ≠ [])
    (plain : Bool) (requests : List Text) :
    (test files plain root requests).transcript.errors =
      let selected := (Suite.select categories requests).1
      (Suite.select categories requests).2.map (warningLine categories) ++
        if selected.isEmpty then ["no matching categories found"]
        else (suiteOutcome plain (selected.map (GroupReport.ofCategory root))).transcript.errors := by
  subst found
  unfold test
  split
  · rename_i content single
    exact absurd (by simp [categoriesAt, single]) some
  · dsimp only
    rw [if_neg (c := (categoriesAt files root).isEmpty = true) (by simpa using some)]
    split
    · simp [fails]
    · simp

/-- Requests choose the categories that they name and those below, whatever their order and their number. Warned of are
the requests that name no other category than those before them; these are the unknown ones, and no others just if each
request for a category names one that none before it names. -/
theorem requests_choose_named_subtrees [TomlDecoder] (categories : List Category) (requests : List Text) :
    let selected := (Suite.select categories requests).1
    let warned := (Suite.select categories requests).2
    let names := categories.map Category.name
    selected = (categories.filter fun category =>
      requests = [] ∨ ∃ request ∈ requests, Suite.Names request category.name) ∧
    warned = ((Suite.turns requests).filter fun turn => Suite.AddsNothing names turn.1 turn.2).map
      (fun turn => Text.trim '/' turn.2) ∧
    (warned = (requests.filter fun request => ∀ name ∈ names, ¬ Suite.Names request name).map (Text.trim '/') ↔
      ∀ before request after, requests = before ++ request :: after → Suite.AddsNothing names before request →
        ∀ name ∈ names, ¬ Suite.Names request name) ∧
    ∀ files plain root, categoriesAt files root = categories → categories ≠ [] →
      (test files plain root requests).transcript.errors = warned.map (warningLine categories) ++
        if selected.isEmpty then ["no matching categories found"]
        else (suiteOutcome plain (selected.map (GroupReport.ofCategory root))).transcript.errors := by
  intro selected warned names
  have chosen := Suite.select_eq categories requests
  simp only [Suite.requested_iff] at chosen
  have idle : warned = _ := Suite.warned_select categories requests
  refine ⟨chosen, idle, ?_, fun files plain root found some => errors_test found some plain requests⟩
  rw [idle]
  exact Suite.warned_eq_unknown_iff names requests

def nestedSuite : Folder :=
  .folder ['a'] (.file ('x' :: Suite.caseEnding) (.ok "".toUTF8) <|
    .folder ['b'] (.file ('y' :: Suite.caseEnding) (.ok "".toUTF8) .empty) .empty) .empty

def nestedFiles : Files where
  find _ := .folder nestedSuite
  modified _ := 0

theorem names_nestedSuite : (Suite.categories ['s'] nestedSuite).map Category.name = [['a'], ['a', '/', 'b']] := by
  have cases : (Suite.casesFrom ['s'] [] nestedSuite).map Suite.categoryName = [['a'], ['a', '/', 'b']] := by
    decide +kernel
  rw [Suite.names_eq, cases, Suite.sortedNames, List.mergeSort_of_pairwise (by decide)]
  rfl

theorem nestedSuite_ne_nil : Suite.categories ['s'] nestedSuite ≠ [] := by
  intro none
  have names := names_nestedSuite
  rw [none] at names
  cases names

theorem requests_choose_named_subtrees_of_nested :
    let categories := Suite.categories ['s'] nestedSuite
    let requests : List Text := [['/', 'a', '/'], ['a', '/', 'b'], ['c']]
    categories.map Category.name = [['a'], ['a', '/', 'b']] ∧ categoriesAt nestedFiles ['s'] = categories ∧
      (Suite.select categories requests).1 = categories ∧
      (Suite.select categories requests).2 = [['a', '/', 'b'], ['c']] ∧
      ∃ others, (test nestedFiles true ['s'] requests).transcript.errors =
        [warningLine categories ['a', '/', 'b'], warningLine categories ['c']] ++ others := by
  intro categories requests
  have names : categories.map Category.name = [['a'], ['a', '/', 'b']] := names_nestedSuite
  have found : categoriesAt nestedFiles ['s'] = categories := rfl
  obtain ⟨chosen, warned, _, printed⟩ := requests_choose_named_subtrees categories requests
  have all : ∀ category ∈ categories, ∃ request ∈ requests, Suite.Names request category.name := by
    have each : ∀ name ∈ categories.map Category.name, ∃ request ∈ requests, Suite.Names request name := by
      rw [names]
      decide
    exact fun category among => each _ (List.mem_map_of_mem among)
  rw [names] at warned
  have idle : (Suite.select categories requests).2 = [['a', '/', 'b'], ['c']] := warned.trans (by decide)
  refine ⟨names, found, chosen.trans ?_, idle, ?_⟩
  · exact List.filter_eq_self.mpr fun category among => decide_eq_true (.inr (all category among))
  · rw [printed nestedFiles true ['s'] found nestedSuite_ne_nil, idle]
    exact ⟨_, rfl⟩

/-- The second of two requests for a category is warned of. -/
theorem repeated_request_is_warned_of :
    let categories := Suite.categories ['s'] nestedSuite
    ['a'] ∈ categories.map Category.name ∧ (Suite.select categories [['a'], ['a']]).2 = [['a']] ∧
      ∃ others, (test nestedFiles true ['s'] [['a'], ['a']]).transcript.errors =
        warningLine categories ['a'] :: others := by
  intro categories
  have names : categories.map Category.name = [['a'], ['a', '/', 'b']] := names_nestedSuite
  have found : categoriesAt nestedFiles ['s'] = categories := rfl
  have idle : (Suite.select categories [['a'], ['a']]).2 = [['a']] := by
    rw [Suite.warned_select, names]
    decide
  refine ⟨by simp [names], idle, ?_⟩
  rw [errors_test found nestedSuite_ne_nil, idle]
  exact ⟨_, rfl⟩

end Program

end LineTemplates
