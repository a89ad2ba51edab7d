import LineTemplates.Proofs.Walk.Refinement
import LineTemplates.Registry
import Mathlib.Data.List.Perm.Basic

/-! What a registry holds and which template it chooses. Whatever calls have been made, the templates are those that
compiled, in the order of the calls; a line belongs to the first of them that matches it. -/

namespace LineTemplates

namespace Registry

inductive Call where
  | register (name source : Text)
  | push (template : Template)
deriving DecidableEq, Repr

def Call.template? : Call → Option Template
  | register name source => (Template.compile name source).toOption
  | push template => some template

def perform (registry : Registry) : Call → Registry
  | .register name source =>
    match registry.register name source with
    | .ok grown => grown
    | .error _ => registry
  | .push template => registry.push template

def run (calls : List Call) : Registry := calls.foldl perform .empty

def chosen? (line : List Segment) (registry : Registry) : Option Template :=
  registry.templates.find? fun template => (template.match? line).isSome

structure First (wanted : Template → Prop) (templates : List Template) (template : Template) : Prop where
  holds : wanted template
  earliest : ∃ before after, templates = before ++ template :: after ∧ ∀ other ∈ before, ¬ wanted other

theorem find?_eq_some_iff_first {wanted : Template → Bool} {templates : List Template} {template : Template} :
    templates.find? wanted = some template ↔ First (wanted · = true) templates template := by
  rw [List.find?_eq_some_iff_append]
  constructor
  · rintro ⟨found, before, after, whole, passed⟩
    exact ⟨found, before, after, whole, by simpa using passed⟩
  · rintro ⟨found, before, after, whole, passed⟩
    exact ⟨found, before, after, whole, by simpa using passed⟩

section Calls

variable {calls others : List Call}

theorem templates_perform (registry : Registry) (call : Call) :
    (registry.perform call).templates = registry.templates ++ call.template?.toList := by
  cases call with
  | push template => rfl
  | register name source =>
    rw [perform, register, Call.template?]
    cases Template.compile name source with
    | ok template => rfl
    | error fault => exact (List.append_nil _).symm

theorem templates_foldl (registry : Registry) (calls : List Call) :
    (calls.foldl perform registry).templates = registry.templates ++ calls.filterMap Call.template? := by
  induction calls generalizing registry with
  | nil => exact (List.append_nil _).symm
  | cons call more step =>
    rw [List.foldl_cons, step, templates_perform, List.filterMap_cons]
    cases call.template? with
    | none => simp
    | some template => simp

theorem templates_run (calls : List Call) : (run calls).templates = calls.filterMap Call.template? :=
  templates_foldl .empty calls

theorem templates_run_append (calls more : List Call) :
    (run (calls ++ more)).templates = (run calls).templates ++ (run more).templates := by
  rw [templates_run, templates_run, templates_run, List.filterMap_append]

theorem mem_run_of_perm (permuted : calls.Perm others) (template : Template) :
    template ∈ (run calls).templates ↔ template ∈ (run others).templates := by
  rw [templates_run, templates_run]
  exact (permuted.filterMap _).mem_iff

end Calls

section Lines

variable {registry : Registry} {line : Text} {segments : List Segment}

theorem firstMatch?_eq_some_iff {found : LineMatch} :
    registry.firstMatch? segments = some found ↔
      ∃ template arguments, registry.chosen? segments = some template ∧ template.match? segments = some arguments ∧
        found = ⟨template.name, Argument.foldSigns arguments⟩ := by
  obtain ⟨templates⟩ := registry
  unfold firstMatch? chosen?
  dsimp only
  induction templates with
  | nil => simp
  | cons template more step =>
    rw [List.findSome?_cons, List.find?_cons]
    cases matched : template.match? segments with
    | none => exact step
    | some arguments =>
      constructor
      · intro same
        exact ⟨template, arguments, rfl, matched, (Option.some.inj same).symm⟩
      · rintro ⟨_, others, ⟨rfl⟩, again, rfl⟩
        obtain rfl : arguments = others := Option.some.inj (matched.symm.trans again)
        rfl

theorem firstMatch?_eq_none_iff :
    registry.firstMatch? segments = none ↔ ∀ template ∈ registry.templates, template.match? segments = none := by
  simp [firstMatch?]

theorem parseLine_of_tokenize (filled : line ≠ []) (tokenized : Segment.tokenize line = .ok segments) :
    registry.parseLine line = .ok (registry.firstMatch? segments) := by
  rw [parseLine, if_neg filled, tokenized]

theorem parseLine_cases (line : Text) :
    (∃ error, ∀ registry : Registry, registry.parseLine line = .error error) ∨
      ∃ segments, line ≠ [] ∧ Segment.tokenize line = .ok segments := by
  by_cases empty : line = []
  · exact .inl ⟨.empty, fun registry => by rw [parseLine, if_pos empty]⟩
  · cases tokenized : Segment.tokenize line with
    | error fault =>
      refine .inl ⟨.unclosedQuote fault, fun registry => ?_⟩
      rw [parseLine, if_neg empty, tokenized]
    | ok segments => exact .inr ⟨segments, empty, rfl⟩

theorem firstMatch?_append {found : LineMatch} {other : Registry} {more : List Template}
    (grown : other.templates = registry.templates ++ more) (matched : registry.firstMatch? segments = some found) :
    other.firstMatch? segments = some found := by
  unfold firstMatch? at matched ⊢
  rw [grown, List.findSome?_append, matched]
  rfl

end Lines

/-- A registry holds what compiled, in the order of the calls. The first template that matches a line gives the line its
name and its arguments; templates behind it and the order of those that do not match are of no account. -/
theorem first_match_wins (calls : List Call) :
    (run calls).templates = calls.filterMap Call.template? ∧
    (∀ name,
      (∀ template, (run calls).get? name = some template ↔
        First (fun other => other.name = name) (run calls).templates template) ∧
      ((run calls).get? name = none ↔ ∀ template ∈ (run calls).templates, template.name ≠ name)) ∧
    (∀ line segments, line ≠ [] → Segment.tokenize line = .ok segments →
      (∀ found, (run calls).parseLine line = .ok (some found) ↔
        ∃ template arguments, First (fun other => other.match? segments ≠ none) (run calls).templates template ∧
          template.match? segments = some arguments ∧ found = ⟨template.name, Argument.foldSigns arguments⟩) ∧
      ((run calls).parseLine line = .ok none ↔
        ∀ template ∈ (run calls).templates, template.match? segments = none)) ∧
    (∀ more line found, (run calls).parseLine line = .ok (some found) →
      (run (calls ++ more)).parseLine line = .ok (some found)) ∧
    ∀ others, calls.Perm others → ∀ line,
      (∀ error, (run calls).parseLine line = .error error ↔ (run others).parseLine line = .error error) ∧
      ((run calls).parseLine line = .ok none ↔ (run others).parseLine line = .ok none) := by
  refine ⟨templates_run calls, ?names, ?lines, ?appended, ?permuted⟩
  case names =>
    intro name
    constructor
    · intro template
      rw [get?, find?_eq_some_iff_first]
      simp
    · simp [get?]
  case lines =>
    intro line segments filled tokenized
    rw [parseLine_of_tokenize filled tokenized]
    constructor
    · intro found
      rw [Except.ok.injEq, firstMatch?_eq_some_iff]
      simp only [chosen?, find?_eq_some_iff_first, Option.isSome_iff_ne_none]
    · rw [Except.ok.injEq, firstMatch?_eq_none_iff]
  case appended =>
    intro more line found matched
    rcases parseLine_cases line with ⟨error, refused⟩ | ⟨segments, filled, tokenized⟩
    · rw [refused] at matched
      cases matched
    · rw [parseLine_of_tokenize filled tokenized, Except.ok.injEq] at matched ⊢
      exact firstMatch?_append (templates_run_append calls more) matched
  case permuted =>
    intro others permuted line
    rcases parseLine_cases line with ⟨error, refused⟩ | ⟨segments, filled, tokenized⟩
    · rw [refused, refused]
      exact ⟨fun _ => .rfl, .rfl⟩
    · rw [parseLine_of_tokenize filled tokenized, parseLine_of_tokenize filled tokenized]
      refine ⟨fun _ => by simp, ?_⟩
      rw [Except.ok.injEq, Except.ok.injEq, firstMatch?_eq_none_iff, firstMatch?_eq_none_iff]
      exact forall_congr' fun template => imp_congr_left (mem_run_of_perm permuted template)

theorem first_match_wins_behind_fault :
    let word := Template.ofPattern ['w'] ['$', 'i', 'd', 'e', 'n', 't'] (.item .ident .done)
    let quit := Template.ofPattern ['q'] ['q'] (.item (.literal 'q') .done)
    let calls : List Call := [.register ['b'] [']'], .register ['w'] ['$', 'i', 'd', 'e', 'n', 't'], .push quit]
    (run calls).templates = [word, quit] ∧ (run calls).get? ['q'] = some quit ∧
      Segment.tokenize ['q'] = .ok [.run ['q']] ∧ (run calls).parseLine ['q'] = .ok (some ⟨['w'], [['q']]⟩) := by
  intro word quit calls
  obtain ⟨held, named, matched, _⟩ := first_match_wins calls
  have broken : Template.compile ['b'] [']'] = .error ⟨['b'], .unopened .optional, ⟨0, 1⟩⟩ := by
    rw [Template.compile_eq]
    simp [Pattern.parse, Pattern.ofLexemes, Lexemes.read, Lexemes.readFrom, Pattern.nest]
  have compiled : Template.compile ['w'] ['$', 'i', 'd', 'e', 'n', 't'] = .ok word :=
    Template.compile_of_spelling ['w'] (.placeholder .ident (by simp) .done)
  have templates : (run calls).templates = [word, quit] := by
    rw [held]
    simp [calls, Call.template?, broken, compiled, Except.toOption]
  have tokenized : Segment.tokenize ['q'] = .ok [.run ['q']] := by
    have canonical : Segment.Canonical [.run ['q']] := by
      simp [Segment.canonical_cons, Segment.canonical_nil, Segment.WellFormed, Segment.ValueChar]
    exact Segment.tokenizeFrom_renderAll canonical 0
  have taken : word.match? [.run ['q']] = some [['q']] := by
    rw [Template.match?_ofPattern]
    rfl
  refine ⟨templates, ?_, tokenized, ?_⟩
  · apply ((named ['q']).1 quit).mpr
    rw [templates]
    exact ⟨rfl, [word], [], rfl, by decide⟩
  · apply ((matched ['q'] _ (by decide) tokenized).1 _).mpr
    refine ⟨word, [['q']], ?_, taken, rfl⟩
    rw [templates]
    exact ⟨by simp [taken], [], [quit], rfl, by simp⟩

end Registry

end LineTemplates
