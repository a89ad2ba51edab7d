import LineTemplates.Proofs.Pattern.Lockstep
import LineTemplates.Proofs.Registry.Choice
import Mathlib.Data.List.Find

/-! What stands between quotes is data. It cannot change which template a line belongs to, nor any argument but those
that hold it. -/

namespace LineTemplates

open Segment (Alike)

variable {segments others : List Segment}

namespace Pattern

/-- The arguments of one pattern on two lines: as many, and captured along one path by the same items, with captures
that agree one by one. -/
structure ArgumentsAgree (segments others : List Segment) (pattern : Pattern) (arguments otherArguments : List Text) :
    Prop where
  length_eq : arguments.length = otherArguments.length
  captured : ∃ portions otherPortions stop, Abreast segments others pattern .start portions otherPortions stop ∧
    arguments = (portions.flatMap Portion.captures).map Capture.argument ∧
    otherArguments = (otherPortions.flatMap Portion.captures).map Capture.argument

theorem argumentsAgree_of_abreast {pattern : Pattern} {portions otherPortions : List Portion} {stop : Option Cursor}
    (abreast : Abreast segments others pattern .start portions otherPortions stop) :
    ArgumentsAgree segments others pattern (portions.flatMap Portion.arguments)
      (otherPortions.flatMap Portion.arguments) := by
  rw [← Portion.argument_captures, ← Portion.argument_captures]
  refine ⟨?_, portions, otherPortions, stop, abreast, rfl, rfl⟩
  rw [List.length_map, List.length_map, abreast.agree.length_eq]

/-- Outcomes in step give results in step: both lines are used up, or neither is. -/
theorem result?_alike {pattern : Pattern} {outcome other : Evaluation} (alike : List.Forall₂ Alike segments others)
    (step : InStep segments others pattern .start outcome other) :
    Option.Rel (ArgumentsAgree segments others pattern) (outcome.result? segments) (other.result? others) := by
  cases step with
  | failed => exact .none
  | finished abreast => exact .some (argumentsAgree_of_abreast abreast)
  | @reached portions otherPortions place abreast =>
    rw [Evaluation.result?, Evaluation.result?, Cursor.atEnd_alike alike place]
    split
    · exact .some (argumentsAgree_of_abreast abreast)
    · exact .none

end Pattern

namespace Template

theorem match?_alike {name source : Text} {template : Template} (compiled : compile name source = .ok template)
    (alike : List.Forall₂ Alike segments others) :
    ∃ pattern, Pattern.Spelling pattern source ∧ Option.Rel (Pattern.ArgumentsAgree segments others pattern)
      (template.match? segments) (template.match? others) := by
  obtain ⟨pattern, spelled, rfl⟩ := compile_eq_ok_iff_spelling.mp compiled
  refine ⟨pattern, spelled, ?_⟩
  rw [match?_ofPattern, match?_ofPattern]
  exact Pattern.result?_alike alike (Pattern.keepsStep alike pattern (Cursor.valid_start segments))

theorem isSome_match?_alike {name source : Text} {template : Template}
    (compiled : compile name source = .ok template) (alike : List.Forall₂ Alike segments others) :
    (template.match? segments).isSome = (template.match? others).isSome := by
  obtain ⟨pattern, _, results⟩ := match?_alike compiled alike
  generalize template.match? segments = result at results ⊢
  generalize template.match? others = otherResult at results ⊢
  cases results <;> rfl

end Template

namespace Registry

def Compiled (registry : Registry) : Prop :=
  ∀ template ∈ registry.templates, ∃ name source, Template.compile name source = .ok template

variable {registry : Registry}

theorem chosen?_alike (compiled : registry.Compiled) (alike : List.Forall₂ Alike segments others) :
    registry.chosen? segments = registry.chosen? others := by
  apply List.find?_congr
  intro template held
  obtain ⟨name, source, compiles⟩ := compiled template held
  exact Template.isSome_match?_alike compiles alike

theorem eq_nil_iff_of_tokenize {line : Text} (tokenized : Segment.tokenize line = .ok segments) :
    line = [] ↔ segments = [] := by
  obtain ⟨canonical, rfl⟩ := Segment.canonical_of_tokenizeFrom tokenized
  constructor
  · intro empty
    cases segments with
    | nil => rfl
    | cons segment more =>
      rw [Segment.renderAll_cons, List.append_eq_nil_iff] at empty
      exact absurd empty.1 (Segment.render_ne_nil (Segment.canonical_cons.mp canonical).1)
  · rintro rfl
    rfl

theorem parseLine_name {line : Text} (tokenized : Segment.tokenize line = .ok segments) :
    (registry.parseLine line).map (Option.map LineMatch.template) =
      if segments = [] then .error .empty else .ok ((registry.chosen? segments).map Template.name) := by
  by_cases empty : line = []
  · rw [if_pos ((eq_nil_iff_of_tokenize tokenized).mp empty), parseLine, if_pos empty]
    rfl
  · rw [if_neg (mt (eq_nil_iff_of_tokenize tokenized).mpr empty), parseLine_of_tokenize empty tokenized]
    apply congrArg Except.ok
    cases found : registry.firstMatch? segments with
    | some result =>
      obtain ⟨template, arguments, chosen, _, rfl⟩ := firstMatch?_eq_some_iff.mp found
      rw [chosen]
      rfl
    | none =>
      have unmatched := firstMatch?_eq_none_iff.mp found
      have unchosen : registry.chosen? segments = none := by
        apply List.find?_eq_none.mpr
        intro template held
        simp [unmatched template held]
      rw [unchosen]
      rfl

/-- On lines that differ between quotes only, a template matches both or neither, with arguments that agree unless a
value took them out of quotes or a rest took them; and a registry chooses the same template for both. -/
theorem quoted_text_is_inert {line otherLine : Text} (tokenized : Segment.tokenize line = .ok segments)
    (otherTokenized : Segment.tokenize otherLine = .ok others) (alike : List.Forall₂ Alike segments others) :
    (∀ name source template, Template.compile name source = .ok template →
      ∃ pattern, Pattern.Spelling pattern source ∧ Option.Rel (Pattern.ArgumentsAgree segments others pattern)
        (template.match? segments) (template.match? others)) ∧
    ∀ registry : Registry, registry.Compiled →
      registry.chosen? segments = registry.chosen? others ∧
      (registry.parseLine line).map (Option.map LineMatch.template) =
        (registry.parseLine otherLine).map (Option.map LineMatch.template) := by
  constructor
  · intro name source template compiled
    exact Template.match?_alike compiled alike
  · intro registry compiled
    have chosen := Registry.chosen?_alike compiled alike
    refine ⟨chosen, ?_⟩
    have empty : segments = [] ↔ others = [] := by
      rw [← List.length_eq_zero_iff, ← List.length_eq_zero_iff, alike.length_eq]
    rw [Registry.parseLine_name tokenized, Registry.parseLine_name otherTokenized, chosen]
    simp only [empty]

theorem quoted_text_is_inert_in_value_and_rest :
    let source : Text := ['$', 'v', 'a', 'l', 'u', 'e', '[', '_', '$', 'r', 'e', 's', 't', ']']
    let pattern : Pattern := .item .value (.group .optional (.item .skipBlanks (.item .rest .done)) .done)
    let template := Template.ofPattern ['v'] source pattern
    let line : Text := ['"', 'a', '"', ' ', 'b', '"', 'c', '"']
    let otherLine : Text := ['"', '"', ' ', 'b', '"', '_', ']', '"']
    let segments : List Segment := [.quoted ['a'], .symbol ' ', .run ['b'], .quoted ['c']]
    let others : List Segment := [.quoted [], .symbol ' ', .run ['b'], .quoted ['_', ']']]
    Template.compile ['v'] source = .ok template ∧ Segment.tokenize line = .ok segments ∧
      Segment.tokenize otherLine = .ok others ∧ List.Forall₂ Alike segments others ∧
      (∃ pattern, Pattern.Spelling pattern source ∧ Option.Rel (Pattern.ArgumentsAgree segments others pattern)
        (some [['a'], ['b', '"', 'c', '"']]) (some [[], ['b', '"', '_', ']', '"']])) ∧
      (parseLine ⟨[template]⟩ line).map (Option.map LineMatch.template) =
        (parseLine ⟨[template]⟩ otherLine).map (Option.map LineMatch.template) := by
  intro source pattern template line otherLine segments others
  have inside : Pattern.Spelling (.item .skipBlanks (.item .rest .done)) ['_', '$', 'r', 'e', 's', 't'] :=
    .blanks (.placeholder .rest nofun .done)
  have spelled : Pattern.Spelling pattern source :=
    .placeholder .value (by simp [Segment.isNameChar]) (.group inside .done)
  have compiled : Template.compile ['v'] source = .ok template := Template.compile_of_spelling ['v'] spelled
  have canonical : Segment.Canonical segments ∧ Segment.Canonical others := by
    simp [segments, others, Segment.canonical_cons, Segment.canonical_nil, Segment.WellFormed, Segment.MayPrecede,
      Segment.ValueChar]
  have tokenized : Segment.tokenize line = .ok segments := Segment.tokenizeFrom_renderAll canonical.1 0
  have otherTokenized : Segment.tokenize otherLine = .ok others := Segment.tokenizeFrom_renderAll canonical.2 0
  have alike : List.Forall₂ Alike segments others :=
    .cons (.quoted ..) (.cons (.same _) (.cons (.same _) (.cons (.quoted ..) .nil)))
  obtain ⟨inert, chosen⟩ := quoted_text_is_inert tokenized otherTokenized alike
  have found : template.match? segments = some [['a'], ['b', '"', 'c', '"']] ∧
      template.match? others = some [[], ['b', '"', '_', ']', '"']] := by
    rw [Template.match?_ofPattern, Template.match?_ofPattern]
    exact ⟨rfl, rfl⟩
  have results := inert ['v'] source template compiled
  rw [found.1, found.2] at results
  have held : Compiled ⟨[template]⟩ := List.forall_mem_singleton.mpr ⟨['v'], source, compiled⟩
  exact ⟨compiled, tokenized, otherTokenized, alike, results, (chosen ⟨[template]⟩ held).2⟩

end Registry

end LineTemplates
