import LineTemplates.Proofs.Argument.SignFolding
import LineTemplates.Proofs.Pattern.Captures
import LineTemplates.Proofs.Registry.QuotedText

/-! Folding of captured text. A marker is known by its text alone, so one that a value has captured from the line is folded
as well as one that a template puts in. -/

namespace LineTemplates

open Argument (signMarker foldSigns)

namespace Capture

/-- A value has captured the marker, unless it stands in the template or is the end of the line; no identifier begins
like it. -/
theorem Source.of_signMarker {segments : List Segment} {capture : Capture} (source : capture.Source segments)
    (marker : capture.argument = signMarker) (noConstant : capture.item ≠ .inject signMarker)
    (noRest : capture.item ≠ .rest) :
    capture.item = .value ∧ (.run signMarker ∈ segments ∨ .quoted signMarker ∈ segments) := by
  cases source with
  | ident inside letter =>
    obtain rfl := marker
    exact absurd letter (by decide)
  | run inside =>
    obtain rfl := marker
    exact ⟨rfl, .inl inside⟩
  | quoted inside =>
    obtain rfl := marker
    exact ⟨rfl, .inr inside⟩
  | inject =>
    obtain rfl := marker
    exact absurd rfl noConstant
  | rest => exact absurd rfl noRest

end Capture

namespace Registry

def Markerless (registry : Registry) : Prop :=
  ∀ template ∈ registry.templates, .inject signMarker ∉ template.pattern.items

variable {registry : Registry} {line : Text} {segments : List Segment} {template : Template} {arguments : List Text}

theorem parseLine_of_first (filled : line ≠ []) (tokenized : Segment.tokenize line = .ok segments)
    (wins : First (fun other => other.match? segments ≠ none) registry.templates template)
    (matched : template.match? segments = some arguments) :
    registry.parseLine line = .ok (some ⟨template.name, foldSigns arguments⟩) := by
  have chosen : registry.chosen? segments = some template := by
    simpa only [chosen?, find?_eq_some_iff_first, Option.isSome_iff_ne_none] using wins
  rw [parseLine_of_tokenize filled tokenized, firstMatch?_eq_some_iff.mpr ⟨template, arguments, chosen, matched, rfl⟩]

/-- A marker that is folded has been captured by a value. -/
theorem exists_captured_marker {name source : Text} (compiled : Template.compile name source = .ok template)
    (free : .inject signMarker ∉ template.pattern.items) (matched : template.match? segments = some arguments)
    (inside : signMarker ∈ arguments.dropLast) :
    .value ∈ template.pattern.items ∧ (.run signMarker ∈ segments ∨ .quoted signMarker ∈ segments) := by
  obtain ⟨captures, rfl, drawn, restLast⟩ := Template.captures_of_match? compiled matched
  rw [← List.map_dropLast] at inside
  obtain ⟨capture, earlier, marker⟩ := List.mem_map.mp inside
  obtain ⟨used, origin⟩ := drawn capture (List.dropLast_subset _ earlier)
  have noConstant : capture.item ≠ .inject signMarker := fun same => free (same ▸ used)
  obtain ⟨value, segment⟩ := origin.of_signMarker marker noConstant (restLast capture earlier)
  exact ⟨value ▸ used, segment⟩

/-- If no template has the marker as a constant, a line is given just what its template extracts from it, unless an argument
in front of another one is the marker's text; that is a run or a string of the line, which a value has captured, and it is
folded. -/
theorem captured_text_is_kept_iff (compiled : registry.Compiled) (markerless : registry.Markerless)
    (filled : line ≠ []) (tokenized : Segment.tokenize line = .ok segments)
    (wins : First (fun other => other.match? segments ≠ none) registry.templates template)
    (matched : template.match? segments = some arguments) :
    (registry.parseLine line = .ok (some ⟨template.name, arguments⟩) ↔ signMarker ∉ arguments.dropLast) ∧
    (signMarker ∈ arguments.dropLast →
      registry.parseLine line = .ok (some ⟨template.name, foldSigns arguments⟩) ∧
      (foldSigns arguments).length < arguments.length ∧
      .value ∈ template.pattern.items ∧ (.run signMarker ∈ segments ∨ .quoted signMarker ∈ segments)) := by
  have parsed := parseLine_of_first filled tokenized wins matched
  constructor
  · rw [parsed, ← Argument.foldSigns_eq_self_iff]
    simp
  · intro inside
    obtain ⟨before, after, held, _⟩ := wins.earliest
    have registered : template ∈ registry.templates := by simp [held]
    obtain ⟨name, source, compiles⟩ := compiled template registered
    have captured := exists_captured_marker compiles (markerless template registered) matched inside
    exact ⟨parsed, Argument.length_foldSigns_lt inside, captured⟩

theorem compiled_singleton {name source : Text} {pattern : Pattern} (spelled : Pattern.Spelling pattern source) :
    Compiled ⟨[Template.ofPattern name source pattern]⟩ :=
  List.forall_mem_singleton.mpr ⟨name, source, Template.compile_of_spelling name spelled⟩

theorem markerless_singleton {name source : Text} {pattern : Pattern} (free : .inject signMarker ∉ pattern.items) :
    Markerless ⟨[Template.ofPattern name source pattern]⟩ := by
  intro template held
  rwa [List.mem_singleton.mp held, Template.pattern_ofPattern]

theorem first_singleton {template : Template} {wanted : Template → Prop} (holds : wanted template) :
    First wanted [template] template := ⟨holds, [], [], rfl, nofun⟩

/-- Of two values the first is lost if the line has the marker there. -/
theorem captured_marker_is_folded :
    let source : Text := ['$', 'v', 'a', 'l', 'u', 'e', ' ', '$', 'v', 'a', 'l', 'u', 'e']
    let pattern : Pattern := .item .value (.item (.literal ' ') (.item .value .done))
    let template := Template.ofPattern ['t'] source pattern
    let registry : Registry := ⟨[template]⟩
    let line : Text := ['_', 'm', 'i', 'n', 'u', 's', ' ', '5']
    let segments : List Segment := [.run signMarker, .symbol ' ', .run ['5']]
    registry.Compiled ∧ registry.Markerless ∧ Segment.tokenize line = .ok segments ∧
      template.match? segments = some [signMarker, ['5']] ∧
      registry.parseLine line = .ok (some ⟨['t'], [['-', '5']]⟩) := by
  intro source pattern template registry line segments
  have spelled : Pattern.Spelling pattern source :=
    .placeholder .value (by simp [Segment.isNameChar]) (.literal (by decide) (.placeholder .value nofun .done))
  have canonical : Segment.Canonical segments := by
    simp [segments, signMarker, Segment.canonical_cons, Segment.canonical_nil, Segment.WellFormed, Segment.MayPrecede,
      Segment.ValueChar]
  have tokenized : Segment.tokenize line = .ok segments := Segment.tokenizeFrom_renderAll canonical 0
  have matched : template.match? segments = some [signMarker, ['5']] := by
    rw [Template.match?_ofPattern]
    decide
  have parsed := parseLine_of_first (by decide) tokenized (first_singleton (by simp [matched])) matched
  exact ⟨compiled_singleton spelled, markerless_singleton (by decide), tokenized, matched, parsed⟩

theorem captured_text_is_kept_iff_in_front :
    let source : Text := ['$', 'v', 'a', 'l', 'u', 'e', ' ', '$', 'v', 'a', 'l', 'u', 'e']
    let pattern : Pattern := .item .value (.item (.literal ' ') (.item .value .done))
    let template := Template.ofPattern ['t'] source pattern
    let registry : Registry := ⟨[template]⟩
    registry.parseLine ['5', ' ', '_', 'm', 'i', 'n', 'u', 's'] = .ok (some ⟨['t'], [['5'], signMarker]⟩) ∧
      registry.parseLine ['"', '_', 'm', 'i', 'n', 'u', 's', '"', ' ', '5'] = .ok (some ⟨['t'], [['-', '5']]⟩) := by
  intro source pattern template registry
  have spelled : Pattern.Spelling pattern source :=
    .placeholder .value (by simp [Segment.isNameChar]) (.literal (by decide) (.placeholder .value nofun .done))
  have compiled : registry.Compiled := compiled_singleton spelled
  have markerless : registry.Markerless := markerless_singleton (by decide)
  constructor
  · let segments : List Segment := [.run ['5'], .symbol ' ', .run signMarker]
    have canonical : Segment.Canonical segments := by
      simp [segments, signMarker, Segment.canonical_cons, Segment.canonical_nil, Segment.WellFormed, Segment.MayPrecede,
        Segment.ValueChar]
    have matched : template.match? segments = some [['5'], signMarker] := by
      rw [Template.match?_ofPattern]
      decide
    have tokenized := Segment.tokenizeFrom_renderAll canonical 0
    have wins : First (fun other => other.match? segments ≠ none) registry.templates template :=
      first_singleton (by simp [matched])
    exact (captured_text_is_kept_iff compiled markerless (by decide) tokenized wins matched).1.mpr (by decide)
  · let segments : List Segment := [.quoted signMarker, .symbol ' ', .run ['5']]
    have canonical : Segment.Canonical segments := by
      simp [segments, signMarker, Segment.canonical_cons, Segment.canonical_nil, Segment.WellFormed, Segment.MayPrecede,
        Segment.ValueChar]
    have matched : template.match? segments = some [signMarker, ['5']] := by
      rw [Template.match?_ofPattern]
      decide
    have tokenized := Segment.tokenizeFrom_renderAll canonical 0
    have wins : First (fun other => other.match? segments ≠ none) registry.templates template :=
      first_singleton (by simp [matched])
    exact ((captured_text_is_kept_iff compiled markerless (by decide) tokenized wins matched).2 (by decide)).1

end Registry

end LineTemplates
