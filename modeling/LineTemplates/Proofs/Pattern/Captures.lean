import LineTemplates.Proofs.Pattern.Lockstep
import LineTemplates.Proofs.Template.Reading
import LineTemplates.Proofs.Walk.Coverage
import LineTemplates.Proofs.Walk.Remainder

/-! Where the arguments of a match come from. Each is captured by an item of the template, from a segment of the line
unless the item is a constant or a rest; and a rest captures nothing but the last argument. -/

namespace LineTemplates

theorem forall_mem_dropLast_append {α : Type} {holds : α → Prop} {front back : List α}
    (before : ∀ entry ∈ front, holds entry) (later : ∀ entry ∈ back.dropLast, holds entry) :
    ∀ entry ∈ (front ++ back).dropLast, holds entry := by
  intro entry inside
  rw [List.dropLast_append] at inside
  split at inside
  · exact before entry (List.dropLast_subset _ inside)
  · exact List.forall_mem_append.mpr ⟨before, later⟩ entry inside

namespace Capture

inductive Source (segments : List Segment) : Capture → Prop
  | ident {text : Text} (inside : .run text ∈ segments) (letter : text.head?.any Segment.isNameChar = true) :
      Source segments ⟨.ident, text⟩
  | run {text : Text} (inside : .run text ∈ segments) : Source segments ⟨.value, text⟩
  | quoted {text : Text} (inside : .quoted text ∈ segments) : Source segments ⟨.value, text⟩
  | inject {text : Text} : Source segments ⟨.inject text, text⟩
  | rest {text : Text} : Source segments ⟨.rest, text⟩

variable {segments : List Segment} {capture : Capture}

theorem item_of_mem_captures {portion : Portion} (inside : capture ∈ portion.captures) :
    capture.item = portion.item := by
  obtain ⟨argument, _, rfl⟩ := List.mem_map.mp inside
  rfl

theorem ne_rest_of_portion {portion : Portion} (goesOn : portion.item ≠ .rest) :
    ∀ capture ∈ portion.captures, capture.item ≠ .rest := by
  intro capture inside
  rwa [item_of_mem_captures inside]

theorem source_of_takes {tail : Option Text} {cursor place : Cursor} {portion : Portion}
    (takes : Item.Takes segments tail cursor portion place) (inside : capture ∈ portion.captures) :
    capture.Source segments := by
  obtain ⟨argument, given, rfl⟩ := List.mem_map.mp inside
  cases takes with
  | ident here letter =>
    obtain rfl := List.mem_singleton.mp given
    exact .ident (List.mem_of_getElem? here) (by simpa using letter)
  | run here =>
    obtain rfl := List.mem_singleton.mp given
    exact .run (List.mem_of_getElem? here)
  | quoted here =>
    obtain rfl := List.mem_singleton.mp given
    exact .quoted (List.mem_of_getElem? here)
  | inject =>
    obtain rfl := List.mem_singleton.mp given
    exact .inject
  | rest more whole trailing => exact .rest
  | _ => cases given

def Drawn (segments : List Segment) (items : List Item) (captures : List Capture) : Prop :=
  ∀ capture ∈ captures, capture.item ∈ items ∧ capture.Source segments

section Drawn

variable {items others : List Item} {captures more : List Capture}

theorem drawn_of_takes {tail : Option Text} {cursor place : Cursor} {portion : Portion}
    (takes : Item.Takes segments tail cursor portion place) : Drawn segments [portion.item] portion.captures :=
  fun _ inside => ⟨List.mem_singleton.mpr (item_of_mem_captures inside), source_of_takes takes inside⟩

theorem Drawn.mono (drawn : Drawn segments items captures) (within : items ⊆ others) :
    Drawn segments others captures :=
  fun capture inside => (drawn capture inside).imp_left fun member => within member

theorem Drawn.append (drawn : Drawn segments items captures) (later : Drawn segments items more) :
    Drawn segments items (captures ++ more) := List.forall_mem_append.mpr ⟨drawn, later⟩

end Drawn

end Capture

namespace Pattern.Path

open Capture (Drawn)

variable {line : List Segment} {pattern : Pattern} {cursor place : Cursor} {portions : List Portion}
  {stop : Option Cursor}

theorem drawn (path : Path line pattern cursor portions stop) :
    Drawn line pattern.items (portions.flatMap Portion.captures) := by
  induction path with
  | done => nofun
  | item takes goesOn path step =>
    have first := Capture.drawn_of_takes takes
    rw [List.flatMap_cons]
    exact (first.mono (List.cons_subset_cons _ (List.nil_subset _))).append (step.mono (List.subset_cons_self ..))
  | rest takes ends =>
    have first := Capture.drawn_of_takes takes
    rw [ends] at first
    rw [List.flatMap_singleton]
    exact first.mono (List.cons_subset_cons _ (List.nil_subset _))
  | skipped path step => exact step.mono (List.subset_append_right ..)
  | once inner path within step =>
    rw [List.flatMap_append]
    exact (within.mono (List.subset_append_left ..)).append (step.mono (List.subset_append_right ..))
  | again inner path within step =>
    rw [List.flatMap_append]
    exact (within.mono (List.subset_append_left ..)).append step
  | within inner step => exact step.mono (List.subset_append_left ..)

theorem ne_rest_of_stops (path : Path line pattern cursor portions stop) (stops : stop ≠ none) :
    ∀ capture ∈ portions.flatMap Portion.captures, capture.item ≠ .rest := by
  induction path with
  | done => nofun
  | item takes goesOn path step =>
    rw [List.flatMap_cons]
    exact List.forall_mem_append.mpr ⟨Capture.ne_rest_of_portion goesOn, step stops⟩
  | rest takes ends => exact absurd rfl stops
  | skipped path step => exact step stops
  | once inner path within step =>
    rw [List.flatMap_append]
    exact List.forall_mem_append.mpr ⟨within nofun, step stops⟩
  | again inner path within step =>
    rw [List.flatMap_append]
    exact List.forall_mem_append.mpr ⟨within nofun, step stops⟩
  | within inner step => exact absurd rfl stops

theorem ne_rest_of_mem_dropLast (path : Path line pattern cursor portions stop) :
    ∀ capture ∈ (portions.flatMap Portion.captures).dropLast, capture.item ≠ .rest := by
  induction path with
  | done => nofun
  | item takes goesOn path step =>
    rw [List.flatMap_cons]
    exact forall_mem_dropLast_append (Capture.ne_rest_of_portion goesOn) step
  | rest takes ends =>
    cases takes with
    | rest more whole trailing => nofun
    | _ => cases ends
  | skipped path step => exact step
  | once inner path within step =>
    rw [List.flatMap_append]
    exact forall_mem_dropLast_append (inner.ne_rest_of_stops nofun) step
  | again inner path within step =>
    rw [List.flatMap_append]
    exact forall_mem_dropLast_append (inner.ne_rest_of_stops nofun) step
  | within inner step => exact step

end Pattern.Path

namespace Template

/-- The arguments of a match are those of captures that the template's items have made on the line, and of these only the
last can be a rest's. -/
theorem captures_of_match? {name source : Text} {template : Template} {segments : List Segment} {arguments : List Text}
    (compiled : compile name source = .ok template) (matched : template.match? segments = some arguments) :
    ∃ captures : List Capture, captures.map Capture.argument = arguments ∧
      Capture.Drawn segments template.pattern.items captures ∧
      ∀ capture ∈ captures.dropLast, capture.item ≠ .rest := by
  obtain ⟨pattern, _, rfl⟩ := compile_eq_ok_iff.mp compiled
  rw [match?_ofPattern] at matched
  have begun := Cursor.valid_start segments
  have runs := Pattern.runs_evaluate pattern [] begun
  rw [Evaluation.after_nil] at runs
  obtain ⟨stop, succeeds, _⟩ := succeeds_of_result? matched
  obtain ⟨portions, path, rfl⟩ := Pattern.path_of_runs runs begun succeeds
  rw [pattern_ofPattern]
  exact ⟨portions.flatMap Portion.captures, Portion.argument_captures portions, path.drawn,
    path.ne_rest_of_mem_dropLast⟩

end Template

end LineTemplates
