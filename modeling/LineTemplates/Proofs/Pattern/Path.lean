import LineTemplates.Proofs.Pattern.Runs

/-! Paths through patterns. A path takes an optional group or leaves it and goes around a repeatable one any number of
times; whatever it takes lies on the line without a gap. Every run that succeeds has gone along a path. -/

namespace LineTemplates

theorem Cursor.remaining_ne_nil {line : List Segment} {cursor : Cursor} (canonical : Segment.Canonical line)
    (valid : cursor.Valid line) (more : cursor.segment < line.length) : cursor.remaining line ≠ [] := by
  obtain ⟨index, offset⟩ := cursor
  have here := List.getElem?_eq_getElem more
  rw [remaining_here here]
  refine List.append_ne_nil_of_left_ne_nil ?_ _
  by_cases whole : offset = 0
  · rw [whole, Segment.renderFrom_zero]
    exact Segment.render_ne_nil (canonical.wellFormed _ (List.getElem_mem more))
  · obtain ⟨text, same, short⟩ := valid.inside whole
    rw [Option.some.inj (here.symm.trans same)]
    rw [Segment.renderFrom, Ne, List.drop_eq_nil_iff, Nat.not_le]
    exact short

namespace Pattern

/-- The portions of a line along a path through the pattern. It stops where the pattern is done, or nowhere if a rest
has taken what was left of the line. -/
inductive Path (line : List Segment) : Pattern → Cursor → List Portion → Option Cursor → Prop
  | done {cursor : Cursor} : Path line .done cursor [] (some cursor)
  | item {next : Pattern} {cursor place : Cursor} {portion : Portion} {portions : List Portion} {stop : Option Cursor}
      (takes : Item.Takes line next.tail? cursor portion place) (goesOn : portion.item ≠ .rest)
      (path : Path line next place portions stop) :
      Path line (.item portion.item next) cursor (portion :: portions) stop
  | rest {next : Pattern} {cursor place : Cursor} {portion : Portion}
      (takes : Item.Takes line next.tail? cursor portion place) (ends : portion.item = .rest) :
      Path line (.item .rest next) cursor [portion] none
  | skipped {kind : GroupKind} {body next : Pattern} {cursor : Cursor} {portions : List Portion} {stop : Option Cursor}
      (path : Path line next cursor portions stop) : Path line (.group kind body next) cursor portions stop
  | once {body next : Pattern} {cursor place : Cursor} {inside portions : List Portion} {stop : Option Cursor}
      (inner : Path line body cursor inside (some place)) (path : Path line next place portions stop) :
      Path line (.group .optional body next) cursor (inside ++ portions) stop
  | again {body next : Pattern} {cursor place : Cursor} {inside portions : List Portion} {stop : Option Cursor}
      (inner : Path line body cursor inside (some place))
      (path : Path line (.group .repeatable body next) place portions stop) :
      Path line (.group .repeatable body next) cursor (inside ++ portions) stop
  | within {kind : GroupKind} {body next : Pattern} {cursor : Cursor} {portions : List Portion}
      (inner : Path line body cursor portions none) : Path line (.group kind body next) cursor portions none

namespace Path

variable {line : List Segment} {pattern : Pattern} {cursor place : Cursor} {portions : List Portion}
  {stop : Option Cursor}

/-- The texts along a path are the line from its beginning to where it stops. -/
theorem remaining_eq (path : Path line pattern cursor portions stop) :
    cursor.remaining line = portions.flatMap Portion.text ++ stop.elim [] (Cursor.remaining line) := by
  induction path with
  | done => rfl
  | item takes goesOn path step =>
    rw [Item.remaining_of_takes takes, step, List.flatMap_cons, List.append_assoc]
  | rest takes ends =>
    cases takes with
    | rest more whole trailing => simp
    | _ => cases ends
  | skipped path step => exact step
  | once inner path within step =>
    rw [within, Option.elim_some, step, List.flatMap_append, List.append_assoc]
  | again inner path within step =>
    rw [within, Option.elim_some, step, List.flatMap_append, List.append_assoc]
  | within inner step => exact step

theorem valid (path : Path line pattern cursor portions stop) (begun : cursor.Valid line) :
    ∀ place ∈ stop, place.Valid line := by
  induction path with
  | done => simpa using begun
  | item takes goesOn path step => exact step (Cursor.onward_of_takes begun takes).valid
  | rest takes ends => nofun
  | skipped path step => exact step begun
  | once inner path within step => exact step (within begun _ rfl)
  | again inner path within step => exact step (within begun _ rfl)
  | within inner step => exact step begun

def EndsLine (line : List Segment) (cursor : Cursor) (portion : Portion) : Prop :=
  portion.item = .rest → portion.text ≠ [] ∧ portion.text <:+ cursor.remaining line

theorem EndsLine.before {portion : Portion} {text : Text} (ends : EndsLine line place portion)
    (whole : cursor.remaining line = text ++ place.remaining line) : EndsLine line cursor portion := by
  intro rest
  obtain ⟨filled, trailing⟩ := ends rest
  rw [whole]
  exact ⟨filled, trailing.trans (List.suffix_append ..)⟩

theorem endsLine (path : Path line pattern cursor portions stop) (canonical : Segment.Canonical line)
    (begun : cursor.Valid line) : ∀ portion ∈ portions, EndsLine line cursor portion := by
  induction path with
  | done => nofun
  | item takes goesOn path step =>
    have later := step (Cursor.onward_of_takes begun takes).valid
    refine List.forall_mem_cons.mpr ⟨fun ends => absurd ends goesOn, ?_⟩
    intro portion inside
    exact (later portion inside).before (Item.remaining_of_takes takes)
  | rest takes ends =>
    refine List.forall_mem_singleton.mpr fun _ => ?_
    cases takes with
    | rest more whole trailing => exact ⟨Cursor.remaining_ne_nil canonical begun more, List.suffix_refl _⟩
    | _ => cases ends
  | skipped path step => exact step begun
  | once inner path within step =>
    have later := step (inner.valid begun _ rfl)
    refine List.forall_mem_append.mpr ⟨within begun, ?_⟩
    intro portion inside
    exact (later portion inside).before inner.remaining_eq
  | again inner path within step =>
    have later := step (inner.valid begun _ rfl)
    refine List.forall_mem_append.mpr ⟨within begun, ?_⟩
    intro portion inside
    exact (later portion inside).before inner.remaining_eq
  | within inner step => exact step begun

end Path

inductive Succeeds : Evaluation → Option Cursor → List Text → Prop
  | finished {arguments : List Text} : Succeeds (.finished arguments) none arguments
  | reached {place : Cursor} {arguments : List Text} : Succeeds (.reached place arguments) (some place) arguments

/-- A run that succeeds gives the arguments along a path. What a failed group gave is not among them. -/
theorem path_of_runs {line : List Segment} {pattern : Pattern} {cursor : Cursor} {given arguments : List Text}
    {outcome : Evaluation} {stop : Option Cursor} (runs : Runs line pattern cursor given outcome)
    (begun : cursor.Valid line) (succeeds : Succeeds outcome stop arguments) :
    ∃ portions, Path line pattern cursor portions stop ∧ arguments = given ++ portions.flatMap Portion.arguments := by
  induction runs generalizing stop arguments with
  | done =>
    cases succeeds
    exact ⟨[], .done, by simp⟩
  | fails => cases succeeds
  | takes takes goesOn runs step =>
    obtain ⟨text, portion⟩ := Item.takes_of_take begun takes
    obtain ⟨portions, path, rfl⟩ := step (Cursor.onward_of_take begun takes).valid succeeds
    exact ⟨_, .item portion goesOn path, by simp⟩
  | rest takes =>
    cases succeeds
    obtain ⟨text, portion⟩ := Item.takes_of_take begun takes
    exact ⟨_, .rest portion rfl, by simp⟩
  | skipped inner runs within step =>
    obtain ⟨portions, path, rfl⟩ := step begun succeeds
    exact ⟨portions, .skipped path, rfl⟩
  | finished inner within =>
    cases succeeds
    obtain ⟨portions, path, rfl⟩ := within begun .finished
    exact ⟨portions, .within path, rfl⟩
  | once inner runs within step =>
    obtain ⟨inside, entered, rfl⟩ := within begun .reached
    obtain ⟨portions, path, rfl⟩ := step (entered.valid begun _ rfl) succeeds
    exact ⟨_, .once entered path, by simp⟩
  | stays inner runs within step =>
    obtain ⟨inside, entered, rfl⟩ := within begun .reached
    obtain ⟨portions, path, rfl⟩ := step begun succeeds
    exact ⟨_, .again entered (.skipped path), by simp⟩
  | again inner moved runs within step =>
    obtain ⟨inside, entered, rfl⟩ := within begun .reached
    obtain ⟨portions, path, rfl⟩ := step (entered.valid begun _ rfl) succeeds
    exact ⟨_, .again entered path, by simp⟩

end Pattern

end LineTemplates
