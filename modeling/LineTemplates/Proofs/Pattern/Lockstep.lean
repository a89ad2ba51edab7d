import LineTemplates.Proofs.Cursor.Alike
import LineTemplates.Proofs.Pattern.Path

/-! Two evaluations in lockstep. On lines that differ between quotes only, a pattern goes along one path: it enters,
repeats and leaves the same groups, fails at the same items and stops at the same place. -/

namespace LineTemplates

def Portion.captures (portion : Portion) : List Capture := portion.arguments.map (Capture.mk portion.item)

theorem Portion.argument_captures (portions : List Portion) :
    (portions.flatMap captures).map Capture.argument = portions.flatMap Portion.arguments := by
  rw [List.map_flatMap]
  congr 1
  funext portion
  rw [captures, List.map_map]
  exact List.map_id _

namespace Pattern

open Segment (Alike)

/-- Paths of two lines through one pattern. They stop at the same place and have captured as much as each other, with
captures that agree. -/
structure Abreast (segments others : List Segment) (pattern : Pattern) (cursor : Cursor)
    (portions otherPortions : List Portion) (stop : Option Cursor) : Prop where
  path : Path segments pattern cursor portions stop
  otherPath : Path others pattern cursor otherPortions stop
  agree : List.Forall₂ (Capture.Agrees segments others) (portions.flatMap Portion.captures)
    (otherPortions.flatMap Portion.captures)

section Abreast

variable {segments others : List Segment} {body next pattern : Pattern} {kind : GroupKind} {cursor place : Cursor}
  {portions otherPortions inside otherInside : List Portion} {portion otherPortion : Portion} {stop : Option Cursor}

theorem Abreast.done : Abreast segments others .done cursor [] [] (some cursor) := ⟨.done, .done, .nil⟩

theorem agree_append
    (before : List.Forall₂ (Capture.Agrees segments others) (inside.flatMap Portion.captures)
      (otherInside.flatMap Portion.captures))
    (behind : List.Forall₂ (Capture.Agrees segments others) (portions.flatMap Portion.captures)
      (otherPortions.flatMap Portion.captures)) :
    List.Forall₂ (Capture.Agrees segments others) ((inside ++ portions).flatMap Portion.captures)
      ((otherInside ++ otherPortions).flatMap Portion.captures) := by
  rw [List.flatMap_append, List.flatMap_append]
  exact List.rel_append before behind

theorem Abreast.skipped (abreast : Abreast segments others next cursor portions otherPortions stop) :
    Abreast segments others (.group kind body next) cursor portions otherPortions stop :=
  ⟨.skipped abreast.path, .skipped abreast.otherPath, abreast.agree⟩

theorem Abreast.once (inner : Abreast segments others body cursor inside otherInside (some place))
    (abreast : Abreast segments others next place portions otherPortions stop) :
    Abreast segments others (.group kind body next) cursor (inside ++ portions) (otherInside ++ otherPortions) stop := by
  refine ⟨?_, ?_, agree_append inner.agree abreast.agree⟩
  · cases kind with
    | optional => exact .once inner.path abreast.path
    | repeatable => exact .again inner.path (.skipped abreast.path)
  · cases kind with
    | optional => exact .once inner.otherPath abreast.otherPath
    | repeatable => exact .again inner.otherPath (.skipped abreast.otherPath)

theorem Abreast.again (inner : Abreast segments others body cursor inside otherInside (some place))
    (abreast : Abreast segments others (.group .repeatable body next) place portions otherPortions stop) :
    Abreast segments others (.group .repeatable body next) cursor (inside ++ portions) (otherInside ++ otherPortions)
      stop :=
  ⟨.again inner.path abreast.path, .again inner.otherPath abreast.otherPath, agree_append inner.agree abreast.agree⟩

theorem Abreast.within (inner : Abreast segments others body cursor portions otherPortions none) :
    Abreast segments others (.group kind body next) cursor portions otherPortions none :=
  ⟨.within inner.path, .within inner.otherPath, inner.agree⟩

end Abreast

inductive InStep (segments others : List Segment) (pattern : Pattern) (cursor : Cursor) : Evaluation → Evaluation → Prop
  | failed : InStep segments others pattern cursor .failed .failed
  | finished {portions otherPortions : List Portion}
      (abreast : Abreast segments others pattern cursor portions otherPortions none) :
      InStep segments others pattern cursor (.finished (portions.flatMap Portion.arguments))
        (.finished (otherPortions.flatMap Portion.arguments))
  | reached {portions otherPortions : List Portion} {place : Cursor}
      (abreast : Abreast segments others pattern cursor portions otherPortions (some place)) :
      InStep segments others pattern cursor (.reached place (portions.flatMap Portion.arguments))
        (.reached place (otherPortions.flatMap Portion.arguments))

variable {segments others : List Segment} {cursor place : Cursor}

/-- Evaluations that go on in step behind a stretch of either line are in step from before it. -/
theorem InStep.after {pattern next : Pattern} {outcome other : Evaluation} (inside otherInside : List Portion)
    (step : InStep segments others next place outcome other)
    (extend : ∀ {portions otherPortions stop}, Abreast segments others next place portions otherPortions stop →
      Abreast segments others pattern cursor (inside ++ portions) (otherInside ++ otherPortions) stop) :
    InStep segments others pattern cursor (outcome.after (inside.flatMap Portion.arguments))
      (other.after (otherInside.flatMap Portion.arguments)) := by
  cases step with
  | failed => exact .failed
  | finished abreast =>
    rw [Evaluation.after, Evaluation.after, ← List.flatMap_append, ← List.flatMap_append]
    exact .finished (extend abreast)
  | reached abreast =>
    rw [Evaluation.after, Evaluation.after, ← List.flatMap_append, ← List.flatMap_append]
    exact .reached (extend abreast)

def KeepsStep (segments others : List Segment) (pattern : Pattern) : Prop :=
  ∀ ⦃cursor : Cursor⦄, cursor.Valid segments →
    InStep segments others pattern cursor (pattern.evaluate segments cursor) (pattern.evaluate others cursor)

theorem keepsStep_item (alike : List.Forall₂ Alike segments others) (head : Item) {next : Pattern}
    (following : KeepsStep segments others next) : KeepsStep segments others (.item head next) := by
  intro cursor valid
  have otherValid := Cursor.valid_alike alike cursor valid
  have taken := Item.take_alike alike head next.tail? cursor
  rw [evaluate, evaluate]
  generalize found : head.take segments next.tail? cursor = result at taken
  generalize otherFound : head.take others next.tail? cursor = otherResult at taken
  cases taken with
  | none => exact .failed
  | @some taken otherTaken same =>
    obtain ⟨place, given⟩ := taken
    obtain ⟨otherPlace, otherGiven⟩ := otherTaken
    obtain ⟨samePlace, agree⟩ := same
    obtain rfl : place = otherPlace := samePlace
    obtain ⟨text, takes⟩ := Item.takes_of_take valid found
    obtain ⟨otherText, otherTakes⟩ := Item.takes_of_take otherValid otherFound
    have captured : List.Forall₂ (Capture.Agrees segments others)
        ([⟨head, text, given⟩].flatMap Portion.captures) ([⟨head, otherText, otherGiven⟩].flatMap Portion.captures) := by
      simpa [Portion.captures] using agree
    dsimp only
    by_cases ends : head = .rest
    · subst ends
      rw [if_pos rfl, if_pos rfl]
      simpa using InStep.finished ⟨.rest takes rfl, .rest otherTakes rfl, captured⟩
    · rw [if_neg ends, if_neg ends]
      have step := following (Cursor.onward_of_take valid found).valid
      simpa using step.after [⟨head, text, given⟩] [⟨head, otherText, otherGiven⟩] fun abreast =>
        ⟨.item takes ends abreast.path, .item otherTakes ends abreast.otherPath, agree_append captured abreast.agree⟩

/-- A group is entered, gone around and left at the same places of both lines. -/
theorem keepsStep_group (alike : List.Forall₂ Alike segments others) (kind : GroupKind) {body next : Pattern}
    (inner : KeepsStep segments others body) (following : KeepsStep segments others next) :
    KeepsStep segments others (.group kind body next) := by
  intro cursor valid
  induction room : cursor.left segments using Nat.strong_induction_on generalizing cursor with
  | _ left again =>
    have entered := inner valid
    rw [evaluate_group kind body next valid, evaluate_group kind body next (Cursor.valid_alike alike cursor valid)]
    generalize result : body.evaluate segments cursor = outcome at entered
    generalize body.evaluate others cursor = other at entered
    cases entered with
    | failed => simpa using (following valid).after [] [] fun abreast => abreast.skipped
    | finished abreast => exact .finished abreast.within
    | @reached portions otherPortions place abreast =>
      have onward := leadsOn_evaluate segments body valid result
      dsimp only
      by_cases ends : kind = .optional ∨ place = cursor
      · rw [if_pos ends, if_pos ends]
        exact (following onward.valid).after portions otherPortions fun behind => abreast.once behind
      · rw [if_neg ends, if_neg ends]
        obtain ⟨once, moved⟩ := not_or.mp ends
        obtain rfl : kind = .repeatable := by
          cases kind with
          | optional => exact absurd rfl once
          | repeatable => rfl
        have round := again _ (room ▸ onward.left_lt moved) onward.valid rfl
        exact round.after portions otherPortions fun behind => abreast.again behind

theorem keepsStep (alike : List.Forall₂ Alike segments others) (pattern : Pattern) :
    KeepsStep segments others pattern := by
  induction pattern with
  | done => exact fun _ _ => .reached .done
  | item head next step => exact keepsStep_item alike head step
  | group kind body next bodyStep step => exact keepsStep_group alike kind bodyStep step

end Pattern

end LineTemplates
