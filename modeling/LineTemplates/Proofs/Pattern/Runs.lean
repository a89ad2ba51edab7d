import LineTemplates.Proofs.Cursor.Onward

/-! Runs of patterns, rule by rule. The rules know no limit on the rounds of a group; a run exists from every place of
a line, it is the only one, and bounded evaluation finds it. -/

namespace LineTemplates

namespace Evaluation

def andThen (next : Cursor → Evaluation) : Evaluation → Evaluation
  | reached place arguments => (next place).after arguments
  | ending => ending

@[simp]
theorem after_nil (outcome : Evaluation) : outcome.after [] = outcome := by
  cases outcome <;> rfl

@[simp]
theorem after_after (first second : List Text) (outcome : Evaluation) :
    (outcome.after second).after first = outcome.after (first ++ second) := by
  cases outcome <;> simp [after]

theorem after_eq_failed {given : List Text} {outcome : Evaluation} (same : .failed = outcome.after given) :
    outcome = failed := by
  cases outcome <;> cases same
  rfl

theorem after_eq_finished {given arguments : List Text} {outcome : Evaluation}
    (same : .finished arguments = outcome.after given) :
    ∃ more, outcome = finished more ∧ arguments = given ++ more := by
  cases outcome <;> cases same
  exact ⟨_, rfl, rfl⟩

theorem after_eq_reached {given arguments : List Text} {place : Cursor} {outcome : Evaluation}
    (same : .reached place arguments = outcome.after given) :
    ∃ more, outcome = reached place more ∧ arguments = given ++ more := by
  cases outcome <;> cases same
  exact ⟨_, rfl, rfl⟩

theorem andThen_after (next : Cursor → Evaluation) (given : List Text) (outcome : Evaluation) :
    (outcome.after given).andThen next = (outcome.andThen next).after given := by
  cases outcome with
  | reached place arguments => exact (after_after given arguments (next place)).symm
  | _ => rfl

variable {line : List Segment} {body : Cursor → Evaluation} {limit other : Nat} {cursor : Cursor}

def LeadsOn (line : List Segment) (body : Cursor → Evaluation) : Prop :=
  ∀ ⦃cursor place : Cursor⦄ ⦃arguments : List Text⦄, cursor.Valid line → body cursor = reached place arguments →
    Cursor.Onward line cursor place

theorem LeadsOn.iterate (leads : LeadsOn line body) (limit : Nat) : LeadsOn line (iterate body limit) := by
  induction limit with
  | zero =>
    intro cursor place arguments valid result
    cases result
    exact .refl valid
  | succ limit step =>
    intro cursor place arguments valid result
    rw [Evaluation.iterate] at result
    split at result
    · cases result
      exact .refl valid
    · cases result
    · rename_i next given inner
      have onward := leads valid inner
      split at result
      · cases result
        exact onward
      · cases following : Evaluation.iterate body limit next with
        | reached last more =>
          rw [following, after] at result
          cases result
          exact onward.trans (step onward.valid following)
        | _ => rw [following] at result; cases result

/-- Any two limits that the line leaves no room to exhaust give the same result. -/
theorem iterate_limit (leads : LeadsOn line body) (valid : cursor.Valid line) (enough : cursor.left line < limit)
    (otherEnough : cursor.left line < other) : iterate body limit cursor = iterate body other cursor := by
  induction limit generalizing other cursor with
  | zero => omega
  | succ limit step =>
    cases other with
    | zero => omega
    | succ other =>
      rw [iterate, iterate]
      split
      · rfl
      · rfl
      · rename_i place arguments inner
        have onward := leads valid inner
        split
        · rfl
        · rename_i moved
          have shorter := onward.left_lt moved
          have same : iterate body limit place = iterate body other place :=
            step onward.valid (by omega) (by omega)
          rw [same]

end Evaluation

namespace Pattern

open Evaluation

variable {line : List Segment}

def rounds (line : List Segment) : GroupKind → Nat
  | .optional => 1
  | .repeatable => moves line

theorem evaluate_eq_andThen (kind : GroupKind) (body next : Pattern) (cursor : Cursor) :
    (group kind body next).evaluate line cursor =
      (iterate (body.evaluate line) (rounds line kind) cursor).andThen (next.evaluate line) := by
  cases kind <;> rfl

theorem LeadsOn.andThen {first second : Cursor → Evaluation} (leads : LeadsOn line first)
    (following : LeadsOn line second) : LeadsOn line fun cursor => (first cursor).andThen second := by
  intro cursor place arguments valid result
  cases inner : first cursor with
  | reached middle given =>
    have onward := leads valid inner
    simp only [inner, Evaluation.andThen] at result
    cases outer : second middle with
    | reached last more =>
      simp only [outer, after] at result
      cases result
      exact onward.trans (following onward.valid outer)
    | _ => simp only [outer, after] at result; cases result
  | _ => simp only [inner, Evaluation.andThen] at result; cases result

theorem leadsOn_evaluate (line : List Segment) (pattern : Pattern) : LeadsOn line (pattern.evaluate line) := by
  induction pattern with
  | done =>
    intro cursor place arguments valid result
    cases result
    exact .refl valid
  | item head next step =>
    intro cursor place arguments valid result
    rw [evaluate] at result
    split at result
    · cases result
    · rename_i middle given taken
      have onward := Cursor.onward_of_take valid taken
      split at result
      · cases result
      · cases following : next.evaluate line middle with
        | reached last more =>
          rw [following, after] at result
          cases result
          exact onward.trans (step onward.valid following)
        | _ => rw [following] at result; cases result
  | group kind body next bodyStep step =>
    have leads := LeadsOn.andThen (bodyStep.iterate (rounds line kind)) step
    intro cursor place arguments valid result
    rw [evaluate_eq_andThen] at result
    exact leads valid result

theorem moves_ne_zero (line : List Segment) : moves line ≠ 0 :=
  (Nat.zero_le _).trans_lt (Cursor.room_lt_moves line) |>.ne'

/-- One round of a group: it is left behind when it fails, and gone around again only after a success that moves. -/
theorem evaluate_group (kind : GroupKind) (body next : Pattern) {cursor : Cursor} (valid : cursor.Valid line) :
    (group kind body next).evaluate line cursor =
      match body.evaluate line cursor with
      | .failed => next.evaluate line cursor
      | .finished arguments => .finished arguments
      | .reached place arguments =>
        if kind = .optional ∨ place = cursor then (next.evaluate line place).after arguments
        else ((group kind body next).evaluate line place).after arguments := by
  have leads := leadsOn_evaluate line body
  obtain ⟨limit, limit_eq⟩ : ∃ limit, rounds line kind = limit + 1 :=
    Nat.exists_eq_add_one_of_ne_zero (by cases kind <;> simp [rounds, moves_ne_zero])
  rw [evaluate_eq_andThen, limit_eq, iterate]
  cases inner : body.evaluate line cursor with
  | failed => simp [Evaluation.andThen]
  | finished arguments => rfl
  | reached place arguments =>
    by_cases stays : place = cursor
    · simp [stays, Evaluation.andThen]
    · simp only [stays, if_false, or_false, evaluate_eq_andThen]
      rw [andThen_after]
      cases kind with
      | optional =>
        obtain rfl : limit = 0 := by simpa [rounds] using limit_eq.symm
        simp [iterate, Evaluation.andThen]
      | repeatable =>
        have onward := leads valid inner
        have shorter := onward.left_lt stays
        have enough := (Cursor.left_le_room line cursor).trans_lt (Cursor.room_lt_moves line)
        have same : iterate (body.evaluate line) limit place = iterate (body.evaluate line) (moves line) place := by
          apply iterate_limit leads onward.valid
          · simp only [rounds] at limit_eq
            omega
          · omega
        simp [same, rounds]

/-- What happens to a pattern from a place on, with the arguments given so far. A group that fails leaves both as
they were; a repeatable group goes around again after each success that moves. -/
inductive Runs (line : List Segment) : Pattern → Cursor → List Text → Evaluation → Prop
  | done {cursor : Cursor} {given : List Text} : Runs line .done cursor given (.reached cursor given)
  | fails {head : Item} {next : Pattern} {cursor : Cursor} {given : List Text}
      (fails : head.take line next.tail? cursor = none) : Runs line (.item head next) cursor given .failed
  | takes {head : Item} {next : Pattern} {cursor place : Cursor} {given more : List Text} {outcome : Evaluation}
      (takes : head.take line next.tail? cursor = some (place, more)) (goesOn : head ≠ .rest)
      (runs : Runs line next place (given ++ more) outcome) : Runs line (.item head next) cursor given outcome
  | rest {next : Pattern} {cursor place : Cursor} {given more : List Text}
      (takes : Item.rest.take line next.tail? cursor = some (place, more)) :
      Runs line (.item .rest next) cursor given (.finished (given ++ more))
  | skipped {kind : GroupKind} {body next : Pattern} {cursor : Cursor} {given : List Text} {outcome : Evaluation}
      (inner : Runs line body cursor given .failed) (runs : Runs line next cursor given outcome) :
      Runs line (.group kind body next) cursor given outcome
  | finished {kind : GroupKind} {body next : Pattern} {cursor : Cursor} {given arguments : List Text}
      (inner : Runs line body cursor given (.finished arguments)) :
      Runs line (.group kind body next) cursor given (.finished arguments)
  | once {body next : Pattern} {cursor place : Cursor} {given arguments : List Text} {outcome : Evaluation}
      (inner : Runs line body cursor given (.reached place arguments)) (runs : Runs line next place arguments outcome) :
      Runs line (.group .optional body next) cursor given outcome
  | stays {body next : Pattern} {cursor : Cursor} {given arguments : List Text} {outcome : Evaluation}
      (inner : Runs line body cursor given (.reached cursor arguments))
      (runs : Runs line next cursor arguments outcome) : Runs line (.group .repeatable body next) cursor given outcome
  | again {body next : Pattern} {cursor place : Cursor} {given arguments : List Text} {outcome : Evaluation}
      (inner : Runs line body cursor given (.reached place arguments)) (moves : place ≠ cursor)
      (runs : Runs line (.group .repeatable body next) place arguments outcome) :
      Runs line (.group .repeatable body next) cursor given outcome

variable {pattern : Pattern} {cursor : Cursor} {given : List Text} {outcome : Evaluation}

theorem runs_evaluate (pattern : Pattern) (given : List Text) (valid : cursor.Valid line) :
    Runs line pattern cursor given ((pattern.evaluate line cursor).after given) := by
  induction pattern generalizing cursor given with
  | done =>
    simp only [evaluate, Evaluation.after, List.append_nil]
    exact .done
  | item head next step =>
    rw [evaluate]
    split
    · rename_i fails
      exact .fails fails
    · rename_i place more takes
      by_cases ends : head = .rest
      · subst ends
        exact .rest takes
      · rw [if_neg ends, after_after]
        exact .takes takes ends (step _ (Cursor.onward_of_take valid takes).valid)
  | group kind body next bodyStep step =>
    -- A group is gone around again only from a place further on, so there is less of the line left.
    induction room : cursor.left line using Nat.strong_induction_on generalizing cursor given with
    | _ left again =>
      have inner := bodyStep given valid
      rw [evaluate_group kind body next valid]
      cases result : body.evaluate line cursor with
      | failed =>
        rw [result] at inner
        exact .skipped inner (step given valid)
      | finished arguments =>
        rw [result] at inner
        exact .finished inner
      | reached place arguments =>
        rw [result] at inner
        have onward := leadsOn_evaluate line body valid result
        by_cases stays : place = cursor
        · subst stays
          simp only [or_true, if_true, after_after]
          cases kind with
          | optional => exact .once inner (step _ valid)
          | repeatable => exact .stays inner (step _ valid)
        · cases kind with
          | optional =>
            simp only [true_or, if_true, after_after]
            exact .once inner (step _ onward.valid)
          | repeatable =>
            simp only [stays, or_self, reduceCtorEq, if_false, after_after]
            exact .again inner stays (again _ (room ▸ onward.left_lt stays) _ onward.valid rfl)

theorem Runs.eq_evaluate (runs : Runs line pattern cursor given outcome) (valid : cursor.Valid line) :
    outcome = (pattern.evaluate line cursor).after given := by
  induction runs with
  | done => simp [evaluate, after]
  | fails fails => simp [evaluate, fails, after]
  | takes takes goesOn runs step =>
    rw [step (Cursor.onward_of_take valid takes).valid]
    simp [evaluate, takes, goesOn]
  | rest takes => simp [evaluate, takes, after]
  | @skipped kind body next cursor given outcome inner runs innerStep step =>
    rw [evaluate_group kind body next valid, after_eq_failed (innerStep valid)]
    exact step valid
  | @finished kind body next cursor given arguments inner innerStep =>
    obtain ⟨more, result, rfl⟩ := after_eq_finished (innerStep valid)
    rw [evaluate_group kind body next valid, result]
    rfl
  | @once body next cursor place given arguments outcome inner runs innerStep step =>
    obtain ⟨more, result, rfl⟩ := after_eq_reached (innerStep valid)
    have onward := leadsOn_evaluate line body valid result
    rw [evaluate_group .optional body next valid, result]
    simpa using step onward.valid
  | @stays body next cursor given arguments outcome inner runs innerStep step =>
    obtain ⟨more, result, rfl⟩ := after_eq_reached (innerStep valid)
    rw [evaluate_group .repeatable body next valid, result]
    simpa using step valid
  | @again body next cursor place given arguments outcome inner moved runs innerStep step =>
    obtain ⟨more, result, rfl⟩ := after_eq_reached (innerStep valid)
    have onward := leadsOn_evaluate line body valid result
    rw [evaluate_group .repeatable body next valid, result]
    simpa [moved] using step onward.valid

theorem runs_iff (valid : cursor.Valid line) :
    Runs line pattern cursor given outcome ↔ outcome = (pattern.evaluate line cursor).after given := by
  constructor
  · intro runs
    exact runs.eq_evaluate valid
  · rintro rfl
    exact runs_evaluate pattern given valid

end Pattern

end LineTemplates
