import LineTemplates.Proofs.Walk.Refinement

/-! Walks on their way. A walk is reached after so many turns from the start, and for a compiled template there are
fewer of them than the walk is allowed: none goes on for ever, whatever its groups take or leave. -/

namespace LineTemplates

namespace Walk

inductive Reached (template : Template) (line : List Segment) : Nat → Walk → Prop
  | start : Reached template line 0 .start
  | goesOn {count : Nat} {walk next : Walk} (reached : Reached template line count walk)
      (turns : step template line walk = .goesOn next) : Reached template line (count + 1) next

section Ending

variable {template : Template} {line : List Segment} {bound count : Nat} {walk next : Walk}
  {result : Option (List Text)}

theorem Leads.pos (leads : Leads template line bound walk (.stops result)) : 0 < bound := by
  cases leads with
  | goesOn => exact Nat.succ_pos _
  | stops => exact Nat.succ_pos _

/-- One turn uses up one of those that are left before the walk stops. -/
theorem Leads.onward (leads : Leads template line bound walk (.stops result))
    (turns : step template line walk = .goesOn next) :
    ∃ less, bound = less + 1 ∧ Leads template line less next (.stops result) := by
  cases leads with
  | goesOn other leads =>
    rw [turns] at other
    cases other
    exact ⟨_, rfl, leads⟩
  | stops other =>
    rw [turns] at other
    cases other

/-- On the way to its stop a walk has turns left at every place that it reaches. -/
theorem Reached.leads (reached : Reached template line count walk)
    (stops : Leads template line bound .start (.stops result)) :
    ∃ left, bound = count + left ∧ Leads template line left walk (.stops result) := by
  induction reached with
  | start => exact ⟨bound, (Nat.zero_add bound).symm, stops⟩
  | goesOn _ turns step =>
    obtain ⟨left, whole, leads⟩ := step
    obtain ⟨less, rfl, later⟩ := leads.onward turns
    refine ⟨less, ?_, later⟩
    omega

theorem Reached.count_lt (reached : Reached template line count walk)
    (stops : Leads template line bound .start (.stops result)) : count < bound := by
  obtain ⟨left, whole, leads⟩ := reached.leads stops
  have more := leads.pos
  omega

theorem reached_of_run {walks : Nat → Walk} (begun : walks 0 = .start)
    (runs : ∀ turn, step template line (walks turn) = .goesOn (walks (turn + 1))) (turn : Nat) :
    Reached template line turn (walks turn) := by
  induction turn with
  | zero =>
    rw [begun]
    exact .start
  | succ turn step => exact .goesOn step (runs turn)

end Ending

end Walk

namespace Template

open Pattern (Spelling)

/-- The walk of a compiled template takes fewer turns than it is allowed, so it never goes on without end. -/
theorem no_endless_walk {name source : Text} {template : Template} (compiled : compile name source = .ok template)
    (line : List Segment) :
    (∀ count walk, Walk.Reached template line count walk → count < Walk.turns template line) ∧
      ¬ ∃ walks : Nat → Walk, walks 0 = .start ∧
        ∀ turn, Walk.step template line (walks turn) = .goesOn (walks (turn + 1)) := by
  obtain ⟨pattern, _, rfl⟩ := compile_eq_ok_iff_spelling.mp compiled
  have stops := leads_ofPattern name source pattern line
  constructor
  · intro count walk reached
    exact reached.count_lt stops
  · rintro ⟨walks, begun, runs⟩
    have reached := Walk.reached_of_run begun runs (Walk.turns (ofPattern name source pattern) line)
    exact absurd (reached.count_lt stops) (Nat.lt_irrefl _)

theorem no_endless_walk_of_empty_rounds :
    let source : Text := ['<', '<', '[', 'a', ']', '>', '>']
    let inner : Pattern := .group .repeatable (.group .optional (.item (.literal 'a') .done) .done) .done
    let template := ofPattern [] source (.group .repeatable inner .done)
    let line : List Segment := [.run ['b']]
    compile [] source = .ok template ∧
      (∀ count walk, Walk.Reached template line count walk → count < Walk.turns template line) ∧
      ¬ ∃ walks : Nat → Walk, walks 0 = .start ∧
        ∀ turn, Walk.step template line (walks turn) = .goesOn (walks (turn + 1)) := by
  intro source inner template line
  have spelled : Spelling (.group .repeatable inner .done) source := by
    have inside : Spelling inner ['<', '[', 'a', ']', '>'] :=
      .group (.group (.literal (by decide) .done) .done) .done
    exact .group inside .done
  have compiled : compile [] source = .ok template := compile_of_spelling [] spelled
  exact ⟨compiled, no_endless_walk compiled line⟩

end Template

end LineTemplates
