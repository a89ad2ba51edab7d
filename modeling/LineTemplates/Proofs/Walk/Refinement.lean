import LineTemplates.Proofs.Pattern.Runs
import LineTemplates.Proofs.Pattern.Spelling
import LineTemplates.Proofs.Template.Drafting
import LineTemplates.Proofs.Walk.Turns
import Mathlib.Tactic.Ring

/-! The walk of a compiled template does what the pattern says. From a node whose chain holds a pattern, the walk
comes to the end of the chain with the pattern's own outcome, in no more turns than the line leaves room for. -/

namespace LineTemplates

open Template (Holds)

namespace Walk

/-- Enough turns for a pattern: each round of a group pays for its body, and each but the last moves on the line. -/
def cost (line : List Segment) : Pattern → Nat
  | .done => 1
  | .item _ next => cost line next + 1
  | .group _ body next => (room line + 1) * (cost line body + 1) + cost line next + 1

/-- From a node on, the walk leaves the node's chain with the outcome of the pattern, wherever on the line it is and
whatever groups are around it. -/
def Performs (template : Template) (line : List Segment) (bound index : Nat) (spent : Bool)
    (pattern : Pattern) : Prop :=
  ∀ ⦃cursor : Cursor⦄ ⦃given : List Text⦄ ⦃lanes : List Lane⦄, cursor.Valid line → Kept lanes given →
    Leads template line bound ⟨index, spent, cursor, true, given, lanes⟩
      (close template line index lanes given ((pattern.evaluate line cursor).after given))

section Performs

variable {template : Template} {line : List Segment} {bound more index next head : Nat} {spent : Bool} {item : Item}
  {kind : GroupKind} {body rest pattern : Pattern}

theorem Performs.mono (performs : Performs template line bound index spent pattern) (enough : bound ≤ more) :
    Performs template line more index spent pattern := by
  intro cursor given lanes valid kept
  exact (performs valid kept).mono enough

theorem performs_done (free : spent = true ∨ (template.node index).group = none)
    (last : (template.node index).next = none) : Performs template line 1 index spent .done := by
  intro cursor given lanes valid kept
  rw [Pattern.evaluate, Evaluation.after, List.append_nil]
  exact .of_step (step_of_last free last) Nat.one_pos

theorem performs_item (free : spent = true ∨ (template.node index).group = none)
    (linked : template.Linked index next (.item item)) (tail : template.literalTail next = rest.tail?)
    (following : Performs template line bound next false rest) :
    Performs template line (bound + 1) index spent (.item item rest) := by
  intro cursor given lanes valid kept
  have turn : step template line ⟨index, spent, cursor, true, given, lanes⟩ = _ := step_of_item free linked
  rw [tail] at turn
  rw [Pattern.evaluate]
  cases taken : item.take line rest.tail? cursor with
  | none =>
    rw [taken] at turn
    exact .of_step turn (Nat.succ_pos bound)
  | some found =>
    obtain ⟨place, more⟩ := found
    rw [taken] at turn
    dsimp only at turn ⊢
    by_cases ends : item = .rest
    · rw [if_pos ends] at turn ⊢
      exact .of_step turn (Nat.succ_pos bound)
    · rw [if_neg ends] at turn ⊢
      have leads := following (Cursor.onward_of_take valid taken).valid (kept.append more)
      rw [close_append kept, close_congr linked.sameOwner, ← Evaluation.after_after] at leads
      exact .goesOn turn leads

/-- Each round of a group comes back to the node that carries it. -/
theorem performs_group (carries : template.Carries index head kind)
    (inner : Performs template line bound head false body) (following : Performs template line more index true rest) :
    Performs template line ((room line + 1) * (bound + 1) + more) index false (.group kind body rest) := by
  intro cursor given lanes valid kept
  have rounds : Leads template line ((cursor.left line + 1) * (bound + 1) + more)
      ⟨index, false, cursor, true, given, lanes⟩ (close template line index lanes given
        (((Pattern.group kind body rest).evaluate line cursor).after given)) := by
    -- Each round but the last moves on the line, which pays for the rounds after it.
    induction room : cursor.left line using Nat.strong_induction_on generalizing cursor given with
    | _ left again =>
      have round : bound + 1 + more ≤ (left + 1) * (bound + 1) + more := by
        rw [Nat.succ_mul]
        omega
      have entered := Leads.goesOn (step_of_group carries.link) (inner valid (kept.enter cursor))
      rw [close_carried carries] at entered
      rw [Pattern.evaluate_group kind body rest valid]
      cases result : body.evaluate line cursor with
      | failed =>
        rw [result] at entered
        exact (entered.trans (following valid kept)).mono round
      | finished arguments =>
        rw [result] at entered
        exact entered.mono ((Nat.le_add_right ..).trans round)
      | reached place arguments =>
        rw [result] at entered
        have onward := Pattern.leadsOn_evaluate line body valid result
        by_cases ends : kind = .optional ∨ place = cursor
        · have leads := following onward.valid (kept.append arguments)
          rw [close_append kept, ← Evaluation.after_after] at leads
          simp only [ends, if_true, decide_true, Evaluation.after] at entered ⊢
          exact (entered.trans leads).mono round
        · have shorter : place.left line < left := room ▸ onward.left_lt (ends <| .inr ·)
          have leads := again _ shorter onward.valid (kept.append arguments) rfl
          rw [close_append kept, ← Evaluation.after_after] at leads
          simp only [ends, if_false, decide_false, Evaluation.after] at entered ⊢
          have fewer : (place.left line + 1) * (bound + 1) ≤ left * (bound + 1) := Nat.mul_le_mul_right _ shorter
          refine (entered.trans leads).mono ?_
          rw [Nat.succ_mul left]
          omega
  have enough := Nat.mul_le_mul_right (bound + 1) (Nat.succ_le_succ (Cursor.left_le_room line cursor))
  exact rounds.mono (Nat.add_le_add_right enough more)

theorem performs_carrier (linked : template.Linked index next .anchor)
    (following : Performs template line bound next false pattern) :
    Performs template line (bound + 1) index true pattern := by
  intro cursor given lanes valid kept
  have leads := following valid kept
  rw [close_congr linked.sameOwner] at leads
  exact .goesOn (step_of_anchor linked) leads

end Performs

theorem performs_of_holds {template : Template} {index : Nat} {spent : Bool} {pattern : Pattern}
    (line : List Segment) (holds : Holds template index spent pattern) :
    Performs template line (cost line pattern + spent.toNat) index spent pattern := by
  induction holds with
  | done free last => exact (performs_done free last).mono (Nat.le_add_right ..)
  | item free linked holds following =>
    have tail := Template.literalTail_of_holds holds
    exact (performs_item free linked tail following).mono (Nat.le_add_right ..)
  | group carries inner holds within following => exact performs_group carries within following
  | carrier linked holds following => exact performs_carrier linked following

/-- One more factor pays for all rounds of a group beside the nodes inside it and those behind it. -/
theorem cost_group_le {line : List Segment} {kind : GroupKind} {body next : Pattern} {inner outer : Nat}
    (within : cost line body + 1 ≤ inner) (following : cost line next ≤ outer) (filled : 1 ≤ outer) :
    cost line (.group kind body next) + 1 ≤ inner * outer * (3 * room line + 4) := by
  have rounds := Nat.mul_le_mul_left (room line + 1) within
  have first : inner ≤ inner * outer := Nat.le_mul_of_pos_right inner filled
  have second : outer ≤ inner * outer := Nat.le_mul_of_pos_left outer (by omega)
  calc cost line (.group kind body next) + 1
      ≤ (room line + 1) * inner + outer + 2 := by
        rw [cost]
        omega
    _ ≤ (room line + 1) * (inner * outer) + inner * outer + 2 * (inner * outer) := by
        have widened := Nat.mul_le_mul_left (room line + 1) first
        omega
    _ = inner * outer * (room line + 4) := by ring
    _ ≤ inner * outer * (3 * room line + 4) := Nat.mul_le_mul_left _ (by omega)

-- The second statement is the one for the nodes behind a group, whose carrier stands for the first of them.
theorem cost_le_pow (line : List Segment) (pattern : Pattern) :
    (∀ (index : Nat) (kind : NodeKind) (parent : Option Nat),
      cost line pattern + 1 ≤ (3 * room line + 4) ^ (pattern.layout index kind parent).length) ∧
    ∀ follower index : Nat, cost line pattern ≤ (3 * room line + 4) ^ (pattern.followers follower index).length := by
  have power (count : Nat) : 1 ≤ (3 * room line + 4) ^ count := Nat.one_le_pow _ _ (by omega)
  induction pattern with
  | done =>
    constructor
    · intro index kind parent
      simp only [cost, Pattern.layout, List.length_singleton, pow_one]
      omega
    · intro follower index
      exact power _
  | item head next step =>
    constructor
    · intro index kind parent
      have following := step.1 (index + 1) (.item head) (some index)
      rw [cost, Pattern.layout, List.length_cons, pow_succ]
      calc cost line next + 1 + 1
          ≤ (cost line next + 1) * 2 := by omega
        _ ≤ _ := Nat.mul_le_mul following (by omega)
    · intro follower index
      exact step.1 follower (.item head) (some index)
  | group mark body next bodyStep step =>
    have whole (index : Nat) (kind : NodeKind) (parent : Option Nat) :
        cost line (.group mark body next) + 1 ≤
          (3 * room line + 4) ^ ((Pattern.group mark body next).layout index kind parent).length := by
      rw [Pattern.layout_group, List.length_cons, List.length_append, pow_succ, pow_add]
      exact cost_group_le (bodyStep.1 ..) (step.2 ..) (power _)
    refine ⟨whole, ?_⟩
    intro follower index
    exact (Nat.le_succ _).trans (whole follower .anchor (some index))

end Walk

namespace Template

open Pattern (Spelling Runs)

/-- The walk of a compiled template stops within its turns, with what the pattern makes of the line. -/
theorem leads_ofPattern (name source : Text) (pattern : Pattern) (line : List Segment) :
    Walk.Leads (ofPattern name source pattern) line (Walk.turns (ofPattern name source pattern) line) .start
      (.stops ((pattern.evaluate line .start).result? line)) := by
  have performs := Walk.performs_of_holds line (holds_ofPattern name source pattern)
  have leads := performs (Cursor.valid_start line) (show Walk.Kept [] [] from nofun)
  rw [Walk.close_nil, Evaluation.after_nil] at leads
  apply leads.mono
  have within := (Walk.cost_le_pow line pattern).1 root .anchor none
  calc Walk.cost line pattern
      ≤ (3 * Walk.room line + 4) ^ (ofPattern name source pattern).nodes.size := by
        exact (Nat.le_succ _).trans within
    _ ≤ (3 * Walk.room line + 4) ^ ((ofPattern name source pattern).nodes.size + 1) :=
        Nat.pow_le_pow_right (by omega) (Nat.le_succ _)
    _ ≤ Walk.turns (ofPattern name source pattern) line := Nat.le_succ _

theorem match?_ofPattern (name source : Text) (pattern : Pattern) (line : List Segment) :
    (ofPattern name source pattern).match? line = (pattern.evaluate line .start).result? line :=
  (leads_ofPattern name source pattern line).run_eq

/-- A compiled template finds in a line just what the pattern that its source spells makes of the line. -/
theorem match?_eq_iff_runs {name source : Text} {template : Template} (compiled : compile name source = .ok template)
    (line : List Segment) (result : Option (List Text)) :
    template.match? line = result ↔ ∃ pattern outcome, Spelling pattern source ∧
      Runs line pattern .start [] outcome ∧ outcome.result? line = result := by
  obtain ⟨pattern, parsed, rfl⟩ := compile_eq_ok_iff.mp compiled
  rw [match?_ofPattern]
  constructor
  · intro same
    have runs := Pattern.runs_evaluate pattern [] (Cursor.valid_start line)
    rw [Evaluation.after_nil] at runs
    exact ⟨pattern, _, Pattern.parse_eq_ok_iff.mp parsed, runs, same⟩
  · rintro ⟨other, outcome, spelled, runs, rfl⟩
    obtain rfl : pattern = other := Except.ok.inj (parsed.symm.trans (Pattern.parse_eq_ok_iff.mpr spelled))
    rw [runs.eq_evaluate (Cursor.valid_start line), Evaluation.after_nil]

theorem match?_repeated_ident :
    let source : Text := ['<', '$', 'i', 'd', 'e', 'n', 't', '_', '>']
    let pattern : Pattern := .group .repeatable (.item .ident (.item .skipBlanks .done)) .done
    let line : List Segment := [.run ['a'], .symbol ' ', .run ['b']]
    compile [] source = .ok (ofPattern [] source pattern) ∧
      (ofPattern [] source pattern).match? line = some [['a'], ['b']] := by
  intro source pattern line
  have inside : Spelling (.item .ident (.item .skipBlanks .done)) ['$', 'i', 'd', 'e', 'n', 't', '_'] :=
    .placeholder .ident (by simp [Segment.isNameChar]) (.blanks .done)
  have spelled : Spelling pattern source := .group inside .done
  have compiled : compile [] source = .ok (ofPattern [] source pattern) :=
    compile_eq_ok_iff.mpr ⟨_, Pattern.parse_eq_ok_iff.mpr spelled, rfl⟩
  have outcome : Runs line pattern .start [] (.reached ⟨3, 0⟩ [['a'], ['b']]) := by
    refine .again (.takes rfl (by decide) (.takes rfl (by decide) .done)) (by decide) ?_
    refine .again (.takes rfl (by decide) (.takes rfl (by decide) .done)) (by decide) ?_
    exact .skipped (.fails rfl) .done
  exact ⟨compiled, (match?_eq_iff_runs compiled line _).mpr ⟨pattern, _, spelled, outcome, rfl⟩⟩

end Template

end LineTemplates
