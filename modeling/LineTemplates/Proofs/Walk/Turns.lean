import LineTemplates.Pattern.Evaluation
import LineTemplates.Proofs.Template.Chain
import LineTemplates.Walk

/-! Turns of the walk. One lemma for each kind of turn says where the walk goes next; several turns compose, and how
the walk leaves a chain depends on no more than the node that carries the chain. -/

namespace LineTemplates

namespace Walk

variable {template : Template} {line : List Segment}

inductive Leads (template : Template) (line : List Segment) : Nat → Walk → Turn → Prop
  | here {bound : Nat} {walk : Walk} : Leads template line bound walk (.goesOn walk)
  | goesOn {bound : Nat} {walk next : Walk} {turn : Turn} (turns : step template line walk = .goesOn next)
      (leads : Leads template line bound next turn) : Leads template line (bound + 1) walk turn
  | stops {bound : Nat} {walk : Walk} {result : Option (List Text)}
      (turns : step template line walk = .stops result) : Leads template line (bound + 1) walk (.stops result)

namespace Leads

variable {walk next : Walk} {turn : Turn} {bound more : Nat}

theorem of_step (turns : step template line walk = turn) (enough : 0 < bound) :
    Leads template line bound walk turn := by
  obtain ⟨less, rfl⟩ := Nat.exists_eq_add_one_of_ne_zero enough.ne'
  cases turn with
  | goesOn next => exact .goesOn turns .here
  | stops result => exact .stops turns

theorem mono (leads : Leads template line bound walk turn) (enough : bound ≤ more) :
    Leads template line more walk turn := by
  induction leads generalizing more with
  | here => exact .here
  | goesOn turns _ step =>
    obtain ⟨less, rfl⟩ := Nat.exists_eq_add_one_of_ne_zero (show more ≠ 0 by omega)
    exact .goesOn turns (step (by omega))
  | stops turns =>
    obtain ⟨less, rfl⟩ := Nat.exists_eq_add_one_of_ne_zero (show more ≠ 0 by omega)
    exact .stops turns

theorem trans (first : Leads template line bound walk (.goesOn next)) (second : Leads template line more next turn) :
    Leads template line (bound + more) walk turn := by
  generalize reached : Turn.goesOn next = middle at first
  induction first with
  | here =>
    cases reached
    exact second.mono (by omega)
  | goesOn turns _ step =>
    rw [Nat.add_right_comm]
    exact .goesOn turns (step reached)
  | stops turns => cases reached

theorem run_eq {result : Option (List Text)} (leads : Leads template line bound walk (.stops result)) :
    run template line bound walk = result := by
  generalize stopped : Turn.stops result = turn at leads
  induction leads with
  | here => cases stopped
  | goesOn turns _ step =>
    rw [run, turns]
    exact step stopped
  | stops turns =>
    cases stopped
    rw [run, turns]

end Leads

def Kept (lanes : List Lane) (given : List Text) : Prop := ∀ lane ∈ lanes, lane.argumentCount ≤ given.length

namespace Kept

variable {lanes : List Lane} {given : List Text}

theorem append (kept : Kept lanes given) (more : List Text) : Kept lanes (given ++ more) := by
  intro lane inside
  rw [List.length_append]
  exact (kept lane inside).trans (Nat.le_add_right ..)

theorem enter (kept : Kept lanes given) (cursor : Cursor) : Kept (⟨cursor, true, given.length⟩ :: lanes) given :=
  List.forall_mem_cons.mpr ⟨Nat.le_refl _, kept⟩

end Kept

def close (template : Template) (line : List Segment) (index : Nat) (lanes : List Lane) (given : List Text) :
    Evaluation → Turn
  | .failed => retreat template ⟨index, true, .start, true, given, lanes⟩
  | .finished arguments => .stops (some arguments)
  | .reached place arguments => leave template line ⟨index, true, place, true, arguments, lanes⟩

section Close

variable {index other : Nat} {lanes : List Lane} {given more : List Text} {outcome : Evaluation}

theorem retreat_eq_close (walk : Walk) :
    retreat template walk = close template line walk.current walk.lanes walk.arguments .failed := by
  obtain ⟨index, blocked, cursor, matched, given, lanes⟩ := walk
  cases lanes <;> rfl

theorem leave_eq_close {blocked : Bool} {place : Cursor} {arguments : List Text} :
    leave template line ⟨index, blocked, place, true, arguments, lanes⟩ =
      close template line index lanes given (.reached place arguments) := by
  cases lanes <;> rfl

theorem close_congr (same : template.branchOwner index = template.branchOwner other) :
    close template line index lanes given outcome = close template line other lanes given outcome := by
  cases outcome <;> simp [close, retreat, leave, same]

/-- What was given inside a chain is of no account once the chain fails. -/
theorem close_append (kept : Kept lanes given) :
    close template line index lanes (given ++ more) outcome = close template line index lanes given outcome := by
  cases outcome with
  | failed =>
    cases lanes with
    | nil => rfl
    | cons lane outer =>
      have shorter := kept lane (by simp)
      simp [close, retreat, List.take_append_of_le_length shorter]
  | finished arguments => rfl
  | reached place arguments => rfl

theorem close_nil : close template line index [] given outcome = .stops (outcome.result? line) := by
  cases outcome <;> rfl

end Close

section Steps

variable {index next : Nat} {blocked : Bool} {cursor : Cursor} {given : List Text} {lanes : List Lane}

theorem step_of_last (free : blocked = true ∨ (template.node index).group = none)
    (last : (template.node index).next = none) :
    step template line ⟨index, blocked, cursor, true, given, lanes⟩ =
      close template line index lanes given (.reached cursor given) := by
  have leaves : step template line ⟨index, blocked, cursor, true, given, lanes⟩ =
      leave template line ⟨index, blocked, cursor, true, given, lanes⟩ := by
    rcases free with rfl | bare
    · cases group : (template.node index).group <;> simp [step, group, last]
    · simp [step, bare, last]
  exact leaves.trans leave_eq_close

theorem step_of_next (free : blocked = true ∨ (template.node index).group = none)
    (link : (template.node index).next = some next) :
    step template line ⟨index, blocked, cursor, true, given, lanes⟩ =
      visit template line ⟨next, false, cursor, true, given, lanes⟩ := by
  rcases free with rfl | bare
  · cases group : (template.node index).group <;> simp [step, group, link]
  · simp [step, bare, link]

theorem step_of_anchor (linked : template.Linked index next .anchor) :
    step template line ⟨index, true, cursor, true, given, lanes⟩ =
      .goesOn ⟨next, false, cursor, true, given, lanes⟩ := by
  rw [step_of_next (.inl rfl) linked.link]
  simp [visit, linked.kind_eq]

/-- What follows an item is of no account to it, unless it is a rest. -/
theorem take_tail {item : Item} (goesOn : item ≠ .rest) (tail other : Option Text) :
    item.take line tail cursor = item.take line other cursor := by
  cases item with
  | rest => exact absurd rfl goesOn
  | _ => rfl

theorem step_of_item {head : Item} (free : blocked = true ∨ (template.node index).group = none)
    (linked : template.Linked index next (.item head)) :
    step template line ⟨index, blocked, cursor, true, given, lanes⟩ =
      match head.take line (template.literalTail next) cursor with
      | none => close template line index lanes given .failed
      | some (place, more) =>
        if head = .rest then .stops (some (given ++ more))
        else .goesOn ⟨next, false, place, true, given ++ more, lanes⟩ := by
  have taken : head.take line (if head = .rest then template.literalTail next else none) cursor =
      head.take line (template.literalTail next) cursor := by
    by_cases ends : head = .rest
    · rw [if_pos ends]
    · exact take_tail ends ..
  rw [step_of_next free linked.link]
  simp only [visit, linked.kind_eq, taken]
  cases head.take line (template.literalTail next) cursor with
  | none =>
    rw [← close_congr linked.sameOwner]
    exact retreat_eq_close _
  | some found => simp

theorem step_of_group {head : Nat} (link : (template.node index).group = some head) :
    step template line ⟨index, false, cursor, true, given, lanes⟩ =
      .goesOn ⟨head, false, cursor, true, given, ⟨cursor, true, given.length⟩ :: lanes⟩ := by
  simp [step, enter, link]

/-- A group that is over hands back to the node that carries it. -/
theorem close_carried {head : Nat} {kind : GroupKind} (carries : template.Carries index head kind)
    (outcome : Evaluation) :
    close template line head (⟨cursor, true, given.length⟩ :: lanes) given outcome =
      match outcome with
      | .failed => .goesOn ⟨index, true, cursor, true, given, lanes⟩
      | .finished arguments => .stops (some arguments)
      | .reached place arguments =>
        .goesOn ⟨index, kind = .optional ∨ place = cursor, place, true, arguments, lanes⟩ := by
  cases outcome with
  | failed => simp [close, retreat, carries.owner]
  | finished arguments => rfl
  | reached place arguments =>
    have ends : (!(decide (kind = .repeatable) && cursor != place)) = decide (kind = .optional ∨ place = cursor) := by
      cases kind <;> simp [Bool.beq_eq_decide_eq, bne, eq_comm]
    simp [close, leave, carries.owner, carries.repeatable_eq, ends]

end Steps

end Walk

end LineTemplates
