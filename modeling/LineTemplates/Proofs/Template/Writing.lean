import LineTemplates.Proofs.Template.Chain
import LineTemplates.Template.Draft

/-! Patterns written into drafts. What is written of a pattern, node after node, from the root on is its layout. -/

namespace LineTemplates

namespace Draft

def write (draft : Draft) : Pattern → Draft
  | .done => draft
  | .item head next => write (draft.follow (.item head)) next
  | .group kind body next => write ⟨(write (draft.carrier.enter kind) body).template, draft.carrier.current⟩ next

section Layout

variable {name source : Text}

def ofNodes (name source : Text) (front : List Node) (tip : Node) (inner : List Node) : Draft :=
  ⟨⟨name, source, (front ++ tip :: inner).toArray⟩, front.length⟩

variable (front inner : List Node) (tip : Node)

theorem node_ofNodes : (ofNodes name source front tip inner).template.node front.length = tip := by
  simp [ofNodes, Template.node]

theorem modify_append_cons (change : Node → Node) :
    (front ++ tip :: inner).modify front.length change = front ++ change tip :: inner := by
  induction front with
  | nil => rfl
  | cons first more step => simpa using step

theorem grow_ofNodes (kind : NodeKind) (change : Node → Node) :
    (ofNodes name source front tip inner).grow kind change =
      ofNodes name source (front ++ change tip :: inner) (.bare kind front.length) [] := by
  simp [grow, ofNodes, modify_append_cons]

theorem size_ofNodes :
    (ofNodes name source front tip inner).template.nodes.size = front.length + 1 + inner.length := by
  simp [ofNodes]
  omega

theorem follow_ofNodes (kind : NodeKind) :
    (ofNodes name source front tip inner).follow kind =
      ofNodes name source (front ++ { tip with next := some (front.length + 1 + inner.length) } :: inner)
        (.bare kind front.length) [] := by
  rw [follow, grow_ofNodes, size_ofNodes]

theorem enter_ofNodes (kind : GroupKind) :
    (ofNodes name source front tip []).enter kind =
      ofNodes name source
        (front ++ [{ tip with group := some (front.length + 1), repeatable := kind = .repeatable }])
        (.bare .anchor front.length) [] := by
  rw [enter, grow_ofNodes, size_ofNodes]
  rfl

theorem carrier_ofNodes :
    (ofNodes name source front tip inner).carrier =
      if tip.group.isSome then (ofNodes name source front tip inner).follow .anchor
      else ofNodes name source front tip inner := by
  have current : (ofNodes name source front tip inner).current = front.length := rfl
  rw [carrier, current, node_ofNodes]

theorem length_append_cons : (front ++ tip :: inner).length = front.length + 1 + inner.length := by
  simp
  omega

theorem write_enter {body : Pattern} (kind : GroupKind)
    (written : ∀ (front : List Node) (kind : NodeKind) (parent : Option Nat),
      ((ofNodes name source front (.bare kind parent) []).write body).template =
        ⟨name, source, (front ++ body.layout front.length kind parent).toArray⟩) :
    ⟨(((ofNodes name source front tip []).enter kind).write body).template, front.length⟩ =
      ofNodes name source front { tip with group := some (front.length + 1), repeatable := kind = .repeatable }
        (body.layout (front.length + 1) .anchor (some front.length)) := by
  rw [enter_ofNodes, written]
  simp [ofNodes]

theorem carrier_bare (kind : NodeKind) (parent : Option Nat) :
    (ofNodes name source front (.bare kind parent) []).carrier = ofNodes name source front (.bare kind parent) [] :=
  carrier_ofNodes ..

-- Both statements are proved at once: a group passes from a node that is new to one whose group is written already.
theorem write_ofNodes (name source : Text) (pattern : Pattern) :
    (∀ (front : List Node) (kind : NodeKind) (parent : Option Nat),
      ((ofNodes name source front (.bare kind parent) []).write pattern).template =
        ⟨name, source, (front ++ pattern.layout front.length kind parent).toArray⟩) ∧
    ∀ (front inner : List Node) (kind : NodeKind) (parent : Option Nat) (head : Nat) (repeatable : Bool),
      ((ofNodes name source front ⟨kind, parent, none, some head, repeatable⟩ inner).write pattern).template =
        let follower := front.length + 1 + inner.length
        let outer := pattern.followers follower front.length
        ⟨name, source, (front ++ ⟨kind, parent, if outer.isEmpty then none else some follower, some head, repeatable⟩ ::
          (inner ++ outer)).toArray⟩ := by
  induction pattern with
  | done =>
    constructor
    · intro front kind parent
      simp [write, ofNodes, Pattern.layout, Node.bare]
    · intro front inner kind parent head repeatable
      simp [write, ofNodes, Pattern.followers]
  | item item next step =>
    constructor
    · intro front kind parent
      rw [write, follow_ofNodes, step.1]
      simp [Pattern.layout, Node.bare]
    · intro front inner kind parent head repeatable
      rw [write, follow_ofNodes, step.1, length_append_cons]
      simp only [Pattern.isEmpty_followers, reduceCtorEq, decide_false, Bool.false_eq_true, if_false]
      simp [Pattern.followers]
  | group mark body next bodyStep step =>
    have fresh (front : List Node) (kind : NodeKind) (parent : Option Nat) :
        ((ofNodes name source front (.bare kind parent) []).write (.group mark body next)).template =
          ⟨name, source, (front ++ (Pattern.group mark body next).layout front.length kind parent).toArray⟩ := by
      have current : (ofNodes name source front (.bare kind parent) []).current = front.length := rfl
      rw [write, carrier_bare, current, write_enter front _ mark bodyStep.1, Node.bare, step.2, Pattern.layout_group]
    refine ⟨fresh, ?_⟩
    intro front inner kind parent head repeatable
    have carried : (ofNodes name source front ⟨kind, parent, none, some head, repeatable⟩ inner).carrier =
        (ofNodes name source front ⟨kind, parent, none, some head, repeatable⟩ inner).follow .anchor :=
      carrier_ofNodes ..
    have moved := fresh
      (front ++ ⟨kind, parent, some (front.length + 1 + inner.length), some head, repeatable⟩ :: inner)
      .anchor (some front.length)
    rw [write, carrier_bare] at moved
    rw [write, carried, follow_ofNodes, moved, length_append_cons]
    simp only [Pattern.isEmpty_followers, reduceCtorEq, decide_false, Bool.false_eq_true, if_false]
    simp [Pattern.followers]

end Layout

end Draft

end LineTemplates
