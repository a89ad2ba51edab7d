import LineTemplates.Template
import Mathlib.Data.List.Infix

/-! Chains of nodes. A chain holds a pattern when each of its nodes stands for the next item and carries the next
group, with an anchor between two groups. The arena laid out for a pattern holds it from its root on. -/

namespace LineTemplates

namespace Template

structure Linked (template : Template) (index next : Nat) (kind : NodeKind) : Prop where
  link : (template.node index).next = some next
  kind_eq : (template.node next).kind = kind
  forward : index < next
  inside : next < template.nodes.size
  sameOwner : template.branchOwner next = template.branchOwner index

structure Carries (template : Template) (index head : Nat) (kind : GroupKind) : Prop where
  link : (template.node index).group = some head
  kind_eq : (template.node head).kind = .anchor
  repeatable_eq : (template.node index).repeatable = decide (kind = .repeatable)
  forward : index < head
  inside : head < template.nodes.size
  owner : template.branchOwner head = some index

/-- The chain from a node on holds a pattern: what comes after the node's own kind and, if its group is `spent`,
after that group. -/
inductive Holds (template : Template) : Nat → Bool → Pattern → Prop
  | done {index : Nat} {spent : Bool} (free : spent = true ∨ (template.node index).group = none)
      (last : (template.node index).next = none) : Holds template index spent .done
  | item {index next : Nat} {spent : Bool} {head : Item} {rest : Pattern}
      (free : spent = true ∨ (template.node index).group = none)
      (linked : template.Linked index next (.item head)) (holds : Holds template next false rest) :
      Holds template index spent (.item head rest)
  | group {index head : Nat} {kind : GroupKind} {body next : Pattern}
      (carries : template.Carries index head kind) (inner : Holds template head false body)
      (holds : Holds template index true next) : Holds template index false (.group kind body next)
  | carrier {index next : Nat} {kind : GroupKind} {body rest : Pattern}
      (linked : template.Linked index next .anchor) (holds : Holds template next false (.group kind body rest)) :
      Holds template index true (.group kind body rest)

variable {template : Template}

theorem branchOwner_of_group {index parent : Nat} (up : (template.node index).parent = some parent)
    (down : (template.node parent).group = some index) : template.branchOwner index = some parent := by
  rw [branchOwner]
  simp only [up, down, if_true]

theorem branchOwner_of_next {index parent : Nat} (up : (template.node index).parent = some parent)
    (aside : (template.node parent).group ≠ some index) (forward : parent < index) :
    template.branchOwner index = template.branchOwner parent := by
  rw [branchOwner]
  simp only [up, aside, forward, if_true, if_false]

def Stores (template : Template) (index : Nat) (nodes : List Node) : Prop :=
  nodes <+: template.nodes.toList.drop index

namespace Stores

variable {index : Nat} {first : Node} {more front back : List Node}

theorem node_eq (stores : template.Stores index (first :: more)) :
    template.node index = first ∧ index < template.nodes.size := by
  obtain ⟨after, whole⟩ := stores
  have found : template.nodes.toList[index]? = some first := by
    rw [← List.head?_drop, ← whole]
    rfl
  rw [Array.getElem?_toList] at found
  exact ⟨by simp [node, found], (Array.getElem?_eq_some_iff.mp found).1⟩

theorem tail (stores : template.Stores index (first :: more)) : template.Stores (index + 1) more := by
  obtain ⟨after, whole⟩ := stores
  refine ⟨after, ?_⟩
  rw [← List.tail_drop, ← whole]
  rfl

theorem left (stores : template.Stores index (front ++ back)) : template.Stores index front :=
  (List.prefix_append front back).trans stores

theorem right (stores : template.Stores index (front ++ back)) :
    template.Stores (index + front.length) back := by
  induction front generalizing index with
  | nil => exact stores
  | cons first more step =>
    have moved := step stores.tail
    rwa [Nat.add_right_comm, Nat.add_assoc, ← List.length_cons] at moved

end Stores

end Template

namespace Pattern

def followers (follower index : Nat) : Pattern → List Node
  | done => []
  | item head rest => rest.layout follower (.item head) (some index)
  | group kind body rest => (group kind body rest).layout follower .anchor (some index)

theorem layout_group (index : Nat) (kind : NodeKind) (parent : Option Nat) (mark : GroupKind)
    (body next : Pattern) :
    (group mark body next).layout index kind parent =
      let inner := body.layout (index + 1) .anchor (some index)
      let follower := index + 1 + inner.length
      let outer := next.followers follower index
      ⟨kind, parent, if outer.isEmpty then none else some follower, some (index + 1), mark = .repeatable⟩ ::
        (inner ++ outer) := by
  cases next <;> rw [layout] <;> rfl

theorem layout_eq_cons (pattern : Pattern) (index : Nat) (kind : NodeKind) (parent : Option Nat) :
    ∃ first more, pattern.layout index kind parent = first :: more ∧ first.kind = kind ∧ first.parent = parent := by
  cases pattern with
  | done => exact ⟨_, _, by rw [layout], rfl, rfl⟩
  | item head next => exact ⟨_, _, by rw [layout], rfl, rfl⟩
  | group mark body next => exact ⟨_, _, layout_group .., rfl, rfl⟩

theorem isEmpty_followers (follower index : Nat) (pattern : Pattern) :
    (pattern.followers follower index).isEmpty = decide (pattern = done) := by
  cases pattern with
  | done => rfl
  | item head rest =>
    obtain ⟨first, more, shape, _⟩ := rest.layout_eq_cons follower (.item head) (some index)
    simp [followers, shape]
  | group mark body rest =>
    obtain ⟨first, more, shape, _⟩ := (group mark body rest).layout_eq_cons follower .anchor (some index)
    simp [followers, shape]

end Pattern

namespace Template

variable {template : Template} {index : Nat} {pattern : Pattern}

theorem linked_of_stores {next : Nat} {kind : NodeKind} (link : (template.node index).next = some next)
    (aside : (template.node index).group ≠ some next) (forward : index < next)
    (stores : template.Stores next (pattern.layout next kind (some index))) :
    template.Linked index next kind := by
  obtain ⟨first, more, shape, kind_eq, up⟩ := pattern.layout_eq_cons next kind (some index)
  rw [shape] at stores
  obtain ⟨rfl, inside⟩ := stores.node_eq
  exact ⟨link, kind_eq, forward, inside, branchOwner_of_next up aside forward⟩

theorem carries_of_stores {head : Nat} {kind : GroupKind} (link : (template.node index).group = some head)
    (flag : (template.node index).repeatable = decide (kind = .repeatable)) (forward : index < head)
    (stores : template.Stores head (pattern.layout head .anchor (some index))) :
    template.Carries index head kind := by
  obtain ⟨first, more, shape, kind_eq, up⟩ := pattern.layout_eq_cons head .anchor (some index)
  rw [shape] at stores
  obtain ⟨rfl, inside⟩ := stores.node_eq
  exact ⟨link, kind_eq, flag, forward, inside, branchOwner_of_group up link⟩

-- Both statements are proved at once: a group passes from a node that is new to one whose group is spent.
theorem holds_of_stores (template : Template) (pattern : Pattern) :
    (∀ {index : Nat} {kind : NodeKind} {parent : Option Nat},
      template.Stores index (pattern.layout index kind parent) → template.Holds index false pattern) ∧
    ∀ {index follower : Nat},
      (template.node index).next = (if (pattern.followers follower index).isEmpty then none else some follower) →
      (template.node index).group ≠ some follower → index < follower →
      template.Stores follower (pattern.followers follower index) → template.Holds index true pattern := by
  induction pattern with
  | done =>
    constructor
    · intro index kind parent stores
      rw [Pattern.layout] at stores
      obtain ⟨shape, _⟩ := stores.node_eq
      exact .done (.inr (by rw [shape])) (by rw [shape])
    · intro index follower link _ _ _
      exact .done (.inl rfl) (by simpa [Pattern.followers] using link)
  | item head next step =>
    constructor
    · intro index kind parent stores
      rw [Pattern.layout] at stores
      obtain ⟨shape, _⟩ := stores.node_eq
      have linked : template.Linked index (index + 1) (.item head) :=
        linked_of_stores (by rw [shape]) (by simp [shape]) (Nat.lt_succ_self index) stores.tail
      exact .item (.inr (by rw [shape])) linked (step.1 stores.tail)
    · intro index follower link aside forward stores
      simp only [Pattern.isEmpty_followers, reduceCtorEq, decide_false, Bool.false_eq_true, if_false] at link
      exact .item (.inl rfl) (linked_of_stores link aside forward stores) (step.1 stores)
  | group mark body next bodyStep step =>
    have fresh {index : Nat} {kind : NodeKind} {parent : Option Nat}
        (stores : template.Stores index ((Pattern.group mark body next).layout index kind parent)) :
        template.Holds index false (.group mark body next) := by
      rw [Pattern.layout_group] at stores
      obtain ⟨shape, _⟩ := stores.node_eq
      have inner := stores.tail.left
      have carries : template.Carries index (index + 1) mark :=
        carries_of_stores (by rw [shape]) (by rw [shape]) (Nat.lt_succ_self index) inner
      refine .group carries (bodyStep.1 inner) (step.2 (by rw [shape]) ?_ ?_ stores.tail.right)
      · obtain ⟨_, _, filled, _⟩ := body.layout_eq_cons (index + 1) .anchor (some index)
        simp [shape, filled]
      · omega
    refine ⟨fresh, ?_⟩
    intro index follower link aside forward stores
    simp only [Pattern.isEmpty_followers, reduceCtorEq, decide_false, Bool.false_eq_true, if_false] at link
    exact .carrier (linked_of_stores link aside forward stores) (fresh stores)

theorem stores_ofPattern (name source : Text) (pattern : Pattern) :
    (ofPattern name source pattern).Stores root (pattern.layout root .anchor none) := by
  simp [Stores, ofPattern, root]

theorem holds_ofPattern (name source : Text) (pattern : Pattern) :
    (ofPattern name source pattern).Holds root false pattern :=
  (holds_of_stores _ pattern).1 (stores_ofPattern name source pattern)

theorem literals?_of_holds (holds : Holds template index false pattern) :
    pattern.literals? = if (template.node index).group = none then pattern.tail? else none := by
  cases holds with
  | done free last => simp [free.resolve_left, Pattern.literals?, Pattern.tail?]
  | item free linked holds => simp [free.resolve_left, Pattern.tail?]
  | group carries inner holds => simp [carries.link, Pattern.literals?]

theorem literalTail_of_holds {spent : Bool} (holds : Holds template index spent pattern) :
    template.literalTail index = if spent then pattern.literals? else pattern.tail? := by
  induction holds with
  | @done index spent free last =>
    rw [literalTail, last]
    cases spent <;> rfl
  | @item index next spent head rest free linked holds step =>
    have same : (if spent then (Pattern.item head rest).literals? else (Pattern.item head rest).tail?) =
        (Pattern.item head rest).literals? := by
      cases spent <;> rfl
    rw [same, literalTail]
    simp only [linked.link, linked.forward, linked.inside, and_self, if_true, linked.kind_eq]
    cases head with
    | literal char =>
      rw [Pattern.literals?, literals?_of_holds holds]
      cases group : (template.node next).group with
      | none => simp [step]
      | some other => simp
    | _ => rfl
  | group carries inner holds innerStep step => exact step
  | carrier linked holds step =>
    rw [literalTail]
    simp [linked.link, linked.kind_eq, Pattern.literals?]

end Template

end LineTemplates
