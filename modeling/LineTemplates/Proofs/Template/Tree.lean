import LineTemplates.Proofs.Template.Chain
import Mathlib.Logic.Relation

/-! Arenas that are trees. One link points at every node but the root, and it comes from the node's parent. A group
encloses what hangs below its head, and climbing along the parents finds the innermost group around a node. -/

namespace LineTemplates

inductive Link where
  | next
  | group
deriving DecidableEq, Repr

def Node.target? (node : Node) : Link → Option Nat
  | .next => node.next
  | .group => node.group

namespace Template

def Points (template : Template) (link : Link) (index target : Nat) : Prop :=
  (template.node index).target? link = some target

/-- A tree from its root on, whose parents stand before their children. Every group begins at an anchor. -/
structure Tree (template : Template) : Prop where
  root_inside : root < template.nodes.size
  root_kind : (template.node root).kind = .anchor
  root_parent : (template.node root).parent = none
  target : ∀ link index target, template.Points link index target → target ≠ root ∧ target < template.nodes.size
  parent : ∀ index, index ≠ root → index < template.nodes.size → ∃ parent link, parent < index ∧
    (template.node index).parent = some parent ∧
      ∀ other side, template.Points side other index ↔ other = parent ∧ side = link
  head_kind : ∀ index head, template.Points .group index head → (template.node head).kind = .anchor
  plain : ∀ index, (template.node index).group = none → (template.node index).repeatable = false

def Reaches (template : Template) : Nat → Nat → Prop :=
  Relation.ReflTransGen fun index target => ∃ link, template.Points link index target

def OnChain (template : Template) : Nat → Nat → Prop := Relation.ReflTransGen (template.Points .next)

def Encloses (template : Template) (owner index : Nat) : Prop :=
  ∃ head, template.Points .group owner head ∧ template.Reaches head index

/-- Climbing from a node, parent by parent, ends at the node whose group is left at its head, or at the root with
nothing. -/
inductive Climbs (template : Template) : Nat → Option Nat → Prop
  | top {index : Nat} (up : (template.node index).parent = none) : Climbs template index none
  | head {index parent : Nat} (up : (template.node index).parent = some parent)
      (down : template.Points .group parent index) : Climbs template index (some parent)
  | onward {index parent : Nat} {owner : Option Nat} (up : (template.node index).parent = some parent)
      (aside : ¬ template.Points .group parent index) (climbs : Climbs template parent owner) :
      Climbs template index owner

namespace Tree

variable {template : Template} {link side : Link} {index target parent other owner : Nat}

theorem up_of_points (tree : template.Tree) (points : template.Points link index target) :
    index < target ∧ (template.node target).parent = some index := by
  obtain ⟨below, inside⟩ := tree.target link index target points
  obtain ⟨parent, side, before, up, only⟩ := tree.parent target below inside
  obtain ⟨rfl, rfl⟩ := (only index link).mp points
  exact ⟨before, up⟩

theorem inside_of_points (tree : template.Tree) (points : template.Points link index target) :
    index < template.nodes.size :=
  (tree.up_of_points points).1.trans (tree.target link index target points).2

theorem eq_of_points (tree : template.Tree) (first : template.Points link index target)
    (second : template.Points side other target) : other = index ∧ side = link := by
  obtain ⟨below, inside⟩ := tree.target link index target first
  obtain ⟨parent, down, before, up, only⟩ := tree.parent target below inside
  obtain ⟨rfl, rfl⟩ := (only index link).mp first
  exact (only other side).mp second

theorem points_of_parent (tree : template.Tree) (up : (template.node index).parent = some parent) :
    ∃ link, template.Points link parent index := by
  have below : index ≠ root := by
    rintro rfl
    rw [tree.root_parent] at up
    cases up
  have inside : index < template.nodes.size := by
    by_contra outside
    simp [node, outside, default] at up
  obtain ⟨other, link, before, same, only⟩ := tree.parent index below inside
  obtain rfl := Option.some.inj (same.symm.trans up)
  exact ⟨link, (only other link).mpr ⟨rfl, rfl⟩⟩

theorem induct (tree : template.Tree) {motive : Nat → Prop} (top : motive root)
    (step : ∀ link parent index, template.Points link parent index → motive parent → motive index) :
    ∀ index < template.nodes.size, motive index := by
  intro index
  induction index using Nat.strong_induction_on with
  | _ index again =>
    intro inside
    by_cases first : index = root
    · rw [first]
      exact top
    · obtain ⟨parent, link, before, up, only⟩ := tree.parent index first inside
      apply step link parent index ((only parent link).mpr ⟨rfl, rfl⟩)
      exact again parent before (before.trans inside)

theorem reaches (tree : template.Tree) (inside : index < template.nodes.size) : template.Reaches root index := by
  apply tree.induct _ _ index inside
  · exact .refl
  · intro link parent index points below
    exact below.tail ⟨link, points⟩

section Owners

theorem branchOwner_root (tree : template.Tree) : template.branchOwner root = none := by
  rw [branchOwner, tree.root_parent]

theorem branchOwner_head (tree : template.Tree) (points : template.Points .group parent index) :
    template.branchOwner index = some parent :=
  branchOwner_of_group (tree.up_of_points points).2 points

theorem not_group_of_next (tree : template.Tree) (points : template.Points .next parent index) :
    ¬ template.Points .group parent index := by
  intro down
  cases (tree.eq_of_points points down).2

theorem branchOwner_follower (tree : template.Tree) (points : template.Points .next parent index) :
    template.branchOwner index = template.branchOwner parent := by
  obtain ⟨before, up⟩ := tree.up_of_points points
  exact branchOwner_of_next up (tree.not_group_of_next points) before

/-- Climbing comes to an end from every node, and the owner found is what it ends with. -/
theorem climbs_branchOwner (tree : template.Tree) (inside : index < template.nodes.size) :
    template.Climbs index (template.branchOwner index) := by
  apply tree.induct _ _ index inside
  · rw [tree.branchOwner_root]
    exact .top tree.root_parent
  · intro link parent index points climbs
    have up := (tree.up_of_points points).2
    cases link with
    | next =>
      rw [tree.branchOwner_follower points]
      exact .onward up (tree.not_group_of_next points) climbs
    | group =>
      rw [tree.branchOwner_head points]
      exact .head up points

theorem branchOwner_eq_none_iff (tree : template.Tree) (inside : index < template.nodes.size) :
    template.branchOwner index = none ↔ template.OnChain root index := by
  constructor
  · apply tree.induct _ _ index inside
    · intro _
      exact .refl
    · intro link parent index points along free
      cases link with
      | next =>
        rw [tree.branchOwner_follower points] at free
        exact (along free).tail points
      | group =>
        rw [tree.branchOwner_head points] at free
        cases free
  · intro along
    clear inside
    induction along with
    | refl => exact tree.branchOwner_root
    | tail _ points free => exact (tree.branchOwner_follower points).trans free

/-- Along a link the groups around a node are those around its parent, and one more if the link leads into it. -/
theorem encloses_target (tree : template.Tree) (points : template.Points link parent index) :
    template.Encloses owner index ↔ (link = .group ∧ owner = parent) ∨ template.Encloses owner parent := by
  constructor
  · rintro ⟨head, down, below⟩
    rcases below.cases_tail with rfl | ⟨middle, above, side, last⟩
    · obtain ⟨rfl, rfl⟩ := tree.eq_of_points points down
      exact .inl ⟨rfl, rfl⟩
    · obtain ⟨rfl, rfl⟩ := tree.eq_of_points points last
      exact .inr ⟨head, down, above⟩
  · rintro (⟨rfl, rfl⟩ | ⟨head, down, above⟩)
    · exact ⟨index, points, .refl⟩
    · exact ⟨head, down, above.tail ⟨link, points⟩⟩

theorem not_encloses_root (tree : template.Tree) : ¬ template.Encloses owner root := by
  rintro ⟨head, down, below⟩
  rcases below.cases_tail with rfl | ⟨middle, above, link, last⟩
  · exact (tree.target .group owner root down).1 rfl
  · exact (tree.target link middle root last).1 rfl

/-- The groups around a node are the one of its owner and those around the owner. -/
theorem encloses_iff (tree : template.Tree) (inside : index < template.nodes.size) :
    template.Encloses owner index ↔
      ∃ inner, template.branchOwner index = some inner ∧ (owner = inner ∨ template.Encloses owner inner) := by
  apply tree.induct _ _ index inside
  · simp [tree.branchOwner_root, tree.not_encloses_root]
  · intro link parent index points step
    rw [tree.encloses_target points]
    cases link with
    | next => simpa [tree.branchOwner_follower points] using step
    | group => simp [tree.branchOwner_head points]

theorem lt_of_encloses (tree : template.Tree) (encloses : template.Encloses owner index) : owner < index := by
  obtain ⟨head, down, below⟩ := encloses
  have first := (tree.up_of_points down).1
  induction below with
  | refl => exact first
  | tail _ last before =>
    obtain ⟨link, points⟩ := last
    exact before.trans (tree.up_of_points points).1

theorem encloses_of_branchOwner (tree : template.Tree) (inside : index < template.nodes.size)
    (owned : template.branchOwner index = some owner) : template.Encloses owner index :=
  (tree.encloses_iff inside).mpr ⟨owner, owned, .inl rfl⟩

theorem branchOwner_eq_some_iff (tree : template.Tree) (inside : index < template.nodes.size) :
    template.branchOwner index = some owner ↔ template.Encloses owner index ∧
      ∀ other, template.Encloses other index → other = owner ∨ template.Encloses other owner := by
  constructor
  · intro owned
    refine ⟨tree.encloses_of_branchOwner inside owned, ?_⟩
    intro other around
    obtain ⟨inner, same, outer⟩ := (tree.encloses_iff inside).mp around
    obtain rfl := Option.some.inj (owned.symm.trans same)
    exact outer
  · rintro ⟨around, innermost⟩
    obtain ⟨inner, owned, outer⟩ := (tree.encloses_iff inside).mp around
    rcases outer with rfl | outer
    · exact owned
    -- otherwise each of the two nodes would stand before the other
    · have before := tree.lt_of_encloses outer
      rcases innermost inner (tree.encloses_of_branchOwner inside owned) with rfl | within
      · exact owned
      · have after := tree.lt_of_encloses within
        omega

end Owners

end Tree

end Template

end LineTemplates
