import LineTemplates.Proofs.Template.Growth
import LineTemplates.Proofs.Template.Reading
import Mathlib.Data.List.Forall2
import Mathlib.Data.List.Nodup

/-! Groups in an arena. The nodes that carry groups, in the order in which they stand, carry the groups of the pattern in
the order in which these begin; with that a compiled template is a tree in which every group has a node of its own. -/

namespace LineTemplates

def Pattern.groups : Pattern → List (GroupKind × Pattern)
  | done => []
  | item _ next => next.groups
  | group kind body next => (kind, body) :: (body.groups ++ next.groups)

namespace Template

open Pattern (Spelling)

def Owns (template : Template) (owner : Nat) (group : GroupKind × Pattern) : Prop :=
  ∃ head, template.Carries owner head group.1 ∧ template.patternFrom head = group.2

def carriers (template : Template) (index count : Nat) : List Nat :=
  (List.range' index count).filter fun owner => (template.node owner).group.isSome

section Carriers

variable {template : Template} {index : Nat}

theorem mem_carriers {count owner : Nat} :
    owner ∈ template.carriers index count ↔
      (index ≤ owner ∧ owner < index + count) ∧ (template.node owner).group ≠ none := by
  rw [carriers, List.mem_filter, List.mem_range'_1, Option.isSome_iff_ne_none]

theorem nodup_carriers (count : Nat) : (template.carriers index count).Nodup :=
  List.Nodup.filter _ List.nodup_range'

theorem carriers_append (first more : Nat) :
    template.carriers index (first + more) = template.carriers index first ++ template.carriers (index + first) more := by
  rw [carriers, ← List.range'_append_1, List.filter_append]
  rfl

theorem carriers_of_free (free : (template.node index).group = none) (count : Nat) :
    template.carriers index (count + 1) = template.carriers (index + 1) count := by
  rw [carriers, List.range'_succ, List.filter_cons_of_neg (by simp [free])]
  rfl

theorem carriers_of_link {head : Nat} (link : (template.node index).group = some head) (count : Nat) :
    template.carriers index (count + 1) = index :: template.carriers (index + 1) count := by
  rw [carriers, List.range'_succ, List.filter_cons_of_pos (by simp [link])]
  rfl

end Carriers

/-- A chain that is laid out for a pattern stands for the pattern again. -/
theorem patternFrom_of_stores {template : Template} {pattern : Pattern} {index : Nat} {parent : Option Nat}
    (stores : template.Stores index (pattern.layout index .anchor parent)) : template.patternFrom index = pattern := by
  obtain ⟨first, more, shape, kind_eq, _⟩ := pattern.layout_eq_cons index .anchor parent
  have holds := (holds_of_stores template pattern).1 stores
  rw [shape] at stores
  rw [(reading_of_holds holds).2 rfl, stores.node_eq.1, kind_eq]
  rfl

-- The second statement is the one for the nodes behind a group, as in the layout.
theorem owns_of_stores (template : Template) (pattern : Pattern) :
    (∀ {index : Nat} {kind : NodeKind} {parent : Option Nat},
      template.Stores index (pattern.layout index kind parent) →
      List.Forall₂ template.Owns (template.carriers index (pattern.layout index kind parent).length) pattern.groups) ∧
    ∀ {index follower : Nat}, template.Stores follower (pattern.followers follower index) →
      List.Forall₂ template.Owns (template.carriers follower (pattern.followers follower index).length)
        pattern.groups := by
  induction pattern with
  | done =>
    constructor
    · intro index kind parent stores
      rw [Pattern.layout] at stores
      obtain ⟨shape, _⟩ := stores.node_eq
      have free : (template.node index).group = none := by rw [shape]
      rw [Pattern.layout, List.length_singleton, carriers_of_free free 0]
      exact .nil
    · intro index follower stores
      exact .nil
  | item head next step =>
    constructor
    · intro index kind parent stores
      rw [Pattern.layout] at stores
      obtain ⟨shape, _⟩ := stores.node_eq
      have free : (template.node index).group = none := by rw [shape]
      rw [Pattern.layout, List.length_cons, carriers_of_free free]
      exact step.1 stores.tail
    · intro index follower stores
      exact step.1 stores
  | group mark body next bodyStep step =>
    -- On a node whose group is taken, an anchor follows and carries this one as a new node does.
    have fresh {index : Nat} {kind : NodeKind} {parent : Option Nat}
        (stores : template.Stores index ((Pattern.group mark body next).layout index kind parent)) :
        List.Forall₂ template.Owns
          (template.carriers index ((Pattern.group mark body next).layout index kind parent).length)
          (Pattern.group mark body next).groups := by
      rw [Pattern.layout_group] at stores
      obtain ⟨shape, _⟩ := stores.node_eq
      have link : (template.node index).group = some (index + 1) := by rw [shape]
      have inner := stores.tail.left
      have carries : template.Carries index (index + 1) mark :=
        carries_of_stores link (by rw [shape]) (Nat.lt_succ_self index) inner
      rw [Pattern.layout_group, List.length_cons, carriers_of_link link, List.length_append, carriers_append]
      apply List.Forall₂.cons
      · exact ⟨index + 1, carries, patternFrom_of_stores inner⟩
      · exact List.rel_append (bodyStep.1 inner) (step.2 stores.tail.right)
    refine ⟨fresh, ?_⟩
    intro index follower stores
    exact fresh stores

/-- A compiled template is a tree. Climbing from any of its nodes ends, at the node that carries the innermost group
around it or, on the root's chain, with nothing; and each group of the source has a node of its own. -/
theorem arena_is_tree {name source : Text} {template : Template} (compiled : compile name source = .ok template) :
    template.Tree ∧ (∀ index < template.nodes.size, template.Reaches root index) ∧
      (∀ index < template.nodes.size, template.Climbs index (template.branchOwner index) ∧
        (template.branchOwner index = none ↔ template.OnChain root index) ∧
        ∀ owner, template.branchOwner index = some owner ↔ template.Encloses owner index ∧
          ∀ other, template.Encloses other index → other = owner ∨ template.Encloses other owner) ∧
      ∃ pattern owners, Spelling pattern source ∧ owners.Nodup ∧
        (∀ index, index ∈ owners ↔ (template.node index).group ≠ none) ∧
        List.Forall₂ template.Owns owners pattern.groups := by
  have tree := tree_of_compile compiled
  obtain ⟨pattern, spelled, rfl⟩ := compile_eq_ok_iff_spelling.mp compiled
  have size : (ofPattern name source pattern).nodes.size = (pattern.layout root .anchor none).length := rfl
  have owns := (owns_of_stores _ pattern).1 (stores_ofPattern name source pattern)
  refine ⟨tree, fun index inside => tree.reaches inside, ?_, pattern, _, spelled, nodup_carriers _, ?_,
    owns⟩
  · intro index inside
    refine ⟨tree.climbs_branchOwner inside, tree.branchOwner_eq_none_iff inside, ?_⟩
    intro owner
    exact tree.branchOwner_eq_some_iff inside
  · intro index
    rw [mem_carriers, ← size]
    constructor
    · exact And.right
    · intro carries
      obtain ⟨head, link⟩ := Option.ne_none_iff_exists'.mp carries
      have inside : index < (ofPattern name source pattern).nodes.size :=
        tree.inside_of_points (show (ofPattern name source pattern).Points .group index head from link)
      refine ⟨⟨Nat.zero_le _, ?_⟩, carries⟩
      rw [root, Nat.zero_add]
      exact inside

theorem arena_of_adjacent_groups :
    let source : Text := ['a', '[', 'b', '<', 'c', '>', ']', '[', 'd', ']']
    let nested : Pattern := .group .repeatable (.item (.literal 'c') .done) .done
    let pattern : Pattern := .item (.literal 'a')
      (.group .optional (.item (.literal 'b') nested) (.group .optional (.item (.literal 'd') .done) .done))
    let template := ofPattern [] source pattern
    compile [] source = .ok template ∧ template.Tree ∧ template.branchOwner 6 = none := by
  intro source nested pattern template
  have inside : Spelling (.item (.literal 'b') nested) ['b', '<', 'c', '>'] :=
    .literal (by decide) (.group (.literal (by decide) .done) .done)
  have spelled : Spelling pattern source :=
    .literal (by decide) (.group inside (.group (.literal (by decide) .done) .done))
  have compiled : compile [] source = .ok template := compile_of_spelling [] spelled
  -- the second group hangs off an anchor of its own, behind the node that carries the first one
  have first : template.Points .next root 1 := rfl
  have second : template.Points .next 1 6 := rfl
  have along : template.OnChain root 6 := .tail (.single first) second
  obtain ⟨tree, _, owners, _⟩ := arena_is_tree compiled
  have bound : 6 < template.nodes.size := show 6 < 9 by decide
  exact ⟨compiled, tree, (owners 6 bound).2.1.mpr along⟩

end Template

end LineTemplates
