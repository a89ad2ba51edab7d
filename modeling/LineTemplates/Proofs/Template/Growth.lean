import LineTemplates.Proofs.Template.Drafting
import LineTemplates.Proofs.Template.Tree

/-! Drafts grow as trees. A node is added below the current one by a link that was free until then, and no link is ever
changed again: the current node and the nodes that carry the open groups are the ends of their chains. -/

namespace LineTemplates

open Template

namespace Draft

section Grow

variable {draft : Draft} {kind : NodeKind} {change : Node → Node} {link : Link}

theorem sound_of_tree (tree : draft.template.Tree) (inside : draft.current < draft.template.nodes.size) :
    draft.Sound := by
  refine ⟨inside, ?_⟩
  intro index head down
  exact (tree.target .group index head down).2

structure Hangs (draft : Draft) (link : Link) (change : Node → Node) : Prop where
  kind_eq : ∀ node, (change node).kind = node.kind
  parent_eq : ∀ node, (change node).parent = node.parent
  target_iff : ∀ side target, (change (draft.template.node draft.current)).target? side = some target ↔
    (draft.template.node draft.current).target? side = some target ∨ side = link ∧ target = draft.template.nodes.size
  plain : (change (draft.template.node draft.current)).group = none →
    (change (draft.template.node draft.current)).repeatable = false

theorem target?_bare (kind : NodeKind) (parent : Option Nat) (side : Link) : (Node.bare kind parent).target? side = none := by
  cases side <;> rfl

theorem not_points_size (draft : Draft) (side : Link) (target : Nat) :
    ¬ draft.template.Points side draft.template.nodes.size target := by
  unfold Points
  rw [node_size]
  cases side <;> nofun

theorem points_grow (sound : draft.Sound) (hangs : draft.Hangs link change) {side : Link} {index target : Nat} :
    (draft.grow kind change).template.Points side index target ↔ draft.template.Points side index target ∨
      side = link ∧ index = draft.current ∧ target = draft.template.nodes.size := by
  have inside := sound.inside
  by_cases added : index = draft.template.nodes.size
  · have old := not_points_size draft side target
    rw [added]
    simp only [Points, node_grow sound, if_true, target?_bare, reduceCtorEq, false_iff, not_or]
    refine ⟨old, ?_⟩
    omega
  · unfold Points
    rw [node_grow sound, if_neg added]
    by_cases here : index = draft.current
    · rw [if_pos here, here, hangs.target_iff]
      simp
    · simp [here]

theorem field_grow {α : Type} (sound : draft.Sound) {field : Node → α} (kept : ∀ node, field (change node) = field node)
    {index : Nat} (old : index < draft.template.nodes.size) :
    field ((draft.grow kind change).template.node index) = field (draft.template.node index) := by
  rw [node_grow sound, if_neg old.ne]
  split
  · exact kept _
  · rfl

/-- A tree with one more node below a free link is a tree. -/
theorem tree_grow (tree : draft.template.Tree) (inside : draft.current < draft.template.nodes.size)
    (hangs : draft.Hangs link change) (anchored : link = .group → kind = .anchor) :
    (draft.grow kind change).template.Tree := by
  have sound := sound_of_tree tree inside
  have added : (draft.grow kind change).template.node draft.template.nodes.size = .bare kind draft.current := by
    rw [node_grow sound, if_pos rfl]
  constructor
  case root_inside =>
    rw [size_grow]
    exact Nat.lt_succ_of_lt tree.root_inside
  case root_kind => exact (field_grow sound hangs.kind_eq tree.root_inside).trans tree.root_kind
  case root_parent => exact (field_grow sound hangs.parent_eq tree.root_inside).trans tree.root_parent
  case target =>
    intro side index target points
    have filled := tree.root_inside
    rw [size_grow]
    rcases (points_grow sound hangs).mp points with old | ⟨_, _, rfl⟩
    · have below := tree.target side index target old
      omega
    · omega
  case parent =>
    intro index below bound
    rw [size_grow] at bound
    by_cases new : index = draft.template.nodes.size
    · -- No link but the one that has been added leads to the new node.
      subst new
      refine ⟨draft.current, link, inside, congrArg Node.parent added, ?_⟩
      intro other side
      rw [points_grow sound hangs]
      constructor
      · rintro (old | ⟨same, here, _⟩)
        · exact absurd (tree.target side other _ old).2 (Nat.lt_irrefl _)
        · exact ⟨here, same⟩
      · rintro ⟨here, same⟩
        exact .inr ⟨same, here, rfl⟩
    · have old : index < draft.template.nodes.size := by omega
      obtain ⟨parent, down, before, up, only⟩ := tree.parent index below old
      refine ⟨parent, down, before, (field_grow sound hangs.parent_eq old).trans up, ?_⟩
      intro other side
      rw [points_grow sound hangs, ← only other side]
      simp [new]
  case head_kind =>
    intro index head points
    rcases (points_grow sound hangs).mp points with old | ⟨same, _, rfl⟩
    · have bound := (tree.target .group index head old).2
      exact (field_grow sound hangs.kind_eq bound).trans (tree.head_kind index head old)
    · rw [added]
      exact anchored same.symm
  case plain =>
    intro index free
    rw [node_grow sound] at free ⊢
    split
    · rfl
    · rename_i old
      rw [if_neg old] at free
      split
      · rename_i here
        rw [if_pos here] at free
        subst here
        exact hangs.plain free
      · rename_i elsewhere
        rw [if_neg elsewhere] at free
        exact tree.plain index free

theorem tree_follow (tree : draft.template.Tree) (inside : draft.current < draft.template.nodes.size)
    (last : (draft.template.node draft.current).next = none) (kind : NodeKind) :
    (draft.follow kind).template.Tree := by
  have hangs : draft.Hangs .next ({ · with next := some draft.template.nodes.size }) := by
    constructor
    case kind_eq => exact fun _ => rfl
    case parent_eq => exact fun _ => rfl
    case target_iff =>
      intro side target
      cases side <;> simp [Node.target?, last, eq_comm]
    case plain => exact tree.plain draft.current
  exact tree_grow tree inside hangs nofun

theorem tree_enter (tree : draft.template.Tree) (inside : draft.current < draft.template.nodes.size)
    (free : draft.Free) (kind : GroupKind) : (draft.enter kind).template.Tree := by
  have bare : (draft.template.node draft.current).group = none := free
  have hangs : draft.Hangs .group
      ({ · with group := some draft.template.nodes.size, repeatable := kind = .repeatable }) := by
    constructor
    case kind_eq => exact fun _ => rfl
    case parent_eq => exact fun _ => rfl
    case target_iff =>
      intro side target
      cases side <;> simp [Node.target?, bare, eq_comm]
    case plain => nofun
  exact tree_grow tree inside hangs fun _ => rfl

end Grow

/-- A draft that is a tree so far. Its current node and the nodes that carry the open groups, the innermost first, have
no followers yet. -/
structure Growing (draft : Draft) (opened : List OpenGroup) (owners : List Nat) : Prop where
  tree : draft.template.Tree
  within : Within draft.template draft.current opened owners
  last : ∀ index ∈ draft.current :: owners, (draft.template.node index).next = none

namespace Growing

variable {draft : Draft} {opened : List OpenGroup} {owners : List Nat}

theorem sound (growing : Growing draft opened owners) : draft.Sound := sound_of_tree growing.tree growing.within.inside

theorem owner_lt {template : Template} {index : Nat} (tree : template.Tree) (within : Within template index opened owners) :
    ∀ owner ∈ owners, owner < index := by
  induction within with
  | outermost => nofun
  | inner inside owned link below flag outer step =>
    have before := tree.lt_of_encloses (tree.encloses_of_branchOwner inside owned)
    refine List.forall_mem_cons.mpr ⟨before, ?_⟩
    intro owner around
    exact (step owner around).trans before

theorem follow (growing : Growing draft opened owners) (kind : NodeKind) : Growing (draft.follow kind) opened owners := by
  have sound := growing.sound
  have ends := List.forall_mem_cons.mp growing.last
  refine ⟨tree_follow growing.tree sound.inside ends.1 kind, growing.within.follow sound kind, ?_⟩
  refine List.forall_mem_cons.mpr ⟨?_, ?_⟩
  · rw [Draft.follow, node_grow sound]
    exact congrArg Node.next (if_pos rfl)
  · intro owner around
    have before := owner_lt growing.tree growing.within owner around
    have inside := sound.inside
    rw [Draft.follow, node_grow sound, if_neg (by omega), if_neg (by omega)]
    exact ends.2 owner around

theorem carrier (growing : Growing draft opened owners) : Growing draft.carrier opened owners := by
  unfold Draft.carrier
  split
  · exact growing.follow .anchor
  · exact growing

theorem enter (growing : Growing draft opened owners) (free : draft.Free) (kind : GroupKind) (offset : Nat) :
    Growing (draft.enter kind) (⟨kind, offset⟩ :: opened) (draft.current :: owners) := by
  have sound := growing.sound
  refine ⟨tree_enter growing.tree sound.inside free kind, growing.within.enter sound free kind offset, ?_⟩
  have unchanged (index : Nat) (ends : (draft.template.node index).next = none) :
      ((draft.enter kind).template.node index).next = none := by
    rw [Draft.enter, node_grow sound]
    split
    · rfl
    · split
      · exact ends
      · exact ends
  refine List.forall_mem_cons.mpr ⟨unchanged draft.template.nodes.size ?_, ?_⟩
  · rw [node_size]
    rfl
  · intro index around
    exact unchanged index (growing.last index around)

theorem leave {group : OpenGroup} {owner : Nat} (growing : Growing draft (group :: opened) (owner :: owners)) :
    draft.template.branchOwner draft.current = some owner ∧ Growing ⟨draft.template, owner⟩ opened owners := by
  cases growing.within with
  | inner inside owned link below flag outer =>
    refine ⟨owned, growing.tree, outer, ?_⟩
    intro index around
    exact growing.last index (List.mem_cons_of_mem _ around)

/-- Whatever lexemes are read, a draft that comes out is a tree. -/
theorem tree_of_build {lexemes : Lexemes} {places : List Nat} {final : Draft} (growing : Growing draft opened owners)
    (built : draft.build places lexemes = .ok final) : final.template.Tree := by
  induction lexemes generalizing draft opened owners places with
  | done =>
    cases places with
    | nil =>
      cases built
      exact growing.tree
    | cons newest outer => cases built
  | malformed fault span => cases built
  | lexeme offset head next step =>
    cases head with
    | item content => exact step (growing.follow (.item content)) built
    | opener kind => exact step (growing.carrier.enter (free_carrier growing.sound) kind offset) built
    | closer kind =>
      rw [build] at built
      cases opened with
      | nil =>
        cases growing.within with
        | outermost inside free =>
          rw [free] at built
          cases built
      | cons group opened =>
        cases owners with
        | nil => cases growing.within
        | cons owner owners =>
          obtain ⟨owned, left⟩ := growing.leave
          rw [owned] at built
          dsimp only at built
          split at built
          · exact step left built
          · cases built

theorem start (name source : Text) : Growing (Draft.start name source) [] [] := by
  have node_eq (index : Nat) : ((Draft.start name source).template.node index) = .bare .anchor none := by
    cases index <;> rfl
  have noLinks (link : Link) (index target : Nat) : ¬ (Draft.start name source).template.Points link index target := by
    unfold Points
    rw [node_eq, target?_bare]
    nofun
  refine ⟨?_, within_start name source, ?_⟩
  · constructor
    case root_inside => exact Nat.one_pos
    case root_kind => rfl
    case root_parent => rfl
    case target =>
      intro link index target points
      exact absurd points (noLinks link index target)
    case parent =>
      intro index below bound
      have first : index < 1 := bound
      exact absurd (Nat.lt_one_iff.mp first) below
    case head_kind =>
      intro index head points
      exact absurd points (noLinks .group index head)
    case plain =>
      intro index _
      rw [node_eq]
      rfl
  · intro index _
    rw [node_eq]
    rfl

end Growing

end Draft

namespace Template

theorem tree_of_compile {name source : Text} {template : Template} (compiled : compile name source = .ok template) :
    template.Tree := by
  unfold compile at compiled
  split at compiled
  · rename_i final built
    cases compiled
    exact (Draft.Growing.start name source).tree_of_build built
  · cases compiled

end Template

end LineTemplates
