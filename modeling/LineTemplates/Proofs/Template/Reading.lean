import LineTemplates.Proofs.Pattern.Spelling
import LineTemplates.Proofs.Template.Drafting

/-! Reading templates back. The nodes of an arena stand for a pattern, and for a compiled template that is the
pattern its source spells; a source that spells none does not compile. -/

namespace LineTemplates

def NodeKind.onto : NodeKind → Pattern → Pattern
  | .anchor, pattern => pattern
  | .item content, pattern => .item content pattern

namespace Template

/-- The pattern that the nodes from the given one on stand for: the node's own item, then the group that hangs off
it, then the nodes that follow it. -/
def patternFrom (template : Template) (index : Nat) : Pattern :=
  let node := template.node index
  let following := match node.next with
    | some next => if index < next ∧ next < template.nodes.size then patternFrom template next else .done
    | none => .done
  let grouped := match node.group with
    | some head =>
      if index < head ∧ head < template.nodes.size then
        .group (if node.repeatable then .repeatable else .optional) (patternFrom template head) following
      else following
    | none => following
  node.kind.onto grouped
termination_by template.nodes.size - index

def pattern (template : Template) : Pattern := template.patternFrom root

def following (template : Template) (index : Nat) : Pattern :=
  match (template.node index).next with
  | some next => if index < next ∧ next < template.nodes.size then template.patternFrom next else .done
  | none => .done

section Nodes

variable {template : Template} {index : Nat}

theorem patternFrom_of_free (free : (template.node index).group = none) :
    template.patternFrom index = (template.node index).kind.onto (template.following index) := by
  rw [patternFrom]
  simp only [free]
  rfl

theorem patternFrom_of_carries {head : Nat} {kind : GroupKind} (carries : template.Carries index head kind) :
    template.patternFrom index =
      (template.node index).kind.onto (.group kind (template.patternFrom head) (template.following index)) := by
  have flag : (if (template.node index).repeatable then GroupKind.repeatable else .optional) = kind := by
    rw [carries.repeatable_eq]
    cases kind <;> rfl
  rw [patternFrom]
  simp only [carries.link, carries.forward, carries.inside, and_self, if_true, flag]
  rfl

theorem following_of_linked {next : Nat} {kind : NodeKind} (linked : template.Linked index next kind) :
    template.following index = template.patternFrom next := by
  simp only [following, linked.link, linked.forward, linked.inside, and_self, if_true]

/-- Reading gives back what a chain holds. -/
theorem reading_of_holds {spent : Bool} {pattern : Pattern} (holds : template.Holds index spent pattern) :
    (spent = true → template.following index = pattern) ∧
      (spent = false → template.patternFrom index = (template.node index).kind.onto pattern) := by
  induction holds with
  | @done index spent free last =>
    have nothing : template.following index = .done := by rw [following, last]
    refine ⟨fun _ => nothing, fun unspent => ?_⟩
    rw [patternFrom_of_free (free.resolve_left (by simp [unspent])), nothing]
  | @item index next spent head rest free linked holds step =>
    have moved : template.following index = .item head rest := by
      rw [following_of_linked linked, step.2 rfl, linked.kind_eq]
      rfl
    refine ⟨fun _ => moved, fun unspent => ?_⟩
    rw [patternFrom_of_free (free.resolve_left (by simp [unspent])), moved]
  | group carries inner holds innerStep step =>
    refine ⟨nofun, fun _ => ?_⟩
    rw [patternFrom_of_carries carries, innerStep.2 rfl, carries.kind_eq, step.1 rfl]
    rfl
  | carrier linked holds step =>
    refine ⟨fun _ => ?_, nofun⟩
    rw [following_of_linked linked, step.2 rfl, linked.kind_eq]
    rfl

end Nodes

theorem pattern_ofPattern (name source : Text) (pattern : Pattern) :
    (ofPattern name source pattern).pattern = pattern := by
  have top : ((ofPattern name source pattern).node root).kind = .anchor := by
    have stores := stores_ofPattern name source pattern
    obtain ⟨first, more, shape, kind_eq, _⟩ := pattern.layout_eq_cons root .anchor none
    rw [shape] at stores
    rw [stores.node_eq.1, kind_eq]
  rw [Template.pattern, (reading_of_holds (holds_ofPattern name source pattern)).2 rfl, top]
  rfl

/-- A source compiles just if it spells a pattern, and the nodes of its template stand for the pattern it spells. -/
theorem compiles_iff_spelled (name source : Text) :
    ((∃ template, compile name source = .ok template) ↔ ∃ pattern, Pattern.Spelling pattern source) ∧
      ∀ pattern, Pattern.Spelling pattern source ↔
        ∃ template, compile name source = .ok template ∧ template.pattern = pattern := by
  have denotes (pattern : Pattern) : Pattern.Spelling pattern source ↔
      ∃ template, compile name source = .ok template ∧ template.pattern = pattern := by
    rw [← Pattern.parse_eq_ok_iff]
    constructor
    · intro parsed
      exact ⟨_, compile_eq_ok_iff.mpr ⟨pattern, parsed, rfl⟩, pattern_ofPattern name source pattern⟩
    · rintro ⟨template, compiled, rfl⟩
      obtain ⟨pattern, parsed, rfl⟩ := compile_eq_ok_iff.mp compiled
      rwa [pattern_ofPattern]
  refine ⟨⟨?_, ?_⟩, denotes⟩
  · rintro ⟨template, compiled⟩
    exact ⟨_, (denotes _).mpr ⟨template, compiled, rfl⟩⟩
  · rintro ⟨pattern, spelled⟩
    obtain ⟨template, compiled, _⟩ := (denotes pattern).mp spelled
    exact ⟨template, compiled⟩

end Template

end LineTemplates
