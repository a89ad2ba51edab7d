import LineTemplates.Proofs.Template.Reading

/-! Sources read off templates. The nodes of a compiled template, their kinds, their links and their flags, stand for one
pattern, and the pattern has one spelling: two sources with the same nodes are the same text. -/

namespace LineTemplates

namespace Template

/-- Two templates with nodes of the same kinds, linked and flagged in the same way. Names and sources are left aside, and
so is the way up from a node. -/
structure SameTree (template other : Template) : Prop where
  size_eq : template.nodes.size = other.nodes.size
  kind_eq : ∀ index, (template.node index).kind = (other.node index).kind
  next_eq : ∀ index, (template.node index).next = (other.node index).next
  group_eq : ∀ index, (template.node index).group = (other.node index).group
  repeatable_eq : ∀ index, (template.node index).repeatable = (other.node index).repeatable

section Sources

variable {template other : Template}

theorem patternFrom_eq (template : Template) (index : Nat) :
    template.patternFrom index = (template.node index).kind.onto (match (template.node index).group with
      | some head =>
        if index < head ∧ head < template.nodes.size then
          .group (if (template.node index).repeatable then .repeatable else .optional) (template.patternFrom head)
            (template.following index)
        else template.following index
      | none => template.following index) := by
  rw [patternFrom]
  rfl

/-- What the nodes stand for is read off their kinds, links and flags. -/
theorem patternFrom_congr (same : SameTree template other) (index : Nat) :
    template.patternFrom index = other.patternFrom index := by
  induction index using patternFrom.induct template with
  | case1 index step =>
    rw [same.size_eq] at step
    have followed : template.following index = other.following index := by
      rw [following, following, same.next_eq, same.size_eq]
      split
      · split
        · exact step _ ‹_›
        · rfl
      · rfl
    rw [patternFrom_eq, patternFrom_eq, same.kind_eq, same.group_eq, same.repeatable_eq, same.size_eq, followed]
    split
    · split
      · rw [step _ ‹_›]
      · rfl
    · rfl

/-- Printing what the nodes of a compiled template stand for gives back its source. -/
theorem print_pattern {name source : Text} (compiled : compile name source = .ok template) :
    template.pattern.print = source := by
  obtain ⟨pattern, spelled, rfl⟩ := compile_eq_ok_iff_spelling.mp compiled
  rw [pattern_ofPattern]
  exact spelled.print_eq

/-- Two sources, under whatever names, compile to the same tree just if they are the same text. -/
theorem sameTree_iff_source_eq {firstName secondName first second : Text}
    (compiled : compile firstName first = .ok template) (otherCompiled : compile secondName second = .ok other) :
    SameTree template other ↔ first = second := by
  constructor
  · intro same
    calc first
        = template.pattern.print := (print_pattern compiled).symm
      _ = other.pattern.print := congrArg Pattern.print (patternFrom_congr same root)
      _ = second := print_pattern otherCompiled
  · rintro rfl
    obtain ⟨pattern, spelled, rfl⟩ := compile_eq_ok_iff_spelling.mp compiled
    obtain rfl := Except.ok.inj (otherCompiled.symm.trans (compile_of_spelling secondName spelled))
    exact ⟨rfl, fun _ => rfl, fun _ => rfl, fun _ => rfl, fun _ => rfl⟩

theorem sameTree_iff_source_eq_of_empty_groups :
    let shape (kind : GroupKind) : Pattern :=
      .group .optional .done (.group kind (.item (.inject ['a']) .done) (.item (.literal '$') .done))
    let source : Text := ['[', ']', '<', '$', 'a', 'r', 'g', '(', 'a', ')', '>', '$', 'd', 'o', 'l', 'l', 'a', 'r']
    let other : Text := ['[', ']', '[', '$', 'a', 'r', 'g', '(', 'a', ')', ']', '$', 'd', 'o', 'l', 'l', 'a', 'r']
    let template (name : Text) := ofPattern name source (shape .repeatable)
    let neighbour := ofPattern ['n'] other (shape .optional)
    compile ['s'] source = .ok (template ['s']) ∧ compile ['t'] source = .ok (template ['t']) ∧
      compile ['n'] other = .ok neighbour ∧ SameTree (template ['s']) (template ['t']) ∧
      ¬ SameTree (template ['s']) neighbour := by
  intro shape source other template neighbour
  have spelled (kind : GroupKind) : Pattern.Spelling (shape kind) (['[', ']'] ++ kind.opener ::
      ['$', 'a', 'r', 'g', '(', 'a', ')'] ++ kind.closer :: ['$', 'd', 'o', 'l', 'l', 'a', 'r']) :=
    .group .done (.group (.constant (by decide) (by decide) .done) (.placeholder .dollar nofun .done))
  have compiled (name : Text) : compile name source = .ok (template name) :=
    compile_of_spelling name (spelled .repeatable)
  have otherCompiled : compile ['n'] other = .ok neighbour := compile_of_spelling ['n'] (spelled .optional)
  refine ⟨compiled ['s'], compiled ['t'], otherCompiled, ?_, ?_⟩
  · exact (sameTree_iff_source_eq (compiled ['s']) (compiled ['t'])).mpr rfl
  · rw [sameTree_iff_source_eq (compiled ['s']) otherCompiled]
    decide

end Sources

end Template

end LineTemplates
