import LineTemplates.Proofs.Pattern.Spelling
import LineTemplates.Proofs.Template.Writing

/-! Drafts while the lexemes are read. A draft comes to what would be written of the pattern that the lexemes hold. The
groups that are open are found from the current node alone, since no link that is added says another thing of the nodes
that are there. -/

namespace LineTemplates

namespace Draft

section Building

open Template

structure Sound (draft : Draft) : Prop where
  inside : draft.current < draft.template.nodes.size
  heads : ∀ index head, (draft.template.node index).group = some head → head < draft.template.nodes.size

structure Extends (template other : Template) : Prop where
  size_le : template.nodes.size ≤ other.nodes.size
  parent_eq : ∀ index < template.nodes.size, (other.node index).parent = (template.node index).parent
  group_iff : ∀ index < template.nodes.size, ∀ parent,
    (other.node parent).group = some index ↔ (template.node parent).group = some index
  repeatable_eq : ∀ index head, (template.node index).group = some head →
    (other.node index).repeatable = (template.node index).repeatable

variable {template other : Template} {draft : Draft}

theorem Extends.branchOwner_eq (grows : Extends template other) {index : Nat} (inside : index < template.nodes.size) :
    other.branchOwner index = template.branchOwner index := by
  induction index using Nat.strong_induction_on with
  | _ index step =>
    rw [branchOwner, branchOwner, grows.parent_eq index inside]
    cases up : (template.node index).parent with
    | none => rfl
    | some parent =>
      simp only [grows.group_iff index inside parent]
      split
      · rfl
      split
      · rename_i forward
        exact step parent forward (forward.trans inside)
      · rfl

inductive Within (template : Template) : Nat → List OpenGroup → List Nat → Prop
  | outermost {index : Nat} (inside : index < template.nodes.size) (free : template.branchOwner index = none) :
      Within template index [] []
  | inner {index owner head : Nat} {group : OpenGroup} {opened : List OpenGroup} {owners : List Nat}
      (inside : index < template.nodes.size) (owned : template.branchOwner index = some owner)
      (link : (template.node owner).group = some head) (below : head < template.nodes.size)
      (flag : (template.node owner).repeatable = decide (group.kind = .repeatable))
      (outer : Within template owner opened owners) : Within template index (group :: opened) (owner :: owners)

theorem Within.inside {index : Nat} {opened : List OpenGroup} {owners : List Nat}
    (within : Within template index opened owners) : index < template.nodes.size := by
  cases within <;> assumption

theorem Within.extends {index : Nat} {opened : List OpenGroup} {owners : List Nat}
    (within : Within template index opened owners) (grows : Extends template other) :
    Within other index opened owners := by
  induction within with
  | outermost inside free =>
    exact .outermost (Nat.lt_of_lt_of_le inside grows.size_le) ((grows.branchOwner_eq inside).trans free)
  | inner inside owned link below flag outer step =>
    exact .inner (Nat.lt_of_lt_of_le inside grows.size_le) ((grows.branchOwner_eq inside).trans owned)
      ((grows.group_iff _ below _).mpr link) (Nat.lt_of_lt_of_le below grows.size_le)
      ((grows.repeatable_eq _ _ link).trans flag) step

section Grow

variable {kind : NodeKind} {change : Node → Node}

theorem node_grow (sound : draft.Sound) (index : Nat) :
    (draft.grow kind change).template.node index =
      if index = draft.template.nodes.size then .bare kind draft.current
      else if index = draft.current then change (draft.template.node index)
      else draft.template.node index := by
  have inside := sound.inside
  simp only [grow, Template.node, Array.getD_eq_getD_getElem?, Array.getElem?_push, Array.size_modify,
    Array.getElem?_modify]
  by_cases added : index = draft.template.nodes.size
  · simp [added]
  · by_cases here : index = draft.current
    · subst here
      simp [added, inside]
    · simp [added, here, Ne.symm here]

theorem size_grow : (draft.grow kind change).template.nodes.size = draft.template.nodes.size + 1 := by
  simp [grow]

theorem Sound.grow (sound : draft.Sound)
    (heads : ∀ head, (change (draft.template.node draft.current)).group = some head →
      head < draft.template.nodes.size + 1) : (draft.grow kind change).Sound where
  inside := by
    rw [size_grow]
    exact Nat.lt_succ_self _
  heads := by
    intro index head link
    rw [node_grow sound] at link
    rw [size_grow]
    split at link
    · cases link
    · split at link
      · rename_i here
        subst here
        exact heads head link
      · exact Nat.lt_succ_of_lt (sound.heads index head link)

theorem node_size (draft : Draft) : draft.template.node draft.template.nodes.size = default := by
  simp [Template.node]

theorem extends_grow (sound : draft.Sound) (parent_eq : ∀ node, (change node).parent = node.parent)
    (group_eq : ∀ index < draft.template.nodes.size, (change (draft.template.node draft.current)).group = some index ↔
      (draft.template.node draft.current).group = some index)
    (repeatable_eq : ∀ head, (draft.template.node draft.current).group = some head →
      (change (draft.template.node draft.current)).repeatable = (draft.template.node draft.current).repeatable) :
    Extends draft.template (draft.grow kind change).template where
  size_le := by simp [size_grow]
  parent_eq := by
    intro index inside
    rw [node_grow sound, if_neg inside.ne]
    split
    · exact parent_eq _
    · rfl
  group_iff := by
    intro index inside parent
    rw [node_grow sound]
    split
    · rename_i added
      subst added
      simp [node_size, Node.bare]
    · split
      · rename_i here
        subst here
        exact group_eq index inside
      · rfl
  repeatable_eq := by
    intro index head link
    rw [node_grow sound]
    split
    · rename_i added
      subst added
      rw [node_size] at link
      cases link
    · split
      · rename_i here
        subst here
        exact repeatable_eq head link
      · rfl

end Grow

section Follow

variable {kind : NodeKind} {opened : List OpenGroup} {owners : List Nat}

theorem extends_follow (sound : draft.Sound) (kind : NodeKind) :
    Extends draft.template (draft.follow kind).template :=
  extends_grow sound (fun _ => rfl) (fun _ _ => Iff.rfl) (fun _ _ => rfl)

theorem Sound.follow (sound : draft.Sound) (kind : NodeKind) : (draft.follow kind).Sound := by
  refine sound.grow ?_
  intro head link
  exact Nat.lt_succ_of_lt (sound.heads _ _ link)

theorem branchOwner_follow (sound : draft.Sound) (kind : NodeKind) :
    (draft.follow kind).template.branchOwner (draft.follow kind).current =
      draft.template.branchOwner draft.current := by
  rw [← (extends_follow sound kind).branchOwner_eq sound.inside]
  refine branchOwner_of_next ?_ ?_ sound.inside
  · rw [Draft.follow, node_grow sound]
    exact congrArg Node.parent (if_pos rfl)
  · intro link
    rw [Draft.follow, node_grow sound, if_neg sound.inside.ne, if_pos rfl] at link
    exact absurd (sound.heads _ _ link) (Nat.lt_irrefl _)

theorem Within.congr {index next : Nat} (within : Within template index opened owners)
    (inside : next < template.nodes.size) (same : template.branchOwner next = template.branchOwner index) :
    Within template next opened owners := by
  cases within with
  | outermost _ free => exact .outermost inside (same.trans free)
  | inner _ owned link below flag outer => exact .inner inside (same.trans owned) link below flag outer

theorem Within.follow (within : Within draft.template draft.current opened owners) (sound : draft.Sound)
    (kind : NodeKind) : Within (draft.follow kind).template (draft.follow kind).current opened owners := by
  refine (within.extends (extends_follow sound kind)).congr (sound.follow kind).inside ?_
  rw [branchOwner_follow sound, (extends_follow sound kind).branchOwner_eq sound.inside]

end Follow

section Enter

variable {opened : List OpenGroup} {owners : List Nat}

def Free (draft : Draft) : Prop := (draft.template.node draft.current).group = none

theorem extends_enter (sound : draft.Sound) (free : draft.Free) (kind : GroupKind) :
    Extends draft.template (draft.enter kind).template := by
  refine extends_grow sound (fun _ => rfl) ?_ ?_
  · intro index inside
    rw [free]
    simp [inside.ne']
  · intro head link
    rw [free] at link
    cases link

theorem Sound.enter (sound : draft.Sound) (kind : GroupKind) : (draft.enter kind).Sound := by
  refine sound.grow ?_
  intro head link
  cases link
  exact Nat.lt_succ_self _

theorem node_enter (sound : draft.Sound) (kind : GroupKind) :
    (draft.enter kind).template.node draft.current =
      { draft.template.node draft.current with
        group := some draft.template.nodes.size, repeatable := kind = .repeatable } := by
  rw [Draft.enter, node_grow sound, if_neg sound.inside.ne, if_pos rfl]

theorem Within.enter (within : Within draft.template draft.current opened owners) (sound : draft.Sound)
    (free : draft.Free) (kind : GroupKind) (offset : Nat) :
    Within (draft.enter kind).template (draft.enter kind).current (⟨kind, offset⟩ :: opened)
      (draft.current :: owners) := by
  have link : ((draft.enter kind).template.node draft.current).group = some draft.template.nodes.size := by
    rw [node_enter sound]
  have owned : (draft.enter kind).template.branchOwner draft.template.nodes.size = some draft.current := by
    refine branchOwner_of_group ?_ link
    rw [Draft.enter, node_grow sound, if_pos rfl]
    rfl
  have flag : ((draft.enter kind).template.node draft.current).repeatable = decide (kind = .repeatable) := by
    rw [node_enter sound]
  exact .inner (sound.enter kind).inside owned link (sound.enter kind).inside flag
    (within.extends (extends_enter sound free kind))

theorem Sound.carrier (sound : draft.Sound) : draft.carrier.Sound := by
  unfold Draft.carrier
  split
  · exact sound.follow .anchor
  · exact sound

theorem Within.carrier (within : Within draft.template draft.current opened owners) (sound : draft.Sound) :
    Within draft.carrier.template draft.carrier.current opened owners := by
  unfold Draft.carrier
  split
  · exact within.follow sound .anchor
  · exact within

theorem free_carrier (sound : draft.Sound) : draft.carrier.Free := by
  unfold Draft.carrier
  split
  · rw [Free, Draft.follow, node_grow sound]
    exact congrArg Node.group (if_pos rfl)
  · rename_i free
    simpa [Free] using free

end Enter

def complete (draft : Draft) : List Nat → List Pattern → Draft
  | owner :: owners, next :: enclosing => complete (write ⟨draft.template, owner⟩ next) owners enclosing
  | _, _ => draft

theorem length_enclosing {opened : List OpenGroup} {lexemes : Lexemes} {nested : Nested}
    (read : Pattern.nest opened lexemes = .ok nested) : nested.enclosing.length = opened.length := by
  induction lexemes generalizing opened nested with
  | done =>
    cases opened <;> cases read
    rfl
  | malformed fault span => cases read
  | lexeme offset head next step =>
    cases head with
    | item content =>
      obtain ⟨inner, following, rfl⟩ := map_eq_ok_iff.mp read
      have level := step following
      exact level
    | opener kind =>
      obtain ⟨inner, following, rfl⟩ := map_eq_ok_iff.mp read
      have deeper := step following
      obtain ⟨innermost, enclosing⟩ := inner
      cases enclosing with
      | nil => cases deeper
      | cons next enclosing => exact Nat.succ_inj.mp deeper
    | closer kind =>
      cases opened with
      | nil => cases read
      | cons newest outer =>
        rw [Pattern.nest] at read
        split at read
        · obtain ⟨inner, following, rfl⟩ := map_eq_ok_iff.mp read
          exact congrArg (· + 1) (step following)
        · cases read

theorem repeatable_iff (kind other : GroupKind) :
    decide (kind = .repeatable) = decide (other = .repeatable) ↔ kind = other := by
  cases kind <;> cases other <;> decide

/-- Building a draft while the lexemes are read comes to what is written of the pattern that they hold. -/
theorem build_eq {lexemes : Lexemes} {opened : List OpenGroup} {owners : List Nat}
    (sound : draft.Sound) (within : Within draft.template draft.current opened owners) :
    draft.build (opened.map OpenGroup.offset) lexemes =
      (fun nested => (draft.write nested.innermost).complete owners nested.enclosing) <$>
        Pattern.nest opened lexemes := by
  induction lexemes generalizing draft opened owners with
  | done =>
    cases within with
    | outermost => rfl
    | inner => rfl
  | malformed fault span => rfl
  | lexeme offset head next step =>
    cases head with
    | item content =>
      rw [build, step (sound.follow (.item content)) (within.follow sound (.item content)), Pattern.nest]
      cases Pattern.nest opened next <;> rfl
    | opener kind =>
      have entered := within.carrier sound |>.enter sound.carrier (free_carrier sound) kind offset
      have following := step (sound.carrier.enter kind) entered
      rw [List.map_cons] at following
      rw [build, following, Pattern.nest]
      cases read : Pattern.nest (⟨kind, offset⟩ :: opened) next with
      | error fault => rfl
      | ok nested =>
        have deep := length_enclosing read
        obtain ⟨innermost, enclosing⟩ := nested
        cases enclosing with
        | nil => cases deep
        | cons next enclosing => rfl
    | closer kind =>
      rw [build]
      cases within with
      | outermost inside free =>
        rw [free]
        rfl
      | @inner index owner head group opened owners inside owned link below flag outer =>
        -- The node that carries the group tells its kind, and is the current one after it.
        have left : Sound ⟨draft.template, owner⟩ := ⟨outer.inside, sound.heads⟩
        rw [owned, Pattern.nest]
        simp only [flag, repeatable_iff, List.map_cons, List.tail_cons, List.headD_cons]
        split
        · rw [step left outer]
          cases Pattern.nest opened next <;> rfl
        · rfl

end Building

theorem sound_start (name source : Text) : (start name source).Sound where
  inside := Nat.one_pos
  heads := by
    intro index head link
    have free : ((start name source).template.node index).group = none := by
      cases index <;> rfl
    cases free.symm.trans link

theorem within_start (name source : Text) :
    Within (start name source).template (start name source).current [] [] := by
  refine .outermost Nat.one_pos ?_
  rw [Template.branchOwner]
  rfl

end Draft

namespace Template

/-- A source compiles to the layout of the pattern that it parses to, and fails as the pattern does. -/
theorem compile_eq (name source : Text) :
    compile name source = match Pattern.parse source with
      | .ok pattern => .ok (ofPattern name source pattern)
      | .error (fault, span) => .error ⟨name, fault, span⟩ := by
  have built : (Draft.start name source).build [] (Lexemes.read source) = _ :=
    Draft.build_eq (Draft.sound_start name source) (Draft.within_start name source)
  rw [compile, built, Pattern.parse, Pattern.ofLexemes]
  cases read : Pattern.nest [] (Lexemes.read source) with
  | error fault => rfl
  | ok nested =>
    have flat := Draft.length_enclosing read
    obtain ⟨innermost, enclosing⟩ := nested
    obtain rfl := List.eq_nil_of_length_eq_zero flat
    have written := (Draft.write_ofNodes name source innermost).1 [] .anchor none
    exact congrArg Except.ok written

theorem compile_eq_ok_iff {name source : Text} {template : Template} :
    compile name source = .ok template ↔
      ∃ pattern, Pattern.parse source = .ok pattern ∧ template = ofPattern name source pattern := by
  rw [compile_eq]
  split
  · rename_i parsed
    simp [parsed, eq_comm]
  · rename_i failed
    simp [failed]

theorem compile_eq_ok_iff_spelling {name source : Text} {template : Template} :
    compile name source = .ok template ↔
      ∃ pattern, Pattern.Spelling pattern source ∧ template = ofPattern name source pattern := by
  simp only [compile_eq_ok_iff, Pattern.parse_eq_ok_iff]

theorem compile_of_spelling {source : Text} {pattern : Pattern} (name : Text)
    (spelled : Pattern.Spelling pattern source) : compile name source = .ok (ofPattern name source pattern) :=
  compile_eq_ok_iff_spelling.mpr ⟨pattern, spelled, rfl⟩

end Template

end LineTemplates
