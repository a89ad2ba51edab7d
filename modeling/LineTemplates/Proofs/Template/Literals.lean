import LineTemplates.Proofs.Walk.Remainder

/-! Templates of nothing but literals. A character that has a meaning of its own in a source is spelled by the name of a
placeholder; such a spelling exists for a text just if no name would be lengthened by what follows it, and it is then the
only one. -/

namespace LineTemplates

namespace Item.Named

variable {name other rest after : Text} {item another : Item}

theorem eq_of_prefix (named : Named name item) (also : Named other another) (begins : name <+: other) :
    name = other ∧ item = another := by
  cases named <;> cases also <;> revert begins <;> decide

theorem append_cancel (named : Named name item) (also : Named other another) (same : name ++ rest = other ++ after) :
    item = another ∧ rest = after := by
  rcases List.append_eq_append_iff.mp same with ⟨more, longer, _⟩ | ⟨more, longer, _⟩
  · obtain ⟨rfl, items⟩ := named.eq_of_prefix also ⟨more, longer.symm⟩
    exact ⟨items, List.append_cancel_left same⟩
  · obtain ⟨rfl, items⟩ := also.eq_of_prefix named ⟨more, longer.symm⟩
    exact ⟨items.symm, List.append_cancel_left same⟩

end Item.Named

namespace Pattern

open Item (Named)

def specialChars : Text := ['<', '>', '[', ']', '$']

def escape : Char → Text
  | '<' => ['$', 'l', 'b', 'r', 'a', 'c', 'k', 'e', 't']
  | '>' => ['$', 'r', 'b', 'r', 'a', 'c', 'k', 'e', 't']
  | '[' => ['$', 'l', 'b', 'r', 'a', 'c', 'e']
  | ']' => ['$', 'r', 'b', 'r', 'a', 'c', 'e']
  | '$' => ['$', 'd', 'o', 'l', 'l', 'a', 'r']
  | char => [char]

def escapeAll (text : Text) : Text := text.flatMap escape

theorem escapeAll_cons (char : Char) (rest : Text) : escapeAll (char :: rest) = escape char ++ escapeAll rest :=
  List.flatMap_cons

def MayStandBefore (char next : Char) : Prop := char ∈ specialChars → next.isAlphanum = false

instance : DecidableRel MayStandBefore := fun char next =>
  inferInstanceAs (Decidable (char ∈ specialChars → next.isAlphanum = false))

section Escapes

variable {char : Char} {text source name : Text} {pattern : Pattern}

theorem escape_cases (char : Char) :
    (∃ name, Named name (.literal char) ∧ escape char = '$' :: name) ∨ char ∉ specialChars ∧ escape char = [char] := by
  unfold escape
  split
  · exact .inl ⟨_, .lbracket, rfl⟩
  · exact .inl ⟨_, .rbracket, rfl⟩
  · exact .inl ⟨_, .lbrace, rfl⟩
  · exact .inl ⟨_, .rbrace, rfl⟩
  · exact .inl ⟨_, .dollar, rfl⟩
  · rename_i notLess notGreater notOpen notClose notDollar
    refine .inr ⟨?_, rfl⟩
    simp only [specialChars, List.mem_cons, List.not_mem_nil, or_false, not_or]
    exact ⟨notLess, notGreater, notOpen, notClose, notDollar⟩

theorem escape_of_named (named : Named name (.literal char)) : escape char = '$' :: name := by
  cases named <;> rfl

theorem mem_specialChars_of_named (named : Named name (.literal char)) : char ∈ specialChars := by
  cases named <;> decide

theorem escape_of_plain (plain : char ∉ specialChars) : escape char = [char] := by
  rcases escape_cases char with ⟨_, named, _⟩ | ⟨_, spelled⟩
  · exact absurd (mem_specialChars_of_named named) plain
  · exact spelled

theorem plain_iff : char ∉ ['<', '>', '[', ']', '$', '_'] ↔ char ∉ specialChars ∧ char ≠ '_' := by
  simp [specialChars, and_assoc]

theorem escapeAll_of_plain (plain : ∀ char ∈ text, char ∉ specialChars) : escapeAll text = text := by
  have escapes := List.flatMap_congr fun char inside => escape_of_plain (plain char inside)
  rw [escapeAll, escapes, List.flatMap_singleton']

theorem isChain_of_plain (plain : ∀ char ∈ text, char ∉ specialChars) : text.IsChain MayStandBefore := by
  induction text with
  | nil => exact .nil
  | cons char rest step =>
    obtain ⟨first, later⟩ := List.forall_mem_cons.mp plain
    exact List.isChain_cons.mpr ⟨fun _ _ special => absurd special first, step later⟩

theorem head?_escapeAll_iff :
    (∀ char ∈ (escapeAll text).head?, Segment.isNameChar char = false) ↔
      ∀ char ∈ text.head?, char.isAlphanum = false := by
  cases text with
  | nil => simp [escapeAll]
  | cons char rest =>
    rcases escape_cases char with ⟨name, named, spelled⟩ | ⟨_, spelled⟩
    · have special : char.isAlphanum = false := by cases named <;> decide
      simp [escapeAll, spelled, special, Segment.isNameChar]
    · simp [escapeAll, spelled, Segment.isNameChar]

theorem spelling_ofLiterals (blankFree : '_' ∉ text) (apart : text.IsChain MayStandBefore) :
    Spelling (ofLiterals text) (escapeAll text) := by
  induction text with
  | nil => exact .done
  | cons char rest step =>
    rw [List.mem_cons, not_or] at blankFree
    rw [List.isChain_cons] at apart
    have following := step blankFree.2 apart.2
    rcases escape_cases char with ⟨name, named, spelled⟩ | ⟨plain, spelled⟩
    · have ends := head?_escapeAll_iff.mpr fun next first => apart.1 next first (mem_specialChars_of_named named)
      rw [escapeAll_cons, spelled]
      exact .placeholder named ends following
    · rw [escapeAll_cons, spelled]
      exact .literal (plain_iff.mpr ⟨plain, Ne.symm blankFree.1⟩) following

/-- The literals of a text have no other spelling than the one by escapes. -/
theorem eq_escapeAll_of_spelling (spelled : Spelling (ofLiterals text) source) :
    '_' ∉ text ∧ text.IsChain MayStandBefore ∧ source = escapeAll text := by
  induction text generalizing source with
  | nil =>
    cases spelled
    exact ⟨List.not_mem_nil, .nil, rfl⟩
  | cons char rest step =>
    rw [ofLiterals] at spelled
    cases spelled with
    | literal plain following =>
      obtain ⟨blankFree, apart, rfl⟩ := step following
      obtain ⟨plain, notBlank⟩ := plain_iff.mp plain
      refine ⟨List.not_mem_cons_of_ne_of_not_mem (Ne.symm notBlank) blankFree, ?_, ?_⟩
      · exact List.isChain_cons.mpr ⟨fun _ _ special => absurd special plain, apart⟩
      · rw [escapeAll_cons, escape_of_plain plain, List.singleton_append]
    | placeholder named ends following =>
      obtain ⟨blankFree, apart, rfl⟩ := step following
      have notBlank : '_' ≠ char := by cases named <;> decide
      refine ⟨List.not_mem_cons_of_ne_of_not_mem notBlank blankFree, ?_, ?_⟩
      · exact List.isChain_cons.mpr ⟨fun next first _ => head?_escapeAll_iff.mp ends next first, apart⟩
      · rw [escapeAll_cons, escape_of_named named]

/-- The other way around, escapes are read as nothing but the characters that they spell. -/
theorem eq_ofLiterals_of_spelling (blankFree : '_' ∉ text) (spelled : Spelling pattern (escapeAll text)) :
    pattern = ofLiterals text := by
  induction text generalizing pattern with
  | nil =>
    cases spelled
    rfl
  | cons char rest step =>
    rw [List.mem_cons, not_or] at blankFree
    rw [escapeAll_cons] at spelled
    rcases escape_cases char with ⟨name, named, escaped⟩ | ⟨plain, escaped⟩
    · rw [escaped] at spelled
      -- a spelling that begins with a dollar is a placeholder's, and no other name can stand there
      generalize source_eq : '$' :: name ++ escapeAll rest = source at spelled
      cases spelled with
      | done => cases source_eq
      | literal plain following =>
        obtain ⟨rfl, _⟩ := List.cons.inj source_eq
        exact absurd plain (by decide)
      | blanks following => cases source_eq
      | placeholder also ends following =>
        obtain ⟨items, rfl⟩ := named.append_cancel also (List.cons.inj source_eq).2
        rw [← items, step blankFree.2 following, ofLiterals]
      | constant nonempty closes following =>
        cases named <;> cases source_eq
      | @group kind body next inside after inner following =>
        cases kind <;> cases source_eq
    · rw [escaped] at spelled
      generalize source_eq : [char] ++ escapeAll rest = source at spelled
      cases spelled with
      | done => cases source_eq
      | literal plain following =>
        obtain ⟨rfl, rfl⟩ := List.cons.inj source_eq
        rw [step blankFree.2 following, ofLiterals]
      | blanks following => exact absurd (List.cons.inj source_eq).1.symm blankFree.1
      | placeholder also ends following =>
        rw [(List.cons.inj source_eq).1] at plain
        exact absurd plain (by decide)
      | constant nonempty closes following =>
        rw [(List.cons.inj source_eq).1] at plain
        exact absurd plain (by decide)
      | @group kind body next inside after inner following =>
        rw [(List.cons.inj source_eq).1] at plain
        cases kind <;> exact absurd plain (by decide)

end Escapes

section Layout

variable {text : Text}

theorem kinds_layout_iff (pattern : Pattern) (text : Text) (index : Nat) (kind : NodeKind) (parent : Option Nat) :
    ((pattern.layout index kind parent).tail.map Node.kind = text.map fun char => .item (.literal char)) ↔
      pattern = ofLiterals text := by
  induction pattern generalizing text index kind parent with
  | done => cases text <;> simp [layout, ofLiterals]
  | item head next step =>
    obtain ⟨first, more, shape, kind_eq, _⟩ := next.layout_eq_cons (index + 1) (.item head) (some index)
    cases text with
    | nil => simp [layout, ofLiterals, shape]
    | cons char rest =>
      have following := step rest (index + 1) (.item head) (some index)
      rw [shape, List.tail_cons] at following
      simp [layout, ofLiterals, shape, kind_eq, following]
  | group mark body next _ _ =>
    obtain ⟨first, more, shape, kind_eq, _⟩ := body.layout_eq_cons (index + 1) .anchor (some index)
    rw [layout_group]
    cases text <;> simp [ofLiterals, shape, kind_eq]

theorem group_layout_ofLiterals (text : Text) (index : Nat) (kind : NodeKind) (parent : Option Nat) :
    ∀ node ∈ (ofLiterals text).layout index kind parent, node.group = none := by
  induction text generalizing index kind parent with
  | nil => simp [ofLiterals, layout]
  | cons char rest step =>
    rw [ofLiterals, layout]
    exact List.forall_mem_cons.mpr ⟨rfl, step _ _ _⟩

theorem next_layout_ofLiterals (text : Text) (index : Nat) (kind : NodeKind) (parent : Option Nat) (place : Nat) :
    ((ofLiterals text).layout index kind parent)[place]?.bind Node.next =
      if place < text.length then some (index + place + 1) else none := by
  induction text generalizing index kind parent place with
  | nil => cases place <;> rfl
  | cons char rest step =>
    rw [ofLiterals, layout]
    cases place with
    | zero => rfl
    | succ place =>
      have moved : index + 1 + place + 1 = index + (place + 1) + 1 := by omega
      rw [List.getElem?_cons_succ, step, moved]
      simp only [List.length_cons, Nat.add_lt_add_iff_right]

end Layout

end Pattern

namespace Template

open Pattern (Spelling ofLiterals escapeAll MayStandBefore)

structure LiteralRow (template : Template) (text : Text) : Prop where
  kinds : template.nodes.toList.tail.map Node.kind = text.map fun char => .item (.literal char)
  groupFree : ∀ node ∈ template.nodes, node.group = none

def InLine (template : Template) (text : Text) : Prop :=
  ∀ index, (template.node index).next = if index < text.length then some (index + 1) else none

section Spelling

variable {name source text : Text} {pattern : Pattern} {template : Template}

theorem literalRow_ofPattern_iff : (ofPattern name source pattern).LiteralRow text ↔ pattern = ofLiterals text := by
  have kinds := pattern.kinds_layout_iff text 0 .anchor none
  constructor
  · intro row
    exact kinds.mp row.kinds
  · rintro rfl
    refine ⟨kinds.mpr rfl, ?_⟩
    intro node inside
    exact Pattern.group_layout_ofLiterals text 0 .anchor none node (Array.mem_toList_iff.mpr inside)

theorem inLine_ofPattern (name source text : Text) : (ofPattern name source (ofLiterals text)).InLine text := by
  intro index
  have next := Pattern.next_layout_ofLiterals text 0 .anchor none index
  rw [Nat.zero_add] at next
  rw [← next, Template.node, ofPattern, Array.getD_eq_getD_getElem?, List.getElem?_toArray]
  cases ((ofLiterals text).layout 0 .anchor none)[index]? <;> rfl

/-- A source compiles to the literals of a text just if it is their spelling by escapes. -/
theorem spells_literals_iff :
    (∃ template, compile name source = .ok template ∧ template.LiteralRow text) ↔
      '_' ∉ text ∧ text.IsChain MayStandBefore ∧ source = escapeAll text := by
  constructor
  · rintro ⟨template, compiled, row⟩
    obtain ⟨pattern, spelled, rfl⟩ := compile_eq_ok_iff_spelling.mp compiled
    rw [literalRow_ofPattern_iff] at row
    subst row
    exact Pattern.eq_escapeAll_of_spelling spelled
  · rintro ⟨blankFree, apart, rfl⟩
    have spelled := Pattern.spelling_ofLiterals blankFree apart
    exact ⟨_, compile_of_spelling name spelled, literalRow_ofPattern_iff.mpr rfl⟩

theorem spells_itself (plain : ∀ char ∈ text, char ∉ Pattern.specialChars) (blankFree : '_' ∉ text) :
    ∃ template, compile name text = .ok template ∧ template.LiteralRow text :=
  spells_literals_iff.mpr ⟨blankFree, Pattern.isChain_of_plain plain, (Pattern.escapeAll_of_plain plain).symm⟩

/-- Escapes spell a text just if none of them has a letter or a digit behind it, which would be read as part of its name.
What they spell is then a row of the literals of the text, and nothing else spells it. -/
theorem escapes_spell_literals_iff (name : Text) {text : Text} (blankFree : '_' ∉ text) :
    ((∃ template, compile name (escapeAll text) = .ok template) ↔ text.IsChain MayStandBefore) ∧
    (∀ template, compile name (escapeAll text) = .ok template → template.LiteralRow text ∧ template.InLine text) ∧
    ∀ source template, compile name source = .ok template → template.LiteralRow text → source = escapeAll text := by
  have rows : ∀ template, compile name (escapeAll text) = .ok template →
      template.LiteralRow text ∧ template.InLine text := by
    intro template compiled
    obtain ⟨pattern, spelled, rfl⟩ := compile_eq_ok_iff_spelling.mp compiled
    obtain rfl := Pattern.eq_ofLiterals_of_spelling blankFree spelled
    exact ⟨literalRow_ofPattern_iff.mpr rfl, inLine_ofPattern name (escapeAll text) text⟩
  refine ⟨⟨?_, ?_⟩, rows, ?_⟩
  · rintro ⟨template, compiled⟩
    exact (spells_literals_iff.mp ⟨template, compiled, (rows template compiled).1⟩).2.1
  · intro apart
    obtain ⟨template, compiled, _⟩ := spells_literals_iff.mpr ⟨blankFree, apart, rfl⟩
    exact ⟨template, compiled⟩
  · intro source template compiled row
    exact (spells_literals_iff.mp ⟨template, compiled, row⟩).2.2

theorem escapes_spell_literals_iff_between_brackets :
    let text : Text := ['é', '<', '$', '[', '-', 'a', '>']
    '_' ∉ text ∧ text.IsChain MayStandBefore ∧ ∃ template, compile ['t'] (escapeAll text) = .ok template ∧
      template.LiteralRow text ∧ template.InLine text := by
  intro text
  have blankFree : '_' ∉ text := by decide
  have apart : text.IsChain MayStandBefore := by decide
  obtain ⟨compiles, rows, _⟩ := escapes_spell_literals_iff ['t'] blankFree
  obtain ⟨template, compiled⟩ := compiles.mpr apart
  exact ⟨blankFree, apart, template, compiled, rows template compiled⟩

theorem letter_lengthens_escape :
    let text : Text := ['<', 'a']
    '_' ∉ text ∧ compile ['t'] (escapeAll text) =
        .error ⟨['t'], .unknownName ['l', 'b', 'r', 'a', 'c', 'k', 'e', 't', 'a'], ⟨0, 10⟩⟩ ∧
      ¬ ∃ template, compile ['t'] (escapeAll text) = .ok template ∧ template.LiteralRow text := by
  intro text
  have failed : compile ['t'] (escapeAll text) =
      .error ⟨['t'], .unknownName ['l', 'b', 'r', 'a', 'c', 'k', 'e', 't', 'a'], ⟨0, 10⟩⟩ := by decide +kernel
  refine ⟨by decide, failed, ?_⟩
  rintro ⟨template, compiled, _⟩
  cases failed.symm.trans compiled

end Spelling

end Template

end LineTemplates
