import LineTemplates.Proofs.Pattern.FirstFault
import LineTemplates.Proofs.Template.Drafting

/-! Templates that do not compile. The fault of a source is the first one that reading it from left to right comes to, and
it covers the characters that are wrong. Whenever a closing mark meets a group, the place where that group was opened is
known. -/

namespace LineTemplates

theorem PatternFault.notes_mismatched {kind closer : GroupKind} (other : kind ≠ closer) (opened : Nat) :
    (mismatched closer opened).notes = [s!"group opened at byte {opened} must be closed with `{kind.closer}`"] := by
  have same : closer.other = kind := by
    cases kind <;> cases closer <;> first | rfl | exact absurd rfl other
  rw [notes, same]

namespace Draft

/-- What building the draft of a source comes by: the places of the groups that are open, the draft, and the lexemes that
are still to be read. -/
inductive Passes (name source : Text) : List Nat → Draft → Lexemes → Prop
  | begun : Passes name source [] (.start name source) (Lexemes.read source)
  | item {opened : List Nat} {draft : Draft} {offset : Nat} {content : Item} {next : Lexemes}
      (earlier : Passes name source opened draft (.lexeme offset (.item content) next)) :
      Passes name source opened (draft.follow (.item content)) next
  | opener {opened : List Nat} {draft : Draft} {offset : Nat} {kind : GroupKind} {next : Lexemes}
      (earlier : Passes name source opened draft (.lexeme offset (.opener kind) next)) :
      Passes name source (offset :: opened) (draft.carrier.enter kind) next
  | closer {opened : List Nat} {draft : Draft} {offset owner : Nat} {kind : GroupKind} {next : Lexemes}
      (earlier : Passes name source opened draft (.lexeme offset (.closer kind) next))
      (owned : draft.template.branchOwner draft.current = some owner)
      (same : (draft.template.node owner).repeatable = decide (kind = .repeatable)) :
      Passes name source opened.tail ⟨draft.template, owner⟩ next

namespace Passes

variable {name source : Text} {opened : List Nat} {draft : Draft} {lexemes : Lexemes}

theorem build_eq (passes : Passes name source opened draft lexemes) :
    draft.build opened lexemes = (start name source).build [] (Lexemes.read source) := by
  induction passes with
  | begun => rfl
  | item _ step => rw [← step, build]
  | opener _ step => rw [← step, build]
  | closer _ owned same step =>
    rw [← step, build, owned]
    simp only [if_pos same]

theorem within (passes : Passes name source opened draft lexemes) :
    draft.Sound ∧ ∃ groups owners, opened = groups.map OpenGroup.offset ∧
      Within draft.template draft.current groups owners := by
  induction passes with
  | begun => exact ⟨sound_start name source, [], [], rfl, within_start name source⟩
  | @item _ _ _ content _ _ step =>
    obtain ⟨sound, groups, owners, places, within⟩ := step
    exact ⟨sound.follow _, groups, owners, places, within.follow sound (.item content)⟩
  | @opener _ draft offset kind _ _ step =>
    obtain ⟨sound, groups, owners, places, within⟩ := step
    have entered := (within.carrier sound).enter sound.carrier (free_carrier sound) kind offset
    exact ⟨sound.carrier.enter kind, ⟨kind, offset⟩ :: groups, draft.carrier.current :: owners,
      congrArg (offset :: ·) places, entered⟩
  | @closer _ draft _ owner _ _ _ owned _ step =>
    obtain ⟨sound, groups, owners, rfl, within⟩ := step
    cases within with
    | outermost inside free =>
      rw [free] at owned
      cases owned
    | @inner _ owner' _ group outer owners inside owned' link below flag enclosing =>
      obtain rfl : owner' = owner := Option.some.inj (owned'.symm.trans owned)
      exact ⟨⟨enclosing.inside, sound.heads⟩, outer, owners, rfl, enclosing⟩

/-- Wherever a closing mark meets a group, the place of its opener is at hand, and no other one is reported for it. -/
theorem exists_headD (passes : Passes name source opened draft lexemes) {owner : Nat}
    (owned : draft.template.branchOwner draft.current = some owner) :
    ∃ place, ∀ fallback, opened.headD fallback = place := by
  obtain ⟨_, groups, owners, rfl, within⟩ := passes.within
  cases within with
  | outermost inside free =>
    rw [free] at owned
    cases owned
  | @inner _ _ _ group => exact ⟨group.offset, fun _ => rfl⟩

end Passes

end Draft

namespace Template

variable {name source : Text} {error : TemplateError}

/-- A source does not compile just for its first fault. -/
theorem compile_eq_error_iff :
    compile name source = .error error ↔
      error.template = name ∧ Pattern.FirstFault source error.fault error.span := by
  rw [← Pattern.parse_eq_error_iff, compile_eq]
  obtain ⟨template, fault, span⟩ := error
  cases Pattern.parse source with
  | ok pattern => simp
  | error failed => simp [Prod.ext_iff, eq_comm]

/-- A source that does not compile is refused for the first fault that reading comes to, and the bytes that are reported
are whole characters of it. A mark that closes a group of the other kind is reported with the place of the opener of the
innermost group that is open, which is known whenever such a mark is met. -/
theorem compile_fails_at_first_fault (name source : Text) :
    (∀ error, compile name source = .error error ↔
      error.template = name ∧ Pattern.FirstFault source error.fault error.span) ∧
    (∀ error, compile name source = .error error →
      error.span.start < error.span.stop ∧ error.span.stop ≤ Text.utf8Size source ∧
      ∃ before inside after, source = before ++ (inside ++ after) ∧
        error.span = ⟨Text.utf8Size before, Text.utf8Size before + Text.utf8Size inside⟩) ∧
    (∀ error closer place, compile name source = .error error → error.fault = .mismatched closer place →
      ∃ newest outer front after, source = front ++ closer.closer :: after ∧
        Pattern.Unfinished (newest :: outer) front ∧ newest.kind ≠ closer ∧ newest.offset = place ∧
        error.span = ⟨Text.utf8Size front, Text.utf8Size front + 1⟩ ∧
        error.notes = [s!"group opened at byte {newest.offset} must be closed with `{newest.kind.closer}`"]) ∧
    ∀ opened draft offset closer next owner,
      Draft.Passes name source opened draft (.lexeme offset (.closer closer) next) →
      draft.template.branchOwner draft.current = some owner →
      draft.build opened (.lexeme offset (.closer closer) next) =
          (Draft.start name source).build [] (Lexemes.read source) ∧
        ∃ place, ∀ fallback, opened.headD fallback = place := by
  refine ⟨fun error => compile_eq_error_iff, ?span, ?note, ?known⟩
  case span =>
    intro error failed
    obtain ⟨before, inside, after, whole, filled, covers⟩ := (compile_eq_error_iff.mp failed).2.covers
    have positive := Text.utf8Size_pos filled
    refine ⟨?_, ?_, before, inside, after, whole, covers⟩
    · rw [covers]
      exact Nat.lt_add_of_pos_right positive
    · rw [covers, whole, Text.utf8Size_append, Text.utf8Size_append, ← Nat.add_assoc]
      exact Nat.le_add_right ..
  case note =>
    intro error closer place failed fault
    obtain ⟨template, found, span⟩ := error
    obtain rfl : found = .mismatched closer place := fault
    obtain ⟨newest, outer, front, after, whole, reads, other, rfl, covers⟩ :=
      (compile_eq_error_iff.mp failed).2.mismatched
    exact ⟨newest, outer, front, after, whole, reads, other, rfl, covers,
      PatternFault.notes_mismatched other newest.offset⟩
  case known =>
    intro opened draft offset closer next owner passes owned
    exact ⟨passes.build_eq, passes.exists_headD owned⟩

theorem compile_fails_at_first_fault_in_open_group :
    let source : Text := ['é', '[', '>']
    let error : TemplateError := ⟨['t'], .mismatched .repeatable 2, ⟨3, 4⟩⟩
    let entered := (((Draft.start ['t'] source).follow (.item (.literal 'é'))).carrier.enter .optional)
    let ahead : Lexemes := .lexeme 3 (.closer .repeatable) .done
    compile ['t'] source = .error error ∧ error.span.start < error.span.stop ∧
      error.span.stop ≤ Text.utf8Size source ∧ error.notes = ["group opened at byte 2 must be closed with `]`"] ∧
      Draft.Passes ['t'] source [2] entered ahead ∧
      entered.template.branchOwner entered.current = some 1 ∧ ∃ place, ∀ fallback, [2].headD fallback = place := by
  intro source error entered ahead
  obtain ⟨fails, covers, notes, known⟩ := compile_fails_at_first_fault ['t'] source
  have literal : Pattern.Spelling (.item (.literal 'é') .done) ['é'] := .literal (by decide) .done
  have front : Pattern.Unfinished [⟨.optional, 2⟩] ['é', '['] := .within (.outermost literal) .done
  have other : GroupKind.optional ≠ .repeatable := by decide
  have malformed : Pattern.Malformed [⟨.optional, 2⟩] [GroupKind.repeatable.closer] [] (.mismatched .repeatable 2) :=
    .mismatched other
  have failed : compile ['t'] source = .error error := (fails error).mpr ⟨rfl, .malformed rfl front malformed⟩
  obtain ⟨filled, inside, _⟩ := covers error failed
  obtain ⟨newest, outer, front', after, whole, reads, other, place, _, note⟩ := notes error .repeatable 2 failed rfl
  have passes : Draft.Passes ['t'] source [2] entered ahead := by
    have lexemes : Lexemes.read source =
        .lexeme 0 (.item (.literal 'é')) (.lexeme 2 (.opener .optional) ahead) := by
      simp [Lexemes.read, Lexemes.readFrom, source, ahead, Char.utf8Size]
    have start : Draft.Passes ['t'] source [] (.start ['t'] source) (Lexemes.read source) := .begun
    rw [lexemes] at start
    exact .opener (.item start)
  have owned : entered.template.branchOwner entered.current = some 1 := by decide +kernel
  refine ⟨failed, filled, inside, rfl, passes, owned, ?_⟩
  exact (known _ _ _ _ _ _ passes owned).2

end Template

end LineTemplates
