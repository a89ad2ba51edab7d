import LineTemplates.Proofs.Cursor.Blanks
import LineTemplates.Proofs.Pattern.Context

/-! Simplifications of templates. A group around nothing but a group is as good as one group, unless both are repeatable;
blanks need not be skipped twice, and a group with nothing in it can be left out where no rest looks at what follows
it. -/

namespace LineTemplates

namespace Evaluation

variable {body : Cursor → Evaluation}

theorem after_ne_failed {outcome : Evaluation} (goesOn : outcome ≠ .failed) (given : List Text) :
    outcome.after given ≠ .failed := by
  cases outcome with
  | failed => exact absurd rfl goesOn
  | finished arguments => simp [after]
  | reached place arguments => simp [after]

theorem iterate_ne_failed (body : Cursor → Evaluation) (limit : Nat) (cursor : Cursor) :
    iterate body limit cursor ≠ .failed := by
  induction limit generalizing cursor with
  | zero => simp [iterate]
  | succ limit step =>
    rw [iterate]
    cases body cursor with
    | failed => simp
    | finished arguments => simp
    | reached place arguments =>
      by_cases still : place = cursor
      · simp [still]
      · simpa [still] using after_ne_failed (step place) arguments

theorem iterate_one (goesOn : ∀ cursor, body cursor ≠ .failed) : iterate body 1 = body := by
  funext cursor
  rw [iterate]
  cases outcome : body cursor with
  | failed => exact absurd outcome (goesOn cursor)
  | finished arguments => rfl
  | reached place arguments => simp [iterate, after]

/-- Rounds that each try the body once are rounds of the body: a round that fails stays where it is, as one does whose try
has failed. -/
theorem iterate_iterate_one (body : Cursor → Evaluation) (limit : Nat) :
    iterate (iterate body 1) limit = iterate body limit := by
  induction limit with
  | zero => rfl
  | succ limit step =>
    funext cursor
    rw [iterate, iterate, step]
    cases outcome : body cursor with
    | failed => simp [iterate, outcome]
    | finished arguments => simp [iterate, outcome]
    | reached place arguments => simp [iterate, outcome, after]

theorem iterate_still (still : ∀ cursor, body cursor = .reached cursor []) (limit : Nat) (cursor : Cursor) :
    iterate body limit cursor = .reached cursor [] := by
  cases limit with
  | zero => rfl
  | succ limit => simp [iterate, still]

theorem andThen_done (line : List Segment) (outcome : Evaluation) :
    outcome.andThen (Pattern.done.evaluate line) = outcome := by
  cases outcome with
  | reached place arguments => simp [andThen, Pattern.evaluate, after]
  | _ => rfl

end Evaluation

namespace Pattern

open Evaluation

section Pairs

variable (line : List Segment) (body next : Pattern)

theorem evaluate_group_done (kind : GroupKind) :
    (group kind body .done).evaluate line = iterate (body.evaluate line) (rounds line kind) := by
  funext cursor
  rw [evaluate_eq_andThen, andThen_done]

theorem optional_in_group (kind : GroupKind) :
    Interchangeable (group kind (group .optional body .done) next) (group kind body next) where
  evaluate_eq line := by
    funext cursor
    have rounds_one : rounds line .optional = 1 := rfl
    rw [evaluate_eq_andThen, evaluate_eq_andThen, evaluate_group_done, rounds_one, iterate_iterate_one]
  literals_eq := rfl
  tail_eq := rfl

theorem repeatable_in_optional :
    Interchangeable (group .optional (group .repeatable body .done) next) (group .repeatable body next) where
  evaluate_eq line := by
    funext cursor
    have rounds_one : rounds line .optional = 1 := rfl
    rw [evaluate_eq_andThen, evaluate_eq_andThen, evaluate_group_done, rounds_one,
      iterate_one (iterate_ne_failed _ _)]
  literals_eq := rfl
  tail_eq := rfl

theorem blanks_twice : Interchangeable (item .skipBlanks (item .skipBlanks next)) (item .skipBlanks next) where
  evaluate_eq line := by
    funext cursor
    simp [evaluate, Item.take, Cursor.skipBlanks_skipBlanks]
  literals_eq := rfl
  tail_eq := rfl

theorem evaluate_empty_group (kind : GroupKind) :
    (group kind .done next).evaluate line = next.evaluate line := by
  have still (place : Cursor) : (done : Pattern).evaluate line place = .reached place [] := rfl
  funext cursor
  rw [evaluate_eq_andThen, iterate_still still, Evaluation.andThen, after_nil]

end Pairs

end Pattern

namespace Template

open Pattern (Spelling Context)

def MatchAlike (source other : Text) : Prop :=
  ∀ name otherName, ∃ template another, compile name source = .ok template ∧ compile otherName other = .ok another ∧
    ∀ line : List Segment, template.match? line = another.match? line

theorem matchAlike_of_evaluate_eq {source other : Text} {first second : Pattern} (spelled : Spelling first source)
    (otherSpelled : Spelling second other) (same : ∀ line, first.evaluate line = second.evaluate line) :
    MatchAlike source other := by
  intro name otherName
  refine ⟨_, _, compile_of_spelling name spelled, compile_of_spelling otherName otherSpelled, ?_⟩
  intro line
  rw [match?_ofPattern, match?_ofPattern, same]

section Places

variable {context : Context} {before after : Text}

theorem matchAlike_of_interchangeable {first second : Pattern} {text other : Text}
    (spelled : context.Spelled before after) (inserted : Pattern.Insertable first text)
    (otherInserted : Pattern.Insertable second other)
    (same : ∀ next, Pattern.Interchangeable (first ++ next) (second ++ next)) :
    MatchAlike (before ++ text ++ after) (before ++ other ++ after) :=
  matchAlike_of_evaluate_eq (spelled.fill inserted) (spelled.fill otherInserted)
    (Context.interchangeable_fill same context).evaluate_eq

/-- In every place of a template an optional group around an optional group, an optional group around a repeatable one
and a repeatable group around an optional one can be replaced by one group, and two skips of blanks by one. If the template
asks for no rest, a group with nothing in it can be left out. -/
theorem simplifications_match_alike (spelled : context.Spelled before after) :
    (∀ body inside, Spelling body inside →
      MatchAlike (before ++ GroupKind.optional.enclose (GroupKind.optional.enclose inside) ++ after)
        (before ++ GroupKind.optional.enclose inside ++ after) ∧
      MatchAlike (before ++ GroupKind.optional.enclose (GroupKind.repeatable.enclose inside) ++ after)
        (before ++ GroupKind.repeatable.enclose inside ++ after) ∧
      MatchAlike (before ++ GroupKind.repeatable.enclose (GroupKind.optional.enclose inside) ++ after)
        (before ++ GroupKind.repeatable.enclose inside ++ after)) ∧
    MatchAlike (before ++ ['_', '_'] ++ after) (before ++ ['_'] ++ after) ∧
    (Spelling (context.fill .done) (before ++ after) → Item.rest ∉ (context.fill .done).items →
      ∀ kind : GroupKind, MatchAlike (before ++ kind.enclose [] ++ after) (before ++ after)) := by
  refine ⟨?groups, ?blanks, ?empty⟩
  case groups =>
    intro body inside inner
    have single (kind : GroupKind) := Pattern.insertable_group kind inner
    have double (outer kind : GroupKind) := Pattern.insertable_group outer (single kind).spelling
    refine ⟨?_, ?_, ?_⟩
    · apply matchAlike_of_interchangeable spelled (double .optional .optional) (single .optional)
      intro next
      exact Pattern.optional_in_group body next .optional
    · apply matchAlike_of_interchangeable spelled (double .optional .repeatable) (single .repeatable)
      intro next
      exact Pattern.repeatable_in_optional body next
    · apply matchAlike_of_interchangeable spelled (double .repeatable .optional) (single .repeatable)
      intro next
      exact Pattern.optional_in_group body next .repeatable
  case blanks =>
    have once : Pattern.Insertable (.item .skipBlanks .done) ['_'] :=
      ⟨⟨_, _, rfl, by decide⟩, fun following => .blanks following⟩
    have twice : Pattern.Insertable (.item .skipBlanks (.item .skipBlanks .done)) ['_', '_'] :=
      ⟨⟨_, _, rfl, by decide⟩, fun following => .blanks (.blanks following)⟩
    apply matchAlike_of_interchangeable spelled twice once
    intro next
    exact Pattern.blanks_twice next
  case empty =>
    intro plain restFree kind
    apply matchAlike_of_evaluate_eq (spelled.fill (Pattern.insertable_group kind .done)) plain
    intro line
    apply Context.evaluate_fill restFree
    intro next
    exact Pattern.evaluate_empty_group line next kind

theorem simplifications_match_alike_inside_rounds :
    let before : Text := ['a', '<', '_']
    let after : Text := ['>', '$', 'i', 'd', 'e', 'n', 't']
    let inside : Text := ['$', 'v', 'a', 'l', 'u', 'e']
    MatchAlike (before ++ (['[', '['] ++ inside ++ [']', ']']) ++ after) (before ++ (['['] ++ inside ++ [']']) ++ after) ∧
      MatchAlike (before ++ (['[', '<'] ++ inside ++ ['>', ']']) ++ after)
        (before ++ (['<'] ++ inside ++ ['>']) ++ after) ∧
      MatchAlike (before ++ (['<', '['] ++ inside ++ [']', '>']) ++ after)
        (before ++ (['<'] ++ inside ++ ['>']) ++ after) ∧
      MatchAlike (before ++ ['_', '_'] ++ after) (before ++ ['_'] ++ after) ∧
      MatchAlike (before ++ ['[', ']'] ++ after) (before ++ after) ∧
      MatchAlike (before ++ ['<', '>'] ++ after) (before ++ after) := by
  intro before after inside
  have ident : Spelling (.item .ident .done) ['$', 'i', 'd', 'e', 'n', 't'] := .placeholder .ident nofun .done
  have value : Spelling (.item .value .done) inside := .placeholder .value nofun .done
  have spelled : Context.Spelled (.inside (.item (.literal 'a') .done) .repeatable
      (.here (.item .skipBlanks .done) .done) (.item .ident .done)) before after :=
    .inside (.literal (by decide) .done) (.here (.blanks .done) .done) ident
  obtain ⟨groups, blanks, empty⟩ := simplifications_match_alike spelled
  obtain ⟨optional, never, rounds⟩ := groups _ _ value
  have plain : Spelling (.item (.literal 'a') (.group .repeatable (.item .skipBlanks .done) (.item .ident .done)))
      (before ++ after) := .literal (by decide) (.group (.blanks .done) ident)
  exact ⟨optional, never, rounds, blanks, empty plain (by decide) .optional, empty plain (by decide) .repeatable⟩

end Places

end Template

end LineTemplates
