import LineTemplates.Proofs.Walk.Remainder

/-! Patterns with a place left open, in a sequence at any depth of groups. What stands in the place may be replaced by a
pattern that does the same on every line and that leaves the same literals to a rest in front of it. -/

namespace LineTemplates

def GroupKind.enclose (kind : GroupKind) (text : Text) : Text := kind.opener :: text ++ [kind.closer]

namespace Pattern

theorem items_append (front back : Pattern) : (front ++ back).items = front.items ++ back.items := by
  induction front with
  | done => rfl
  | item head next step => rw [item_append, items, items, step, List.cons_append]
  | group kind body next _ step => rw [group_append, items, items, step, List.append_assoc]

/-- A pattern with a text that spells it wherever it is put: the text lengthens no name in front of it, and does not go on
in what follows it. -/
structure Insertable (pattern : Pattern) (text : Text) : Prop where
  begins : ∃ first more, text = first :: more ∧ Segment.isNameChar first = false
  spells {next : Pattern} {rest : Text} : Spelling next rest → Spelling (pattern ++ next) (text ++ rest)

theorem Insertable.spelling {pattern : Pattern} {text : Text} (insertable : Insertable pattern text) :
    Spelling pattern text := by
  have alone := insertable.spells .done
  rwa [append_done, List.append_nil] at alone

theorem insertable_group {body : Pattern} {inside : Text} (kind : GroupKind) (inner : Spelling body inside) :
    Insertable (group kind body .done) (kind.enclose inside) where
  begins := ⟨kind.opener, _, rfl, kind.isNameChar_opener⟩
  spells following := by
    rw [GroupKind.enclose, List.append_assoc, List.singleton_append]
    exact .group inner following

structure Interchangeable (first second : Pattern) : Prop where
  evaluate_eq : ∀ line, first.evaluate line = second.evaluate line
  literals_eq : first.literals? = second.literals?
  tail_eq : first.tail? = second.tail?

namespace Interchangeable

variable {first second : Pattern}

theorem item (same : Interchangeable first second) (head : Item) :
    Interchangeable (.item head first) (.item head second) := by
  have literals : (Pattern.item head first).literals? = (Pattern.item head second).literals? := by
    cases head with
    | literal char => exact congrArg (Option.map (char :: ·)) same.literals_eq
    | _ => rfl
  refine ⟨?_, literals, literals⟩
  intro line
  funext cursor
  rw [evaluate, evaluate, same.tail_eq, same.evaluate_eq]

theorem group {body other : Pattern} (kind : GroupKind) (inside : Interchangeable body other)
    (same : Interchangeable first second) :
    Interchangeable (.group kind body first) (.group kind other second) where
  evaluate_eq line := by
    funext cursor
    rw [evaluate_eq_andThen, evaluate_eq_andThen, inside.evaluate_eq, same.evaluate_eq]
  literals_eq := rfl
  tail_eq := same.literals_eq

theorem refl (pattern : Pattern) : Interchangeable pattern pattern := ⟨fun _ => rfl, rfl, rfl⟩

theorem append (front : Pattern) (same : Interchangeable first second) :
    Interchangeable (front ++ first) (front ++ second) := by
  induction front with
  | done => exact same
  | item head next step => exact step.item head
  | group kind body next _ step => exact group kind (refl body) step

end Interchangeable

/-- What is around a place in a pattern: the parts of the sequence in front of it and behind it, and the groups that the
sequence lies in. -/
inductive Context where
  | here (before after : Pattern)
  | inside (before : Pattern) (kind : GroupKind) (body : Context) (after : Pattern)

namespace Context

def fill (inner : Pattern) : Context → Pattern
  | here before after => before ++ (inner ++ after)
  | inside before kind body after => before ++ group kind (body.fill inner) after

inductive Spelled : Context → Text → Text → Prop
  | here {before after : Pattern} {front back : Text} (preceding : Spelling before front)
      (following : Spelling after back) : Spelled (.here before after) front back
  | inside {before after : Pattern} {kind : GroupKind} {body : Context} {front back left right : Text}
      (preceding : Spelling before front) (inner : Spelled body left right) (following : Spelling after back) :
      Spelled (.inside before kind body after) (front ++ kind.opener :: left) (right ++ kind.closer :: back)

section Fill

variable {context : Context} {before after : Text} {first second : Pattern}

theorem Spelled.fill {text : Text} (spelled : context.Spelled before after) (insertable : Insertable first text) :
    Spelling (context.fill first) (before ++ text ++ after) := by
  induction spelled with
  | here preceding following =>
    obtain ⟨char, more, rfl, plain⟩ := insertable.begins
    rw [List.append_assoc]
    exact preceding.append (insertable.spells following) (by simp [plain])
  | @inside _ _ kind _ front back left right preceding inner following step =>
    have grouped : Spelling (group kind (Context.fill first _) _)
        (kind.opener :: (left ++ text ++ right) ++ kind.closer :: back) := .group step following
    have shape := preceding.append grouped (by simp [GroupKind.isNameChar_opener])
    simpa [Context.fill] using shape

theorem interchangeable_fill (same : ∀ next, Interchangeable (first ++ next) (second ++ next)) (context : Context) :
    Interchangeable (context.fill first) (context.fill second) := by
  induction context with
  | here before after => exact (same after).append before
  | inside before kind body after step => exact (step.group kind (.refl after)).append before

/-- Where no rest can ask for the literals behind it, nothing but the outcomes has to be the same. -/
theorem evaluate_fill {line : List Segment} (restFree : Item.rest ∉ (context.fill .done).items)
    (same : ∀ next : Pattern, (first ++ next).evaluate line = (second ++ next).evaluate line) :
    (context.fill first).evaluate line = (context.fill second).evaluate line := by
  induction context with
  | here before after =>
    rw [fill, items_append, List.mem_append, not_or] at restFree
    funext cursor
    rw [fill, fill, evaluate_append restFree.1, evaluate_append restFree.1, same]
  | inside before kind body after step =>
    rw [fill, items_append, items, List.mem_append, List.mem_append, not_or, not_or] at restFree
    funext cursor
    rw [fill, fill, evaluate_append restFree.1, evaluate_append restFree.1]
    congr 1
    funext place
    rw [evaluate_eq_andThen, evaluate_eq_andThen, step restFree.2.1]

end Fill

end Context

end Pattern

end LineTemplates
