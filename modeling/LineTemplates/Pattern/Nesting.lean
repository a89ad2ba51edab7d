import LineTemplates.Pattern.Lexeme

/-! Groups out of marks. The lexemes of a source become a pattern if every closing mark meets the mark that
opened its group; otherwise the first fault in reading order is reported. -/

namespace LineTemplates

structure OpenGroup where
  kind : GroupKind
  offset : Nat
deriving DecidableEq, Repr

/-- What is left to read of every group that is still open: `innermost` lies in the group opened last, and
`enclosing` holds one pattern for each level outside it. -/
structure Nested where
  innermost : Pattern
  enclosing : List Pattern
deriving DecidableEq, Repr

namespace Nested

def addItem (item : Item) (nested : Nested) : Nested := ⟨.item item nested.innermost, nested.enclosing⟩

def openGroup (kind : GroupKind) (nested : Nested) : Nested :=
  match nested.enclosing with
  | next :: enclosing => ⟨.group kind nested.innermost next, enclosing⟩
  | [] => nested

def closeGroup (nested : Nested) : Nested := ⟨.done, nested.innermost :: nested.enclosing⟩

end Nested

namespace Pattern

/-- The patterns that the lexemes hold when the groups of `opened`, innermost first, are open. -/
def nest (opened : List OpenGroup) : Lexemes → Except (PatternFault × Span) Nested
  | .done =>
    match opened with
    | [] => .ok ⟨done, []⟩
    | newest :: _ => .error (.unclosed, ⟨newest.offset, newest.offset + 1⟩)
  | .malformed fault span => .error (fault, span)
  | .lexeme _ (.item content) next => Nested.addItem content <$> nest opened next
  | .lexeme offset (.opener kind) next => Nested.openGroup kind <$> nest (⟨kind, offset⟩ :: opened) next
  | .lexeme offset (.closer kind) next =>
    match opened with
    | [] => .error (.unopened kind, ⟨offset, offset + 1⟩)
    | newest :: outer =>
      if newest.kind = kind then Nested.closeGroup <$> nest outer next
      else .error (.mismatched kind newest.offset, ⟨offset, offset + 1⟩)

def ofLexemes (lexemes : Lexemes) : Except (PatternFault × Span) Pattern :=
  Nested.innermost <$> nest [] lexemes

def parse (source : Text) : Except (PatternFault × Span) Pattern := ofLexemes (Lexemes.read source)

end Pattern

end LineTemplates
