import LineTemplates.Pattern
import LineTemplates.Pattern.Fault

/-! The lexemes of a template's source: items, and the marks that open and close groups. A source is read
as far as its first malformed placeholder; whether groups pair up is not looked at here. -/

namespace LineTemplates

inductive Lexeme where
  | item (item : Item)
  | opener (kind : GroupKind)
  | closer (kind : GroupKind)
deriving DecidableEq, Repr

namespace Lexeme

def print : Lexeme → Text
  | .item content => content.print
  | .opener kind => [kind.opener]
  | .closer kind => [kind.closer]

/-- The constant that follows the name `arg`, and the source after it. A fault comes with the number of bytes
it covers, `size` of which lie before `source`. -/
def constant (size : Nat) (source : Text) : Except (PatternFault × Nat) (Item × Text) :=
  match source with
  | '(' :: inside =>
    match Text.cut? ')' inside with
    | none => .error (.unclosedArgument, size + Text.utf8Size source)
    | some ([], _) => .error (.emptyArgument, size + 2)
    | some (text, after) => .ok (.inject text, after)
  | _ => .error (.unopenedArgument, size)

/-- The item of a placeholder whose mark stands before `source`, and the source after it. A fault comes with
the number of bytes it covers, the mark included. -/
def placeholder (source : Text) : Except (PatternFault × Nat) (Item × Text) :=
  let name := source.takeWhile Segment.isNameChar
  let after := source.drop name.length
  let size := 1 + name.length
  if name = [] then .error (.unnamed, size)
  else if Item.longestName < name.length then .error (.longName name, size)
  else if name = Item.injectName then constant size after
  else match Item.placeholders.lookup name with
    | some known => .ok (known, after)
    | none => .error (.unknownName name, size)

theorem length_lt_of_constant {size : Nat} {source after : Text} {item : Item}
    (read : constant size source = .ok (item, after)) : after.length < source.length := by
  unfold constant at read
  split at read
  · rename_i inside
    split at read
    · cases read
    · cases read
    · rename_i found
      cases read
      have shorter := Text.length_lt_of_cut? found
      simp
      omega
  · cases read

theorem length_le_of_placeholder {source after : Text} {item : Item}
    (read : placeholder source = .ok (item, after)) : after.length ≤ source.length := by
  unfold placeholder at read
  simp only at read
  split at read
  · cases read
  split at read
  · cases read
  split at read
  · have shorter := length_lt_of_constant read
    simp only [List.length_drop] at shorter
    omega
  split at read
  · cases read
    simp
  · cases read

end Lexeme

inductive Lexemes where
  | done
  | malformed (fault : PatternFault) (span : Span)
  | lexeme (offset : Nat) (head : Lexeme) (next : Lexemes)
deriving Repr

namespace Lexemes

def readFrom (offset : Nat) (source : Text) : Lexemes :=
  match source with
  | [] => done
  | '<' :: rest => lexeme offset (.opener .repeatable) (readFrom (offset + 1) rest)
  | '>' :: rest => lexeme offset (.closer .repeatable) (readFrom (offset + 1) rest)
  | '[' :: rest => lexeme offset (.opener .optional) (readFrom (offset + 1) rest)
  | ']' :: rest => lexeme offset (.closer .optional) (readFrom (offset + 1) rest)
  | '_' :: rest => lexeme offset (.item .skipBlanks) (readFrom (offset + 1) rest)
  | '$' :: rest =>
    match _ : Lexeme.placeholder rest with
    | .error (fault, size) => malformed fault ⟨offset, offset + size⟩
    | .ok (item, after) => lexeme offset (.item item) (readFrom (offset + Text.utf8Size item.print) after)
  | char :: rest => lexeme offset (.item (.literal char)) (readFrom (offset + char.utf8Size) rest)
termination_by source.length
decreasing_by
  all_goals simp
  rename_i read
  have shorter := Lexeme.length_le_of_placeholder read
  omega

def read (source : Text) : Lexemes := readFrom 0 source

end Lexemes

end LineTemplates
