import LineTemplates.Segment

/-! Patterns: what a template asks of a line, as a sequence of items and groups. An optional group is tried
once and a repeatable one as often as it helps. Every pattern has exactly one spelling, `print`. -/

namespace LineTemplates

inductive GroupKind where
  | optional
  | repeatable
deriving DecidableEq, Repr

namespace GroupKind

def opener : GroupKind → Char
  | optional => '['
  | repeatable => '<'

def closer : GroupKind → Char
  | optional => ']'
  | repeatable => '>'

def other : GroupKind → GroupKind
  | optional => repeatable
  | repeatable => optional

end GroupKind

inductive Item where
  | literal (char : Char)
  /-- Any number of blanks and tabs. -/
  | skipBlanks
  /-- A run that begins with a letter or a digit. -/
  | ident
  /-- A run or a quoted string. -/
  | value
  /-- Everything that is left of the line, which must be something. -/
  | rest
  /-- A constant argument, which takes nothing from the line. -/
  | inject (text : Text)
deriving DecidableEq, Repr

namespace Item

def placeholderMark : Char := '$'

def blanksMark : Char := '_'

def longestName : Nat := 10

/-- The placeholders that are a name alone. The last five spell characters that would otherwise open or
close a group or begin a placeholder. -/
def placeholders : List (Text × Item) := [
  (['v', 'a', 'l', 'u', 'e'], value),
  (['i', 'd', 'e', 'n', 't'], ident),
  (['r', 'e', 's', 't'], rest),
  (['l', 'b', 'r', 'a', 'c', 'k', 'e', 't'], literal '<'),
  (['r', 'b', 'r', 'a', 'c', 'k', 'e', 't'], literal '>'),
  (['l', 'b', 'r', 'a', 'c', 'e'], literal '['),
  (['r', 'b', 'r', 'a', 'c', 'e'], literal ']'),
  (['d', 'o', 'l', 'l', 'a', 'r'], literal '$')]

def injectName : Text := ['a', 'r', 'g']

def placeholderName? (item : Item) : Option Text :=
  (placeholders.find? fun entry => entry.2 = item).map (·.1)

def print (item : Item) : Text :=
  match placeholderName? item, item with
  | some name, _ => placeholderMark :: name
  | none, literal char => [char]
  | none, inject text => placeholderMark :: injectName ++ '(' :: text ++ [')']
  | none, _ => [blanksMark]

def givesArgument : Item → Bool
  | literal _ => false
  | skipBlanks => false
  | _ => true

end Item

inductive Pattern where
  | done
  | item (head : Item) (next : Pattern)
  | group (kind : GroupKind) (body next : Pattern)
deriving DecidableEq, Repr

namespace Pattern

def print : Pattern → Text
  | done => []
  | item head next => head.print ++ next.print
  | group kind body next => kind.opener :: body.print ++ kind.closer :: next.print

def append : Pattern → Pattern → Pattern
  | done, other => other
  | item head next, other => item head (next.append other)
  | group kind body next, other => group kind body (next.append other)

instance : Append Pattern := ⟨append⟩

def literals? : Pattern → Option Text
  | done => some []
  | item (.literal char) next => (char :: ·) <$> next.literals?
  | _ => none

/-- The literals that end a line after its rest has been taken. A group directly after the rest has no say,
unless another one follows it. -/
def tail? : Pattern → Option Text
  | group _ _ next => next.literals?
  | next => next.literals?

end Pattern

end LineTemplates
