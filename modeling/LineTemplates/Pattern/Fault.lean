import LineTemplates.Pattern

/-! What can be wrong with a template's source, and how it is reported. -/

namespace LineTemplates

inductive PatternFault where
  /-- A closing mark stands where no group is open. -/
  | unopened (closer : GroupKind)
  /-- A closing mark meets a group of the other kind, which was opened at the given byte. -/
  | mismatched (closer : GroupKind) (opened : Nat)
  /-- The source ends inside a group. -/
  | unclosed
  | unnamed
  | longName (name : Text)
  | unknownName (name : Text)
  | unopenedArgument
  | unclosedArgument
  | emptyArgument
deriving DecidableEq, Repr

namespace PatternFault

def knownPlaceholders : String :=
  "known placeholders: value, ident, rest, arg(...), lbracket, rbracket, lbrace, rbrace, dollar"

def message : PatternFault → String
  | unopened closer => s!"unbalanced `{closer.closer}`: no group is open"
  | mismatched closer _ => s!"`{closer.closer}` cannot close a `{closer.other.opener}` group"
  | unclosed => "group is never closed"
  | unnamed => "expected a placeholder name after `$`"
  | longName name => s!"placeholder name `{name.str}` is longer than {Item.longestName} characters"
  | unknownName name => s!"unknown placeholder `${name.str}`"
  | unopenedArgument => "expected `(` after `$arg`"
  | unclosedArgument => "`$arg(` is never closed with `)`"
  | emptyArgument => "`$arg()` needs a non-empty argument"

def notes : PatternFault → List String
  | mismatched closer opened =>
    [s!"group opened at byte {opened} must be closed with `{closer.other.closer}`"]
  | unclosed => ["close `<` with `>` and `[` with `]`"]
  | unnamed => [knownPlaceholders]
  | unknownName _ => [knownPlaceholders]
  | _ => []

end PatternFault

structure TemplateError where
  template : Text
  fault : PatternFault
  span : Span
deriving DecidableEq, Repr

namespace TemplateError

def message (error : TemplateError) : String := error.fault.message

def notes (error : TemplateError) : List String := error.fault.notes

def headline (error : TemplateError) : String := s!"template `{error.template.str}`: {error.message}"

def display (error : TemplateError) : String :=
  s!"{error.headline} (at {error.span.start}..{error.span.stop})"

end TemplateError

end LineTemplates
