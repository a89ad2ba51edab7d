import LineTemplates.LineMatch
import LineTemplates.Template.Draft
import LineTemplates.Walk

/-! Registries of templates. The order of registration is the order of priority: a line belongs to the first
template that accounts for all of it. -/

namespace LineTemplates

inductive LineError where
  | empty
  | unclosedQuote (fault : UnclosedQuote)
deriving DecidableEq, Repr

def LineError.message : LineError → String
  | empty => "empty line"
  | unclosedQuote fault => s!"malformed line: {fault.message}"

structure Registry where
  templates : List Template
deriving DecidableEq, Repr

namespace Registry

def empty : Registry := ⟨[]⟩

def push (template : Template) (registry : Registry) : Registry := ⟨registry.templates ++ [template]⟩

def register (name source : Text) (registry : Registry) : Except TemplateError Registry :=
  (registry.push ·) <$> Template.compile name source

def get? (name : Text) (registry : Registry) : Option Template :=
  registry.templates.find? fun template => template.name = name

def names (registry : Registry) : List Text := registry.templates.map Template.name

def size (registry : Registry) : Nat := registry.templates.length

def firstMatch? (line : List Segment) (registry : Registry) : Option LineMatch :=
  registry.templates.findSome? fun template =>
    (template.match? line).map fun arguments => ⟨template.name, Argument.foldSigns arguments⟩

/-- What the line is, if it is anything. An empty line and one with an open quote are refused whatever is
registered. -/
def parseLine (registry : Registry) (line : Text) : Except LineError (Option LineMatch) :=
  if line = [] then .error .empty
  else match Segment.tokenize line with
    | .error fault => .error (.unclosedQuote fault)
    | .ok segments => .ok (registry.firstMatch? segments)

end Registry

end LineTemplates
