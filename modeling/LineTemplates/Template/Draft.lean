import LineTemplates.Template

/-! Templates in the making. The lexemes of a source are read one after the other, and each of them changes the arena
at its current node; of the groups that are open nothing else is kept than the places where they begin. -/

namespace LineTemplates

def Node.bare (kind : NodeKind) (parent : Option Nat) : Node := ⟨kind, parent, none, none, false⟩

structure Draft where
  template : Template
  /-- The node that the next one follows. -/
  current : Nat
deriving DecidableEq, Repr

namespace Draft

def start (name source : Text) : Draft := ⟨⟨name, source, #[.bare .anchor none]⟩, Template.root⟩

def grow (kind : NodeKind) (change : Node → Node) (draft : Draft) : Draft :=
  let nodes := draft.template.nodes
  ⟨{ draft.template with nodes := (nodes.modify draft.current change).push (.bare kind draft.current) }, nodes.size⟩

def follow (kind : NodeKind) (draft : Draft) : Draft :=
  draft.grow kind ({ · with next := some draft.template.nodes.size })

/-- A node carries one group; a second one hangs off an anchor of its own. -/
def carrier (draft : Draft) : Draft :=
  if (draft.template.node draft.current).group.isSome then draft.follow .anchor else draft

def enter (kind : GroupKind) (draft : Draft) : Draft :=
  draft.grow .anchor ({ · with group := some draft.template.nodes.size, repeatable := kind = .repeatable })

/-- What becomes of the draft with the lexemes, when groups begin at the places `opened`, the innermost first. -/
def build (opened : List Nat) (draft : Draft) : Lexemes → Except (PatternFault × Span) Draft
  | .done =>
    match opened with
    | [] => .ok draft
    | newest :: _ => .error (.unclosed, ⟨newest, newest + 1⟩)
  | .malformed fault span => .error (fault, span)
  | .lexeme _ (.item content) next => build opened (draft.follow (.item content)) next
  | .lexeme offset (.opener kind) next => build (offset :: opened) (draft.carrier.enter kind) next
  | .lexeme offset (.closer kind) next =>
    match draft.template.branchOwner draft.current with
    | none => .error (.unopened kind, ⟨offset, offset + 1⟩)
    | some owner =>
      if (draft.template.node owner).repeatable = decide (kind = .repeatable) then
        build opened.tail ⟨draft.template, owner⟩ next
      else .error (.mismatched kind (opened.headD offset), ⟨offset, offset + 1⟩)

end Draft

namespace Template

def compile (name source : Text) : Except TemplateError Template :=
  match Draft.build [] (.start name source) (Lexemes.read source) with
  | .ok draft => .ok draft.template
  | .error (fault, span) => .error ⟨name, fault, span⟩

end Template

end LineTemplates
