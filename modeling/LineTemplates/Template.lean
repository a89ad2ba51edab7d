import LineTemplates.Pattern.Nesting

/-! Templates: a pattern laid out as an arena of nodes. Every node knows the node that follows it, the head of
the group that hangs off it, and the one node that points at it. Indices grow in the order of the source. -/

namespace LineTemplates

inductive NodeKind where
  /-- The root, the head of a group, or a carrier for a group whose neighbour has one already. -/
  | anchor
  | item (item : Item)
deriving DecidableEq, Repr

structure Node where
  kind : NodeKind
  parent : Option Nat
  next : Option Nat
  group : Option Nat
  repeatable : Bool
deriving DecidableEq, Repr

instance : Inhabited Node := ⟨⟨.anchor, none, none, none, false⟩⟩

def NodeKind.givesArgument : NodeKind → Bool
  | anchor => false
  | item content => content.givesArgument

structure Template where
  name : Text
  source : Text
  nodes : Array Node
deriving DecidableEq, Repr

/-- The nodes of a chain whose first node has the given index, kind and parent and is followed by the pattern.
A group hangs off the node before it; if that node is taken, an anchor carries the group. -/
def Pattern.layout (index : Nat) (kind : NodeKind) (parent : Option Nat) : Pattern → List Node
  | done => [⟨kind, parent, none, none, false⟩]
  | item head next =>
    ⟨kind, parent, some (index + 1), none, false⟩ :: layout (index + 1) (.item head) (some index) next
  | group mark body next =>
    let inner := layout (index + 1) .anchor (some index) body
    let follower := index + 1 + inner.length
    let outer := match next with
      | done => []
      | item head rest => layout follower (.item head) (some index) rest
      | group mark body rest => layout follower .anchor (some index) (group mark body rest)
    let link := if outer.isEmpty then none else some follower
    ⟨kind, parent, link, some (index + 1), mark = .repeatable⟩ :: (inner ++ outer)

namespace Template

def ofPattern (name source : Text) (pattern : Pattern) : Template :=
  ⟨name, source, (pattern.layout 0 .anchor none).toArray⟩

def root : Nat := 0

def node (template : Template) (index : Nat) : Node := template.nodes.getD index default

def branchOwner (template : Template) (index : Nat) : Option Nat :=
  match (template.node index).parent with
  | none => none
  | some parent =>
    if (template.node parent).group = some index then some parent
    else if parent < index then branchOwner template parent
    else none
termination_by index

def literalTail (template : Template) (index : Nat) : Option Text :=
  match (template.node index).next with
  | none => some []
  | some next =>
    if index < next ∧ next < template.nodes.size then
      match (template.node next).kind, (template.node next).group with
      | .item (.literal char), none => (char :: ·) <$> literalTail template next
      | _, _ => none
    else none
termination_by template.nodes.size - index

end Template

end LineTemplates
