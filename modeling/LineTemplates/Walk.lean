import LineTemplates.Cursor
import LineTemplates.Template

/-! The walk of a template's arena along a segmented line. A group is tried before what follows the node that
carries it. Entering a group records a lane; leaving the group drops the lane, and a failure inside goes back to
it and blocks the group for the decision at hand. -/

namespace LineTemplates

/-- What a failure inside a group restores. -/
structure Lane where
  cursor : Cursor
  matched : Bool
  argumentCount : Nat
deriving DecidableEq, Repr

structure Walk where
  current : Nat
  blocked : Bool
  cursor : Cursor
  matched : Bool
  arguments : List Text
  /-- One lane for each group around the current node, the innermost first. -/
  lanes : List Lane
deriving DecidableEq, Repr

namespace Walk

def start : Walk := ⟨Template.root, false, .start, true, [], []⟩

inductive Turn where
  | goesOn (walk : Walk)
  | stops (result : Option (List Text))
deriving DecidableEq, Repr

def enter (head : Nat) (walk : Walk) : Walk :=
  { walk with
    current := head
    lanes := ⟨walk.cursor, walk.matched, walk.arguments.length⟩ :: walk.lanes }

def leave (template : Template) (line : List Segment) (walk : Walk) : Turn :=
  match walk.lanes with
  | [] => .stops (if walk.cursor.atEnd line then some walk.arguments else none)
  | lane :: outer =>
    match template.branchOwner walk.current with
    | none => .stops none
    | some owner =>
      let again := (template.node owner).repeatable && lane.cursor != walk.cursor
      .goesOn { walk with current := owner, blocked := !again, lanes := outer }

def retreat (template : Template) (walk : Walk) : Turn :=
  match walk.lanes with
  | [] => .stops none
  | lane :: outer =>
    match template.branchOwner walk.current with
    | none => .stops none
    | some owner =>
      .goesOn {
        current := owner
        blocked := true
        cursor := lane.cursor
        matched := lane.matched
        arguments := walk.arguments.take lane.argumentCount
        lanes := outer }

def visit (template : Template) (line : List Segment) (walk : Walk) : Turn :=
  match (template.node walk.current).kind with
  | .anchor => if walk.matched then .goesOn walk else retreat template walk
  | .item content =>
    let tail := if content = .rest then template.literalTail walk.current else none
    match content.take line tail walk.cursor with
    | none => retreat template { walk with matched := false }
    | some (place, given) =>
      let moved := { walk with cursor := place, arguments := walk.arguments ++ given }
      if content = .rest then .stops (some moved.arguments)
      else if moved.matched then .goesOn moved
      else retreat template moved

def step (template : Template) (line : List Segment) (walk : Walk) : Turn :=
  let node := template.node walk.current
  match node.group, node.next with
  | some head, next =>
    if !walk.blocked then .goesOn (walk.enter head)
    else match next with
      | some next => visit template line { walk with current := next, blocked := false }
      | none => leave template line walk
  | none, some next => visit template line { walk with current := next, blocked := false }
  | none, none => leave template line walk

def run (template : Template) (line : List Segment) : Nat → Walk → Option (List Text)
  | 0, _ => none
  | turns + 1, walk =>
    match step template line walk with
    | .goesOn next => run template line turns next
    | .stops result => result

def room (line : List Segment) : Nat := line.foldr (fun segment count => max 1 segment.literalLength + count) 0

/-- More than any number of turns the walk takes: a failure or a new round of a group pays for all that follows
inside the group. -/
def turns (template : Template) (line : List Segment) : Nat :=
  Nat.pow (3 * room line + 4) (template.nodes.size + 1) + 1

end Walk

namespace Template

def match? (template : Template) (line : List Segment) : Option (List Text) :=
  Walk.run template line (Walk.turns template line) .start

end Template

end LineTemplates
