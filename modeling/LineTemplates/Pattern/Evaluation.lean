import LineTemplates.Cursor

/-! What a pattern does with a line, read off its structure: items one after the other, an optional group at most
once, a repeatable group until it fails or stays where it is. No choice is ever taken back. -/

namespace LineTemplates

/-- The outcome of evaluating a pattern from some place in a line, with the arguments given on the way. -/
inductive Evaluation where
  | failed
  /-- A rest took what was left, which ends the match. -/
  | finished (arguments : List Text)
  | reached (cursor : Cursor) (arguments : List Text)
deriving DecidableEq, Repr

namespace Evaluation

def after (arguments : List Text) : Evaluation → Evaluation
  | failed => failed
  | finished more => finished (arguments ++ more)
  | reached cursor more => reached cursor (arguments ++ more)

def result? (line : List Segment) : Evaluation → Option (List Text)
  | failed => none
  | finished arguments => some arguments
  | reached cursor arguments => if cursor.atEnd line then some arguments else none

def iterate (body : Cursor → Evaluation) : Nat → Cursor → Evaluation
  | 0, cursor => reached cursor []
  | limit + 1, cursor =>
    match body cursor with
    | failed => reached cursor []
    | finished arguments => finished arguments
    | reached place arguments =>
      if place = cursor then reached place arguments else (iterate body limit place).after arguments

end Evaluation

namespace Pattern

/-- More than any number of moves that a line leaves room for. -/
def moves (line : List Segment) : Nat :=
  line.foldr (fun segment count => segment.literalLength + 1 + count) 1

def evaluate (line : List Segment) : Pattern → Cursor → Evaluation
  | done, cursor => .reached cursor []
  | item head next, cursor =>
    match head.take line next.tail? cursor with
    | none => .failed
    | some (place, arguments) =>
      if head = .rest then .finished arguments else (next.evaluate line place).after arguments
  | group kind body next, cursor =>
    let entered := match kind with
      | .optional => Evaluation.iterate (body.evaluate line) 1 cursor
      | .repeatable => Evaluation.iterate (body.evaluate line) (moves line) cursor
    match entered with
    | .reached place arguments => (next.evaluate line place).after arguments
    | ending => ending

end Pattern

end LineTemplates
