import LineTemplates.Pattern

/-! Places in a segmented line, and what an item takes from the line at a place. Only literals stop inside a
segment; every other item begins with a whole one. -/

namespace LineTemplates

/-- The place after `offset` literal characters of a segment. -/
structure Cursor where
  segment : Nat
  offset : Nat
deriving DecidableEq, Repr

namespace Cursor

def start : Cursor := ⟨0, 0⟩

def segment? (segments : List Segment) (cursor : Cursor) : Option Segment := segments[cursor.segment]?

def atEnd (line : List Segment) (cursor : Cursor) : Bool := line.length ≤ cursor.segment

def whole? (line : List Segment) (cursor : Cursor) : Option Segment :=
  if cursor.offset = 0 then cursor.segment? line else none

def nextSegment (cursor : Cursor) : Cursor := ⟨cursor.segment + 1, 0⟩

def skipBlanks (line : List Segment) (cursor : Cursor) : Cursor :=
  if cursor.offset = 0 then
    ⟨cursor.segment + ((line.drop cursor.segment).takeWhile Segment.isBlank).length, 0⟩
  else cursor

def literal? (line : List Segment) (char : Char) (cursor : Cursor) : Option Cursor := do
  let segment ← cursor.segment? line
  let found ← match segment with
    | .run text => text[cursor.offset]?
    | .symbol symbol => some symbol
    | .quoted _ => none
  if found ≠ char then none
  else if cursor.offset + 1 < segment.literalLength then some ⟨cursor.segment, cursor.offset + 1⟩
  else some cursor.nextSegment

def remaining (line : List Segment) (cursor : Cursor) : Text :=
  match line.drop cursor.segment with
  | [] => []
  | first :: more => first.renderFrom cursor.offset ++ more.flatMap Segment.render

end Cursor

namespace Item

/-- The place after the item and the arguments it gives, or nothing if it fails. `tail` is what a rest leaves
off the end of its argument. -/
def take (line : List Segment) (tail : Option Text) (cursor : Cursor) : Item → Option (Cursor × List Text)
  | literal char => (cursor.literal? line char).map fun place => (place, [])
  | skipBlanks => some (cursor.skipBlanks line, [])
  | ident =>
    match cursor.whole? line with
    | some (.run text) =>
      if text.head?.any Segment.isNameChar then some (cursor.nextSegment, [text]) else none
    | _ => none
  | value =>
    match cursor.whole? line with
    | some (.run text) => some (cursor.nextSegment, [text])
    | some (.quoted text) => some (cursor.nextSegment, [text])
    | _ => none
  | rest =>
    if cursor.atEnd line then none
    else some (⟨line.length, 0⟩, [Text.withoutEnding (tail.getD []) (cursor.remaining line)])
  | inject text => some (cursor, [text])

end Item

end LineTemplates
