import LineTemplates.Text

/-! Segments of an input line: runs of value characters, quoted strings and single symbols. A line is cut
into segments from left to right and `render` joins them again; the only line that has no segments is one
whose last quote is never closed. -/

namespace LineTemplates

/-- A quoted string is opened in a line and never closed. The span runs from its quote to the line's end. -/
structure UnclosedQuote where
  span : Span
deriving DecidableEq, Repr

def UnclosedQuote.message (fault : UnclosedQuote) : String :=
  s!"unterminated quoted string starting at byte {fault.span.start}"

inductive Segment where
  /-- Value characters: an identifier, a number or a piece of either. -/
  | run (text : Text)
  /-- The characters between two quotes. -/
  | quoted (text : Text)
  /-- Any other character, blanks included. -/
  | symbol (char : Char)
deriving DecidableEq, Repr

namespace Segment

def quoteMark : Char := '"'

/-- The longest run that stays in one segment; a longer one goes on in the next segment. -/
def longestRun : Nat := 256

def isNameChar (char : Char) : Bool := char.isAlphanum

def isValueChar (char : Char) : Bool := isNameChar char || char == '.' || char == '_'

def isQuoted : Segment → Bool
  | quoted _ => true
  | _ => false

def isBlank : Segment → Bool
  | symbol char => char == ' ' || char == '\t'
  | _ => false

def text : Segment → Text
  | run text => text
  | quoted text => text
  | symbol char => [char]

def marked : Segment → Text
  | quoted text => quoteMark :: text
  | segment => segment.text

def render : Segment → Text
  | quoted text => quoteMark :: text ++ [quoteMark]
  | segment => segment.text

@[simp]
theorem render_run (text : Text) : (run text).render = text := rfl

@[simp]
theorem render_quoted (text : Text) : (quoted text).render = quoteMark :: text ++ [quoteMark] := rfl

@[simp]
theorem render_symbol (char : Char) : (symbol char).render = [char] := rfl

/-- The segment as it stands in the line, less the first `offset` characters of a run. -/
def renderFrom (offset : Nat) : Segment → Text
  | run text => text.drop offset
  | segment => segment.render

@[simp]
theorem renderFrom_zero (segment : Segment) : segment.renderFrom 0 = segment.render := by
  cases segment <;> rfl

def literalLength : Segment → Nat
  | run text => text.length
  | quoted _ => 0
  | symbol _ => 1

def tokenizeFrom (offset : Nat) (line : Text) : Except UnclosedQuote (List Segment) :=
  match line with
  | [] => .ok []
  | char :: rest =>
    if isValueChar char then
      let more := (rest.take (longestRun - 1)).takeWhile isValueChar
      let size := Text.utf8Size (char :: more)
      (tokenizeFrom (offset + size) (rest.drop more.length)).map (run (char :: more) :: ·)
    else if char = quoteMark then
      match _ : Text.cut? quoteMark rest with
      | none => .error ⟨⟨offset, offset + Text.utf8Size line⟩⟩
      | some (body, after) =>
        let size := Text.utf8Size (quoted body).render
        (tokenizeFrom (offset + size) after).map (quoted body :: ·)
    else
      (tokenizeFrom (offset + char.utf8Size) rest).map (symbol char :: ·)
termination_by line.length
decreasing_by
  · simp only [List.length_drop, List.length_cons]
    omega
  · rename_i found
    have shorter := Text.length_lt_of_cut? found
    simp only [List.length_cons]
    omega
  · simp only [List.length_cons]
    omega

def tokenize (line : Text) : Except UnclosedQuote (List Segment) := tokenizeFrom 0 line

end Segment

end LineTemplates
