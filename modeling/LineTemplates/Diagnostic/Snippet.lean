import LineTemplates.Diagnostic
import LineTemplates.Text.Columns
import LineTemplates.Text.Lines

/-! Diagnostics as snippets: the lines of the source that the bytes in question lie in, behind their numbers. Bytes of
one line have marks below them; from one line to another, a bracket stands before the lines. -/

namespace LineTemplates.Snippet

structure SourceLine where
  number : Nat
  offset : Nat
  text : Text
deriving DecidableEq, Repr

structure Cell where
  char : Char
  offset : Nat
  width : Nat
deriving DecidableEq, Repr

def sourceLines (number offset : Nat) : List Text → List SourceLine
  | [] => []
  | text :: more => ⟨number, offset, text⟩ :: sourceLines (number + 1) (offset + Text.utf8Size text + 1) more

def tabStop : Nat := 4

def width (column : Nat) (char : Char) : Nat :=
  if char = '\t' then tabStop - column % tabStop else Text.columns char

def cells (column offset : Nat) : Text → List Cell
  | [] => []
  | char :: rest =>
    let size := width column char
    ⟨char, offset, size⟩ :: cells (column + size) (offset + char.utf8Size) rest

namespace SourceLine

def trimmed (line : SourceLine) : Text :=
  (line.text.reverse.dropWhile fun char => char == '\n' || char == '\r' || char == '\x00').reverse

def row (line : SourceLine) : List Cell := cells 0 line.offset line.trimmed

def column (line : SourceLine) (byte : Nat) : Nat :=
  ((cells 0 line.offset line.text).filter fun cell => cell.offset < byte).length + 1

def shown (line : SourceLine) : Text :=
  line.row.flatMap fun cell => if cell.char = '\t' then List.replicate cell.width ' ' else [cell.char]

/-- The marks below the bytes of a span. What it covers behind the line is marked as one column. -/
def carets (span : Span) (line : SourceLine) : Text :=
  let ending : Cell := ⟨'\x00', line.offset + Text.utf8Size line.trimmed, 1⟩
  (line.row ++ [ending]).flatMap fun cell =>
    if cell.offset < span.start then List.replicate cell.width ' '
    else if cell.offset < span.stop then List.replicate cell.width '^'
    else []

def pointer (byte : Nat) (line : SourceLine) : Text :=
  ((line.row.filter fun cell => cell.offset < byte).flatMap fun cell => List.replicate cell.width '─') ++ ['^']

def isIndent (byte : Nat) (line : SourceLine) : Bool :=
  (line.row.filter fun cell => cell.offset < byte).all fun cell => cell.char.isWhitespace

end SourceLine

def row (digits : Nat) (number border margin text : Text) : String :=
  Text.str (List.replicate (digits - number.length) ' ' ++ number ++ [' '] ++ border ++ margin ++ text)

def sourceRow (digits : Nat) (margin : Text) (line : SourceLine) : String :=
  row digits (toString line.number).toList ['│'] margin (' ' :: line.shown)

def caretRow (digits : Nat) (margin text : Text) : String := row digits [] ['│'] margin text

/-- The lines of a longer span. Of more than seven, those that stand between the first four and the last two are left
out. -/
def bracketed (digits : Nat) (span : Span) (first : SourceLine) (between : List SourceLine) (last : SourceLine) :
    List String :=
  let opening :=
    if first.isIndent span.start then [sourceRow digits [' ', '╭'] first]
    else [sourceRow digits [' ', ' '] first, caretRow digits [' ', '╭'] (first.pointer (span.start + 1))]
  let inner := sourceRow digits [' ', '│']
  let middle :=
    if between.length ≤ 5 then between.map inner
    else (between.take 3).map inner ++ [row digits [] ['·'] [' ', '│'] []] ++
      (between.drop (between.length - 1)).map inner
  opening ++ middle ++ [inner last, caretRow digits [' ', '╰'] (last.pointer span.stop)]

def lines (diagnostic : Diagnostic) : List String :=
  let span := diagnostic.span
  let all := sourceLines 1 0 (Text.split '\n' diagnostic.source)
  let lineAt (byte : Nat) : SourceLine := (all.filter (·.offset ≤ byte)).getLastD ⟨1, 0, []⟩
  let first := lineAt span.start
  let last := lineAt span.stop
  let digits := (toString last.number).length
  let within := first.number = last.number
  let margin : Text := if within then [] else [' ', ' ']
  let body :=
    if within then [sourceRow digits [] first, caretRow digits [] (' ' :: first.carets span)]
    else
      let between := all.filter fun line => first.number < line.number ∧ line.number < last.number
      bracketed digits span first between last
  let notes := diagnostic.notes.map fun note => row digits [] ['='] [] (' ' :: note.toList)
  let place := s!" {diagnostic.file.str}:{first.number}:{first.column span.start}"
  [s!"error: {diagnostic.headline}",
    row digits [] ['┌', '─'] [] place.toList,
    caretRow digits margin []] ++
    body ++ (if notes.isEmpty then [] else caretRow digits margin [] :: notes) ++ [""]

instance : DiagnosticRenderer := ⟨lines⟩

end LineTemplates.Snippet
