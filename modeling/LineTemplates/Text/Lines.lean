import LineTemplates.Text

/-! Lines of a text. A line ends with a line feed, before which one carriage return is not a part of it. -/

namespace LineTemplates.Text

def withoutReturn (line : Text) : Text := withoutEnding ['\r'] line

/-- The lines of a text. What follows the last line feed is a line if it is not empty, and keeps a carriage return
at its end. -/
def lines (text : Text) : List Text :=
  match _ : cut? '\n' text with
  | none => if text = [] then [] else [text]
  | some (line, rest) => withoutReturn line :: lines rest
termination_by text.length
decreasing_by
  rename_i found
  exact length_lt_of_cut? found

def numberedLines (lines : List Text) : List (Nat × Text) :=
  (lines.zipIdx 1).filterMap fun (line, number) => if line = [] then none else some (number, line)

end LineTemplates.Text
