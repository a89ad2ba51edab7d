import LineTemplates.Program
import LineTemplates.Proofs.Text.Lines

/-! The lines that a case tries, beside those that `parse` looks at when the same text is its input. Both number all
lines and leave the empty ones out, but only `parse` takes every carriage return off the end of a line. -/

namespace LineTemplates.CaseFile

open Text

/-- A case tries the lines that `parse` looks at just if no line of the body keeps a carriage return at its end. -/
theorem bodyLines_eq_inputLines_iff (body : Text) :
    bodyLines body = Program.inputLines body ↔ ¬ ['\r', '\r', '\n'] <:+: body ∧ body.getLast? ≠ some '\r' := by
  have blank : trimEnd '\r' [] = [] := rfl
  calc bodyLines body = Program.inputLines body
    _ ↔ numberedFrom 1 ((lines body).map (trimEnd '\r')) = numberedFrom 1 (lines body) := eq_comm
    _ ↔ ∀ line ∈ lines body, trimEnd '\r' line = line := numberedFrom_map_eq_iff blank
    _ ↔ ¬ ∃ line ∈ lines body, line.getLast? = some '\r' := by simp only [trimEnd_eq_self_iff, not_exists, not_and]
    _ ↔ _ := by rw [exists_lines_return_iff, not_or]

theorem bodyLines_double_return :
    bodyLines ['a', '\r', '\r', '\n'] = [(1, ['a', '\r'])] ∧
      Program.inputLines ['a', '\r', '\r', '\n'] = [(1, ['a'])] := by
  decide +kernel

end LineTemplates.CaseFile
