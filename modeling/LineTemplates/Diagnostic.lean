import LineTemplates.Text

/-! Diagnostics: what is said of the fault of a template, and where. How a diagnostic is shown is up to a renderer. -/

namespace LineTemplates

/-- A message about some bytes of a source, with notes under it. The source goes by the name of a file. -/
structure Diagnostic where
  file : Text
  source : Text
  headline : String
  span : Span
  notes : List String
deriving DecidableEq, Repr

class DiagnosticRenderer where
  lines : Diagnostic → List String

end LineTemplates
