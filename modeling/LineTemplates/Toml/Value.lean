import LineTemplates.Text

/-! Values of a TOML document, and what decodes one. The format is decoded outside of the program: whatever the
decoder is, the program goes by the table that it gives. -/

namespace LineTemplates.Toml

/-- How a table came to be, which decides what may still be added to it. -/
inductive TableOrigin where
  /-- By the header of a table inside it. -/
  | implied
  /-- By a dotted key. -/
  | dotted
  /-- By a header of its own. -/
  | header
  /-- Between braces, where it was completed. -/
  | inline
deriving DecidableEq, Repr

inductive Value where
  | string (text : Text)
  | integer (value : Int)
  /-- A number with a fraction, a power of ten or both, by its digits. -/
  | decimal (spelling : Text)
  /-- A date, a time or both, as they are written. -/
  | moment (spelling : Text)
  | boolean (value : Bool)
  | array (items : List Value)
  /-- The tables that headers in double brackets have begun, the last one first. -/
  | tables (items : List (List (Text × Value)))
  | table (origin : TableOrigin) (entries : List (Text × Value))

abbrev Table := List (Text × Value)

namespace Value

def string? : Value → Option Text
  | string text => some text
  | _ => none

def boolean? : Value → Option Bool
  | boolean value => some value
  | _ => none

def items? : Value → Option (List Value)
  | array items => some items
  | tables items => some (items.reverse.map (table .header))
  | _ => none

def fields? (names : List Text) : Value → Option Table
  | table _ entries => some entries
  | array items => some (names.zip items)
  -- A moment is taken for a table without any of the names.
  | moment _ => some []
  | _ => none

end Value

namespace Table

def getD {α : Type} (key : String) (read : Value → Option α) (default : α) (table : Table) : Option α :=
  match table.lookup key.toList with
  | some value => read value
  | none => some default

def get? {α : Type} (key : String) (read : Value → Option α) (table : Table) : Option α :=
  table.lookup key.toList >>= read

def optional? {α : Type} (key : String) (read : Value → Option α) (table : Table) : Option (Option α) :=
  table.getD key (fun value => some <$> read value) none

def list? {α : Type} (key : String) (read : Value → Option α) (table : Table) : Option (List α) :=
  table.getD key (fun value => value.items? >>= List.mapM read) []

end Table

end LineTemplates.Toml

namespace LineTemplates

inductive TomlError where
  /-- The text is not a document. -/
  | malformed
  /-- A value is missing or is not of the kind that is asked for. -/
  | mistyped
deriving DecidableEq, Repr

/-- The table of a document, and the words for what is wrong with a text. -/
class TomlDecoder where
  table? : Text → Option Toml.Table
  wording : TomlError → String

end LineTemplates
