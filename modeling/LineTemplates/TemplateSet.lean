import LineTemplates.Folder
import LineTemplates.Registry
import LineTemplates.Toml.Document

/-! Template sets: the named sources of a TOML file, in order of priority. A set is compiled as a whole or not at
all. -/

namespace LineTemplates

structure TemplateEntry where
  name : Text
  source : Text
deriving DecidableEq, Repr

def TomlError.message [TomlDecoder] (error : TomlError) : String := TomlDecoder.wording error

def readToml [TomlDecoder] {α : Type} (read : Toml.Table → Option α) (text : Text) : Except TomlError α :=
  match TomlDecoder.table? text with
  | none => .error .malformed
  | some table =>
    match read table with
    | none => .error .mistyped
    | some value => .ok value

namespace TemplateEntry

def ofToml? (value : Toml.Value) : Option TemplateEntry := do
  let fields ← value.fields? [['n', 'a', 'm', 'e'], ['s', 'y', 'n', 't', 'a', 'x']]
  let name ← fields.get? "name" Toml.Value.string?
  let source ← fields.get? "syntax" Toml.Value.string?
  return ⟨name, source⟩

def listOfToml? (table : Toml.Table) : Option (List TemplateEntry) := table.list? "template" ofToml?

end TemplateEntry

inductive LoadError where
  | unreadable (path : Text) (error : FileError)
  | toml (path : Text) (error : TomlError)
deriving DecidableEq, Repr

def LoadError.message [TomlDecoder] : LoadError → String
  | unreadable path error => s!"cannot read '{path.str}': {error.message}"
  | toml path error => s!"TOML parse error in '{path.str}': {error.message}"

namespace TemplateSet

def load [TomlDecoder] (path : Text) (found : Found) : Except LoadError (List TemplateEntry) :=
  match found.text with
  | .error error => .error (.unreadable path error)
  | .ok text =>
    match readToml TemplateEntry.listOfToml? text with
    | .error error => .error (.toml path error)
    | .ok entries => .ok entries

/-- Registers the entries one after the other, the first one under the given number. The faults are those of the
entries that are left out. -/
def registerAll (number : Nat) (registry : Registry) :
    List TemplateEntry → Registry × List (Nat × TemplateError)
  | [] => (registry, [])
  | entry :: entries =>
    match registry.register entry.name entry.source with
    | .ok grown => registerAll (number + 1) grown entries
    | .error error =>
      let (grown, errors) := registerAll (number + 1) registry entries
      (grown, (number, error) :: errors)

def compile (entries : List TemplateEntry) : Except (List (Nat × TemplateError)) Registry :=
  match registerAll 0 .empty entries with
  | (registry, []) => .ok registry
  | (_, errors) => .error errors

end TemplateSet

end LineTemplates
