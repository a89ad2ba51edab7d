import LineTemplates.TemplateSet
import LineTemplates.Text.Lines

/-! Case files: templates and expectations in TOML between two delimiters, and the lines to try after them. -/

namespace LineTemplates

structure Expectation where
  template : Option Text
  arguments : Option (List Text)
  noMatch : Bool
  error : Bool
deriving DecidableEq, Repr

structure CaseHeader where
  description : Option Text
  templates : List TemplateEntry
  expectsGrammarError : Bool
  expectations : List Expectation
deriving DecidableEq, Repr

inductive FrontmatterError where
  | missingOpening
  | missingClosing
  | toml (error : TomlError)
deriving DecidableEq, Repr

def FrontmatterError.message [TomlDecoder] : FrontmatterError → String
  | missingOpening => "missing opening --- frontmatter delimiter"
  | missingClosing => "missing closing --- frontmatter delimiter"
  | toml error => s!"TOML parse error: {error.message}"

namespace Expectation

def fieldNames : List Text := [
  ['t', 'e', 'm', 'p', 'l', 'a', 't', 'e'],
  ['a', 'r', 'g', 's'],
  ['n', 'o', '_', 'm', 'a', 't', 'c', 'h'],
  ['e', 'r', 'r', 'o', 'r']]

def texts? (value : Toml.Value) : Option (List Text) := value.items? >>= List.mapM Toml.Value.string?

def ofToml? (value : Toml.Value) : Option Expectation := do
  let fields ← value.fields? fieldNames
  let template ← fields.optional? "template" Toml.Value.string?
  let arguments ← fields.optional? "args" texts?
  let noMatch ← fields.getD "no_match" Toml.Value.boolean? false
  let error ← fields.getD "error" Toml.Value.boolean? false
  return ⟨template, arguments, noMatch, error⟩

end Expectation

def CaseHeader.ofToml? (table : Toml.Table) : Option CaseHeader := do
  let description ← table.optional? "description" Toml.Value.string?
  let templates ← TemplateEntry.listOfToml? table
  let expectsGrammarError ← table.getD "expect_grammar_error" Toml.Value.boolean? false
  let expectations ← table.list? "expect" Expectation.ofToml?
  return ⟨description, templates, expectsGrammarError, expectations⟩

inductive Mismatch where
  | refused (error : LineError)
  | accepted
  | unmatched (template : Option Text)
  | matched (found : LineMatch)
  | otherTemplate (expected : Text) (found : LineMatch)
  | otherArguments (expected actual : List Text)
deriving DecidableEq, Repr

def Mismatch.message : Mismatch → String
  | refused error => s!"unexpected error: {error.message}"
  | accepted => "expected an error, but the line was accepted"
  | unmatched (some name) => s!"expected template `{name.str}`, but nothing matched"
  | unmatched none => "nothing matched"
  | matched found => s!"expected no match, got {found.display.str}"
  | otherTemplate expected found => s!"expected template `{expected.str}`, got {found.display.str}"
  | otherArguments expected actual =>
    let wanted := (Text.quotedList expected).str
    let taken := (Text.quotedList actual).str
    s!"argument mismatch\n  expected: {wanted}\n  actual:   {taken}"

inductive CaseFailure where
  | unreadable (error : FileError)
  | frontmatter (error : FrontmatterError)
  /-- A grammar error is expected, but every template compiles. -/
  | compiled
  | grammar (errors : List TemplateError)
  | lineCount (lines expectations : Nat)
  | line (number : Nat) (text : Text) (mismatch : Mismatch)
deriving DecidableEq, Repr

def CaseFailure.message [TomlDecoder] : CaseFailure → String
  | unreadable error => s!"cannot read file: {error.message}"
  | frontmatter error => s!"frontmatter error: {error.message}"
  | compiled => "expected a grammar error, but every template compiled"
  | grammar errors =>
    let displays := "; ".intercalate (errors.map TemplateError.display)
    s!"unexpected grammar error: {displays}"
  | lineCount lines expectations => s!"{lines} input line(s) but {expectations} expectation(s)"
  | line number text mismatch => s!"line {number} `{text.str}`: {mismatch.message}"

structure CaseResult where
  description : Option Text
  failure : Option CaseFailure
deriving DecidableEq, Repr

namespace CaseFile

def delimiter : Text := ['-', '-', '-']

def afterLineEnd (text : Text) : Text :=
  match text with
  | '\n' :: rest => rest
  | '\r' :: '\n' :: rest => rest
  | _ => text

/-- The frontmatter of a file, and its body. Byte order marks may stand before the opening delimiter; the closing
one is the first that begins a line. -/
def split (content : Text) : Except FrontmatterError (Text × Text) :=
  match Text.withoutHead? delimiter (content.dropWhile (· = '\ufeff')) with
  | none => .error .missingOpening
  | some opened =>
    match Text.cutAt? ('\n' :: delimiter) (afterLineEnd opened) with
    | none => .error .missingClosing
    | some (frontmatter, body) => .ok (Text.trimEnd '\r' frontmatter, afterLineEnd body)

def read [TomlDecoder] (content : Text) : Except FrontmatterError (CaseHeader × Text) := do
  let (frontmatter, body) ← split content
  match readToml CaseHeader.ofToml? frontmatter with
  | .ok header => return (header, body)
  | .error error => throw (.toml error)

def bodyLines (body : Text) : List (Nat × Text) := Text.numberedLines (Text.lines body)

def matchMismatch? (expected : Expectation) (found : LineMatch) : Option Mismatch :=
  match expected.template.filter (· ≠ found.template), expected.arguments.filter (· ≠ found.arguments) with
  | some name, _ => some (.otherTemplate name found)
  | none, some arguments => some (.otherArguments arguments found.arguments)
  | none, none => none

def mismatch? (result : Except LineError (Option LineMatch)) (expected : Expectation) : Option Mismatch :=
  match result with
  | .error error => if expected.error then none else some (.refused error)
  | .ok answer =>
    if expected.error then some .accepted
    else match answer with
      | none => if expected.noMatch then none else some (.unmatched expected.template)
      | some found => if expected.noMatch then some (.matched found) else matchMismatch? expected found

def firstMismatch? (registry : Registry) : List (Nat × Text) → List Expectation → Option CaseFailure
  | (number, line) :: lines, expected :: expectations =>
    match mismatch? (registry.parseLine line) expected with
    | some mismatch => some (.line number line mismatch)
    | none => firstMismatch? registry lines expectations
  | _, _ => none

def bodyFailure? (registry : Registry) (body : Text) (expectations : List Expectation) : Option CaseFailure :=
  let lines := bodyLines body
  if lines.length ≠ expectations.length then some (.lineCount lines.length expectations.length)
  else firstMismatch? registry lines expectations

def failure? (header : CaseHeader) (body : Text) : Option CaseFailure :=
  match header.expectsGrammarError, TemplateSet.compile header.templates with
  | true, .error _ => none
  | true, .ok _ => some .compiled
  | false, .error errors => some (.grammar (errors.map (·.2)))
  | false, .ok registry => bodyFailure? registry body header.expectations

def run [TomlDecoder] (found : Found) : CaseResult :=
  match found.text with
  | .error error => ⟨none, some (.unreadable error)⟩
  | .ok content =>
    match read content with
    | .error error => ⟨none, some (.frontmatter error)⟩
    | .ok (header, body) => ⟨header.description, failure? header body⟩

end CaseFile

end LineTemplates
