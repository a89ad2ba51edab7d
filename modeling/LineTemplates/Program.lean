import LineTemplates.CaseFile.Suite
import LineTemplates.CommandLine.Switches
import LineTemplates.Diagnostic.Snippet
import LineTemplates.Watch

/-! The program: what each command prints and how it exits, for the files that it finds. -/

namespace LineTemplates

structure Transcript where
  output : List String
  errors : List String
deriving DecidableEq, Repr

namespace Transcript

def empty : Transcript := ⟨[], []⟩

def append (first second : Transcript) : Transcript :=
  ⟨first.output ++ second.output, first.errors ++ second.errors⟩

instance : Append Transcript := ⟨append⟩

def ofErrors (errors : List String) : Transcript := ⟨[], errors⟩

def joined (lines : List String) : String := String.join (lines.map (· ++ "\n"))

end Transcript

structure Outcome where
  code : Nat
  transcript : Transcript
deriving DecidableEq, Repr

structure Files where
  find : Text → Found
  modified : Text → Int

namespace Program

def errorLine (message : String) : String := s!"error: {message}"

def fails (errors : List String) : Outcome := ⟨1, .ofErrors errors⟩

def diagnostic (path : Text) (entry : TemplateEntry) (error : TemplateError) : Diagnostic :=
  ⟨path ++ ['['] ++ entry.name ++ [']'], entry.source, error.headline, error.span, error.notes⟩

def diagnostics (path : Text) (entries : List TemplateEntry) (errors : List (Nat × TemplateError)) : List Diagnostic :=
  errors.filterMap fun (number, error) => entries[number]?.map fun entry => diagnostic path entry error

section Performing

variable [TomlDecoder] [DiagnosticRenderer]

def diagnosticLines (path : Text) (entries : List TemplateEntry) (errors : List (Nat × TemplateError)) : List String :=
  (diagnostics path entries errors).flatMap DiagnosticRenderer.lines

def loadRegistry (files : Files) (path : Text) : Except (List String) Registry :=
  match TemplateSet.load path (files.find path) with
  | .error error => .error [errorLine error.message]
  | .ok entries =>
    match TemplateSet.compile entries with
    | .error errors => .error (diagnosticLines path entries errors)
    | .ok registry => .ok registry

def check (files : Files) (templates : Text) : Outcome :=
  match loadRegistry files templates with
  | .error lines => fails lines
  | .ok registry =>
    ⟨0, .ofErrors [s!"ok: {registry.size} template(s) compiled from {templates.str}"]⟩

structure LineReport where
  number : Nat
  line : Text
  result : Except LineError (Option LineMatch)

namespace LineReport

def output? (report : LineReport) : Option String :=
  match report.result with
  | .ok (some found) => some found.display.str
  | .ok none => some s!"(no match) {report.line.str}"
  | .error _ => none

def error? (report : LineReport) : Option String :=
  match report.result with
  | .ok _ => none
  | .error error => some s!"line {report.number}: {error.message}"

end LineReport

/-- The lines of an input that are looked at, with their numbers. No line keeps a carriage return at its end. -/
def inputLines (input : Text) : List (Nat × Text) :=
  Text.numberedLines ((Text.lines input).map (Text.trimEnd '\r'))

def lineReports (registry : Registry) (input : Text) : List LineReport :=
  (inputLines input).map fun (number, line) => ⟨number, line, registry.parseLine line⟩

def matchTranscript (reports : List LineReport) : Transcript :=
  ⟨reports.filterMap LineReport.output?, reports.filterMap LineReport.error?⟩

def readInput (files : Files) (standardInput : ByteArray) : Option Text → Except String Text
  | some path => (files.find path).text.mapError fun error => s!"cannot read '{path.str}': {error.message}"
  | none => (decodeText standardInput).mapError fun error => s!"cannot read stdin: {error.message}"

def parse (files : Files) (standardInput : ByteArray) (templates : Text) (input : Option Text) : Outcome :=
  match loadRegistry files templates with
  | .error lines => fails lines
  | .ok registry =>
    match readInput files standardInput input with
    | .error message => fails [errorLine message]
    | .ok text =>
      let transcript := matchTranscript (lineReports registry text)
      ⟨if transcript.errors.isEmpty then 0 else 1, transcript⟩

def paint (plain : Bool) (code text : String) : String :=
  if plain then text else s!"\x1b[{code}m{text}\x1b[0m"

def caseLine (plain : Bool) (report : CaseReport) : String :=
  let verdict := if report.passed then paint plain "32" "PASS" else paint plain "31" "FAIL"
  s!"  {verdict}  {report.label.str}"

def groupLines (plain : Bool) (group : GroupReport) : List String :=
  let heading := match group.heading with
    | some name => ["", paint plain "1" name.str]
    | none => []
  heading ++ group.cases.map (caseLine plain)

def failureLines (report : CaseReport) : List String :=
  match report.failure with
  | none => []
  | some failure =>
    let reason := Text.lines failure.message.toList
    ["", s!"  --- {report.path.str} ---"] ++ reason.map fun line => s!"  {Text.str line}"

def summaryLine (plain : Bool) (passed failed : Nat) : String :=
  if failed = 0 then
    let verdict := paint plain "32" "ok"
    s!"test result: {verdict}. {passed} passed, 0 failed"
  else
    let verdict := paint plain "31" "FAILED"
    s!"test result: {verdict}. {passed} passed, {failed} failed (of {passed + failed})"

def suiteOutcome (plain : Bool) (groups : List GroupReport) : Outcome :=
  let cases := groups.flatMap GroupReport.cases
  let failures := cases.filter (!·.passed)
  let passed := cases.length - failures.length
  let details := if failures.isEmpty then [] else ["", "failures:"] ++ failures.flatMap failureLines
  let lines := groups.flatMap (groupLines plain) ++ details ++ ["", summaryLine plain passed failures.length]
  ⟨if failures.isEmpty then 0 else 1, .ofErrors lines⟩

def noCasesLine (path : Text) : String := s!"no {Suite.caseEnding.str} files found in {path.str}"

def headings (categories : List Category) : List Text := categories.map fun category => Suite.heading category.name

def warningLine (categories : List Category) (request : Text) : String :=
  let available := Text.commaSeparated (headings categories)
  s!"warning: category '{request.str}' not found (available: {available.str})"

def categoriesAt (files : Files) (path : Text) : List Category :=
  match files.find path with
  | .folder inner => Suite.categories path inner
  | _ => []

def listCategories (files : Files) (path : Text) : Outcome :=
  let line (category : Category) : String :=
    s!"  {(Suite.heading category.name).str} ({category.cases.length} cases)"
  let categories := categoriesAt files path
  let lines :=
    if (files.find path).isFile then ["(single file, no categories)"]
    else if categories.isEmpty then [noCasesLine path]
    else "available categories:" :: categories.map line
  ⟨0, .ofErrors lines⟩

def test (files : Files) (plain : Bool) (path : Text) (requests : List Text) : Outcome :=
  match files.find path with
  | .file content => suiteOutcome plain [.ofFile path content]
  | _ =>
    let categories := categoriesAt files path
    let (selected, idle) := Suite.select categories requests
    let warnings := idle.map (warningLine categories)
    if categories.isEmpty then fails [noCasesLine path]
    else if selected.isEmpty then fails (warnings ++ ["no matching categories found"])
    else
      let outcome := suiteOutcome plain (selected.map (GroupReport.ofCategory path))
      ⟨outcome.code, .ofErrors warnings ++ outcome.transcript⟩

inductive WatchedPart where
  | templates
  | input
deriving DecidableEq, Repr

structure WatchDesk where
  files : Files
  registry : Registry
  input : Text
  /-- Something has been loaded since the last round of matching. -/
  changed : Bool
  errors : List String

namespace WatchDesk

def loadTemplates (path : Text) (desk : WatchDesk) : Except LoaderError Unit × WatchDesk :=
  match TemplateSet.load path (desk.files.find path) with
  | .error error => (.error (.failed error.message), desk)
  | .ok entries =>
    match TemplateSet.compile entries with
    | .ok registry => (.ok (), { desk with registry := registry, changed := true })
    | .error errors => (.error .declined, { desk with errors := desk.errors ++ diagnosticLines path entries errors })

def loadInput (path : Text) (desk : WatchDesk) : Except LoaderError Unit × WatchDesk :=
  match (desk.files.find path).text with
  | .error error => (.error (.failed error.message), desk)
  | .ok text => (.ok (), { desk with input := text, changed := true })

end WatchDesk

instance : WatchHost WatchedPart WatchDesk where
  modified path desk :=
    (if (desk.files.find path).exists? then some (desk.files.modified path) else none, desk)
  load part path desk :=
    let (answer, loaded) := match part with
      | .templates => desk.loadTemplates path
      | .input => desk.loadInput path
    (answer, part, loaded)

structure WatchSession where
  list : WatchList WatchedPart
  desk : WatchDesk

namespace WatchSession

def begin (files : Files) (templates input : Text) : Except WatchError WatchSession := do
  let desk : WatchDesk := ⟨files, .empty, [], false, []⟩
  let first := WatchList.empty.register templates WatchedPart.templates false desk
  discard first.result
  let second := first.list.register input WatchedPart.input false first.world
  discard second.result
  return ⟨second.list, second.world⟩

/-- One poll of the files, and the matches of all lines if anything has been loaded. The session ends with an
outcome if a file cannot be loaded. -/
def round (files : Files) (session : WatchSession) : Transcript × Except Outcome WatchSession :=
  let polled := session.list.poll { session.desk with files := files, errors := [] }
  let desk := polled.world
  match polled.result with
  | .error error => (.ofErrors desk.errors, .error (fails [errorLine error.message]))
  | .ok _ =>
    let rendered :=
      if desk.changed then matchTranscript (lineReports desk.registry desk.input) ++ ⟨["--"], []⟩ else .empty
    (.ofErrors desk.errors ++ rendered, .ok ⟨polled.list, { desk with changed := false }⟩)

end WatchSession

def watchOnce (files : Files) (templates input : Text) : Outcome :=
  match WatchSession.begin files templates input with
  | .error error => fails [errorLine error.message]
  | .ok session =>
    match session.round files with
    | (transcript, .ok _) => ⟨0, transcript⟩
    | (transcript, .error outcome) => ⟨outcome.code, transcript ++ outcome.transcript⟩

/-- Runs a command. Watching ends after one round here, whether or not it is asked to. -/
def perform (files : Files) (standardInput : ByteArray) (invocation : Invocation) : Outcome :=
  match invocation.command with
  | .check templates => check files templates
  | .parse templates input => parse files standardInput templates input
  | .test path _ true => listCategories files path
  | .test path categories false => test files invocation.plain path categories
  | .watch templates input _ _ => watchOnce files templates input

end Performing

section Running

variable [ArgumentParser]

def refuse : UsageError → Outcome
  | .help => ⟨0, ⟨ArgumentParser.usage, []⟩⟩
  | .wrong => ⟨2, .ofErrors ArgumentParser.usage⟩

def run [TomlDecoder] [DiagnosticRenderer] (files : Files) (standardInput : ByteArray) (arguments : List Text) : Outcome :=
  match CommandLine.read arguments with
  | .error error => refuse error
  | .ok invocation => perform files standardInput invocation

end Running

end Program

end LineTemplates
