import LineTemplates.CommandLine
import LineTemplates.Number.Digits

/-! Command lines of switches, options with a value, and operands, as far as a command takes them. -/

namespace LineTemplates

namespace CommandLine

inductive Switch where
  | noColor
  | verbose
  | help
  | version
  | category
  | listCategories
  | intervalMs
  | once
deriving DecidableEq, Repr

namespace Switch

def long : Switch → Text
  | noColor => "no-color".toList
  | verbose => "verbose".toList
  | help => "help".toList
  | version => "version".toList
  | category => "category".toList
  | listCategories => "list-categories".toList
  | intervalMs => "interval-ms".toList
  | once => "once".toList

def short? : Switch → Option Char
  | verbose => some 'v'
  | help => some 'h'
  | version => some 'V'
  | category => some 'c'
  | _ => none

def takesValue : Switch → Bool
  | category => true
  | intervalMs => true
  | _ => false

def repeats : Switch → Bool
  | category => true
  | _ => false

end Switch

inductive Word where
  | switch (switch : Switch)
  | option (switch : Switch) (value : Text)
  | operand (text : Text)
deriving DecidableEq, Repr

def common : List Switch := [.noColor, .verbose, .help]

def switchesOf : CommandName → List Switch
  | .test => common ++ [.category, .listCategories]
  | .watch => common ++ [.intervalMs, .once]
  | _ => common

def mostOperands : CommandName → Nat
  | .parse => 2
  | .watch => 2
  | _ => 1

def isSwitch (argument : Text) : Bool := argument.head? = some '-' && argument ≠ ['-']

inductive Ending where
  | nothing
  /-- An option that lacks its value. -/
  | option (switch : Switch)
  | stopped (error : UsageError)
deriving DecidableEq, Repr

def readLetters (known : List Switch) : Text → List Word × Ending
  | [] => ([], .nothing)
  | letter :: rest =>
    match known.find? fun switch => switch.short? = some letter with
    | none => ([], .stopped .wrong)
    | some switch =>
      if switch ∈ [.help, .version] then ([], .stopped .help)
      else if switch.takesValue then
        match rest with
        | [] => ([], .option switch)
        | '=' :: value => ([.option switch value], .nothing)
        | value => ([.option switch value], .nothing)
      else
        let (words, ending) := readLetters known rest
        (.switch switch :: words, ending)

def readLong (known : List Switch) (text : Text) : List Word × Ending :=
  let (name, value) := match Text.cut? '=' text with
    | some (name, value) => (name, some value)
    | none => (text, none)
  match known.find? fun switch => switch.long = name with
  | none => ([], .stopped .wrong)
  | some switch =>
    match switch.takesValue, value with
    | true, some value => ([.option switch value], .nothing)
    | true, none => ([], .option switch)
    | false, some _ => ([], .stopped .wrong)
    | false, none =>
      if switch ∈ [.help, .version] then ([], .stopped .help) else ([.switch switch], .nothing)

def readSwitch (known : List Switch) : Text → List Word × Ending
  | '-' :: '-' :: long => readLong known long
  | _ :: letters => readLetters known letters
  | [] => ([], .stopped .wrong)

/-- The words of a command, and the error that reading stops at. After two hyphens alone every argument is an
operand. -/
def readWords (known : List Switch) : List Text → List Word × Option UsageError
  | [] => ([], none)
  | argument :: rest =>
    if argument = ['-', '-'] then (rest.map Word.operand, none)
    else if !isSwitch argument then
      let (more, error) := readWords known rest
      (.operand argument :: more, error)
    else
      let (words, ending) := readSwitch known argument
      match ending with
      | .stopped error => (words, some error)
      | .nothing =>
        let (more, error) := readWords known rest
        (words ++ more, error)
      | .option switch =>
        match rest with
        | [] => (words, some .wrong)
        | value :: later =>
          if isSwitch value then (words, some .wrong)
          else
            let (more, error) := readWords known later
            (words ++ .option switch value :: more, error)

def switchOf? : Word → Option Switch
  | .switch switch => some switch
  | .option switch _ => some switch
  | .operand _ => none

def isSingular (words : List Word) : Bool :=
  let once := (words.filterMap switchOf?).filter fun switch => !switch.repeats
  once.eraseDups = once

def operands (words : List Word) : List Text :=
  words.filterMap fun
    | .operand text => some text
    | _ => none

def valuesOf (switch : Switch) (words : List Word) : List Text :=
  words.filterMap fun
    | .option other value => if other = switch then some value else none
    | _ => none

def greatestInterval : Nat := 18446744073709551615

def milliseconds? (text : Text) : Option Nat :=
  let digits : Text := match text with
    | '+' :: digits => digits
    | digits => digits
  (Digits.natural? digits).filter (· ≤ greatestInterval)

def defaultInterval : Nat := 500

def interval (words : List Word) : Nat :=
  ((valuesOf .intervalMs words).head? >>= milliseconds?).getD defaultInterval

/-- Whether words stand as they may, whatever follows them: switches at most once, numbers where they are asked
for, and operands that are not empty and not too many. -/
def areRight (name : CommandName) (words : List Word) : Bool :=
  isSingular words
    && (valuesOf .intervalMs words).all (fun value => (milliseconds? value).isSome)
    && (operands words).all (fun text => text ≠ [])
    && (operands words).length ≤ mostOperands name

def commandOf (name : CommandName) (words : List Word) : Except UsageError Command :=
  let has (switch : Switch) : Bool := words.contains (.switch switch)
  match name, operands words with
  | .check, [templates] => .ok (.check templates)
  | .parse, [templates] => .ok (.parse templates none)
  | .parse, [templates, input] => .ok (.parse templates (some input))
  | .test, [path] => .ok (.test path (valuesOf .category words) (has .listCategories))
  | .watch, [templates, input] => .ok (.watch templates input (interval words) (has .once))
  | _, _ => .error .wrong

def helpFor : List Text → UsageError
  | [] => .help
  | [name] => if (CommandName.ofText? name).isSome then .help else .wrong
  | _ => .wrong

def readCommand (name : CommandName) (leading : List Word) (arguments : List Text) :
    Except UsageError Invocation := do
  if name = .help then throw (helpFor arguments)
  let (words, error) := readWords (switchesOf name) arguments
  -- What is wrong before a request for help goes first.
  if !areRight name words then throw .wrong
  if let some error := error then throw error
  let command ← commandOf name words
  return ⟨(leading ++ words).contains (.switch .noColor), command⟩

def readFrom (leading : List Word) : List Text → Except UsageError Invocation
  | [] => .error .wrong
  | argument :: rest =>
    if argument = ['-', '-'] then .error .wrong
    else if isSwitch argument then do
      let (words, ending) := readSwitch (common ++ [.version]) argument
      if !isSingular (leading ++ words) then throw .wrong
      if let .stopped error := ending then throw error
      readFrom (leading ++ words) rest
    else match CommandName.ofText? argument with
      | some name => readCommand name leading rest
      | none => .error .wrong

def usage : List String := [
  "usage: [--no-color] [--verbose] COMMAND",
  "  check TEMPLATES",
  "  [parse] TEMPLATES [INPUT]",
  "  test PATH [--category NAME]... [--list-categories]",
  "  watch TEMPLATES INPUT [--interval-ms NUMBER] [--once]"]

instance : ArgumentParser := ⟨readFrom [], usage⟩

end CommandLine

end LineTemplates
