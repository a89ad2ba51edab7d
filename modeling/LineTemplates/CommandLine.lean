import LineTemplates.Text

/-! The command line: what may be asked for, and the command that is meant where none is named. The words of a command
line are told apart outside of the program: whatever the parser is, the program performs the command that it gives. -/

namespace LineTemplates

inductive Command where
  | check (templates : Text)
  | parse (templates : Text) (input : Option Text)
  | test (path : Text) (categories : List Text) (listOnly : Bool)
  | watch (templates input : Text) (interval : Nat) (once : Bool)
deriving DecidableEq, Repr

structure Invocation where
  plain : Bool
  command : Command
deriving DecidableEq, Repr

inductive UsageError where
  | help
  | wrong
deriving DecidableEq, Repr

/-- The command that some arguments ask for, and what is said of how to ask. -/
class ArgumentParser where
  parse : List Text → Except UsageError Invocation
  usage : List String

inductive CommandName where
  | check
  | parse
  | test
  | watch
  | help
deriving DecidableEq, Repr

def CommandName.ofText? (text : Text) : Option CommandName :=
  [("check", check), ("parse", parse), ("test", test), ("watch", watch), ("help", help)].lookup text.str

namespace CommandLine

/-- The arguments with the name `parse` before the first one that does not begin with a hyphen, unless that is the
name of a command. -/
def withCommand : List Text → List Text
  | [] => []
  | argument :: rest =>
    if argument.head? = some '-' then argument :: withCommand rest
    else if (CommandName.ofText? argument).isSome then argument :: rest
    else "parse".toList :: argument :: rest

def read [ArgumentParser] (arguments : List Text) : Except UsageError Invocation :=
  ArgumentParser.parse (withCommand arguments)

end CommandLine

end LineTemplates
