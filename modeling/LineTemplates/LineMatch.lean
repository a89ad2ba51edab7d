import LineTemplates.Argument
import LineTemplates.Text.Quoted

/-! What a line turned out to be: the name of the template that it matches and the arguments taken from it. -/

namespace LineTemplates

structure LineMatch where
  template : Text
  arguments : List Text
deriving DecidableEq, Repr

namespace LineMatch

def display (found : LineMatch) : Text :=
  found.template ++ '(' :: Text.commaSeparated (found.arguments.map Text.quoted) ++ [')']

def argument (index : Nat) (found : LineMatch) : Except ConversionError Text :=
  match found.arguments[index]? with
  | some text => .ok text
  | none => .error (.missingArgument index)

def boolArgument (index : Nat) (found : LineMatch) : Except ConversionError Bool :=
  found.argument index >>= Argument.toBool

def integerArgument (type : IntegerType) (index : Nat) (found : LineMatch) : Except ConversionError Int :=
  found.argument index >>= Argument.toInteger type

def binary64Argument (index : Nat) (found : LineMatch) : Except ConversionError Binary :=
  found.argument index >>= Argument.toBinary64

def binary32Argument (index : Nat) (found : LineMatch) : Except ConversionError Binary :=
  found.argument index >>= Argument.toBinary32

end LineMatch

end LineTemplates
