import LineTemplates.Number.Integer

/-! Arguments: texts taken from a line or put in by a template. An argument has no type of its own; each reader
converts it anew and says why it cannot. -/

namespace LineTemplates

inductive ConversionError where
  | invalid (text : Text) (target : String)
  | outOfRange (text : Text) (target : String)
  | missingArgument (index : Nat)
deriving DecidableEq, Repr

def ConversionError.message : ConversionError → String
  | invalid text target => s!"cannot convert \"{text.str}\" to {target}"
  | outOfRange text target => s!"\"{text.str}\" is out of range for {target}"
  | missingArgument index => s!"argument index {index} out of bounds"

namespace Argument

def affirmations : List Text := [['t', 'r', 'u', 'e'], ['o', 'n'], ['1'], ['y', 'e', 's']]

def denials : List Text := [['f', 'a', 'l', 's', 'e'], ['o', 'f', 'f'], ['0'], ['n', 'o']]

def toBool (text : Text) : Except ConversionError Bool :=
  if text ∈ affirmations then .ok true
  else if text ∈ denials then .ok false
  else .error (.invalid text "bool")

def toBinary (target : String) (text : Text) : Except ConversionError Binary :=
  match Decimal.read? text with
  | some decimal => .ok (Binary.ofDecimal decimal)
  | none => .error (.invalid text target)

def toBinary64 (text : Text) : Except ConversionError Binary := toBinary "f64" text

def toBinary32 (text : Text) : Except ConversionError Binary := binary32.round <$> toBinary "f32" text

def toInteger (type : IntegerType) (text : Text) : Except ConversionError Int := do
  let value ← toBinary type.name text
  match type.ofBinary? value with
  | some whole => .ok whole
  | none => .error (.outOfRange text type.name)

def negated (text : Text) : Text := '-' :: text

def signMarker : Text := ['_', 'm', 'i', 'n', 'u', 's']

/-- The arguments with every marker folded into its successor. A marker at the end stays. -/
def foldSigns : List Text → List Text
  | [] => []
  | [last] => [last]
  | first :: second :: more =>
    if first = signMarker then negated second :: foldSigns more else first :: foldSigns (second :: more)

end Argument

end LineTemplates
