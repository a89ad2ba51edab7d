import LineTemplates.Number.Digits

/-! Plain decimal notation: a sign, digits, and a fraction that may end in `f`. There is no exponent and no
plus sign, and at least one digit has to be written. -/

namespace LineTemplates

structure Decimal where
  negative : Bool
  digits : Nat
  places : Nat
deriving DecidableEq, Repr

namespace Decimal

def ofDigits? (negative : Bool) (whole fraction : Text) : Option Decimal :=
  (Digits.natural? (whole ++ fraction)).map fun digits => ⟨negative, digits, fraction.length⟩

def readUnsigned? (negative : Bool) (text : Text) : Option Decimal :=
  match Text.cut? '.' text with
  | none => ofDigits? negative text []
  | some (whole, fraction) => ofDigits? negative whole (Text.withoutEnding ['f'] fraction)

def read? : Text → Option Decimal
  | '-' :: text => readUnsigned? true text
  | text => readUnsigned? false text

end Decimal

end LineTemplates
