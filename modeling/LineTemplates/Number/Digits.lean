import LineTemplates.Text

/-! Digits, and the numbers that they spell in a base of at most sixteen. -/

namespace LineTemplates.Digits

def value (char : Char) : Nat :=
  if char.isDigit then char.toNat - '0'.toNat else char.toLower.toNat - 'a'.toNat + 10

def natural (base : Nat) (digits : Text) : Nat :=
  digits.foldl (fun number digit => base * number + value digit) 0

def natural? (text : Text) : Option Nat :=
  if text ≠ [] ∧ text.all Char.isDigit then some (natural 10 text) else none

end LineTemplates.Digits
