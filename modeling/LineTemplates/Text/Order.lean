import LineTemplates.Text

/-! The order of texts by the code points of their characters, and the order of paths part by part. -/

namespace LineTemplates.Text

def inOrder {α : Type} [DecidableEq α] (lower : α → α → Bool) : List α → List α → Bool
  | [], _ => true
  | _ :: _, [] => false
  | first :: firsts, second :: seconds => if first = second then inOrder lower firsts seconds else lower first second

def lowerChar (first second : Char) : Bool := first.toNat < second.toNat

def notAfter (first second : Text) : Bool := inOrder lowerChar first second

def pathNotAfter (first second : List Text) : Bool := inOrder notAfter first second

end LineTemplates.Text
