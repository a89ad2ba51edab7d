import LineTemplates.Number.Binary

/-! Whole numbers of a fixed width. A binary64 number is cut to its whole part and then has to lie between the
bounds of the width, which are themselves compared in binary64. -/

namespace LineTemplates

inductive IntegerType where
  | int8
  | uint8
  | int16
  | uint16
  | int32
  | uint32
  | int64
  | uint64
deriving DecidableEq, Repr

namespace IntegerType

def signed : IntegerType → Bool
  | int8 | int16 | int32 | int64 => true
  | uint8 | uint16 | uint32 | uint64 => false

def width : IntegerType → Nat
  | int8 | uint8 => 8
  | int16 | uint16 => 16
  | int32 | uint32 => 32
  | int64 | uint64 => 64

def name (type : IntegerType) : String :=
  let letter := if type.signed then "i" else "u"
  s!"{letter}{type.width}"

def least (type : IntegerType) : Int := if type.signed then -twoTo (type.width - 1) else 0

def greatest (type : IntegerType) : Int :=
  if type.signed then twoTo (type.width - 1) - 1 else twoTo type.width - 1

def clamp (type : IntegerType) (value : Int) : Int := max type.least (min type.greatest value)

/-- Whether a whole number in units lies below the type's range or past it, as far as binary64 can tell. -/
def excludes (type : IntegerType) (units : Int) : Bool :=
  units < (Binary.ofInt type.least).signedUnits || (Binary.ofInt type.greatest).succ.signedUnits ≤ units

def ofBinary? (type : IntegerType) (value : Binary) : Option Int :=
  let whole := value.truncate
  if type.excludes (whole * unitsInOne) then none else some (type.clamp whole)

end IntegerType

end LineTemplates
