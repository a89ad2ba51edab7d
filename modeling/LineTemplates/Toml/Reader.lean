import LineTemplates.Number.Binary
import LineTemplates.Toml.Value

/-! The words of TOML: blanks and comments, strings, numbers, times and keys. Every reader takes its word from the
front of a text and leaves the rest, or fails. -/

namespace LineTemplates.Toml

abbrev Reader := StateT Text Option

namespace Reader

def peek? : Reader (Option Char) := do return (← get).head?

def accept (expected : Text) : Reader Bool := do
  let text ← get
  if expected.isPrefixOf text then
    set (text.drop expected.length)
    return true
  else return false

def expect (expected : Text) : Reader Unit := do
  unless ← accept expected do failure

def oneOf (test : Char → Bool) : Reader Char := do
  match ← get with
  | char :: rest => if test char then (do set rest; return char) else failure
  | [] => failure

def many (test : Char → Bool) : Reader Text := do
  let text ← get
  let taken := text.takeWhile test
  set (text.drop taken.length)
  return taken

def exactly (count : Nat) (test : Char → Bool) : Reader Text := do
  let text ← get
  let taken := text.take count
  if taken.length = count ∧ taken.all test then
    set (text.drop count)
    return taken
  else failure

def atEnd : Reader Bool := do return (← get).isEmpty

end Reader

open Reader

def isBlank (char : Char) : Bool := char == ' ' || char == '\t'

def isPlain (char : Char) : Bool := char == '\t' || (' ' ≤ char && char ≠ '\x7f')

def blanks : Reader Unit := discard (many isBlank)

def newline : Reader Bool := do
  if ← accept ['\n'] then return true else accept ['\r', '\n']

def comment : Reader Unit := do
  if ← accept ['#'] then discard (many isPlain)

def lineEnd : Reader Unit := do
  blanks
  comment
  unless ← atEnd do
    unless ← newline do failure

def gaps : Nat → Reader Unit
  | 0 => pure ()
  | limit + 1 => do
    blanks
    comment
    if ← newline then gaps limit

def isHexDigit (char : Char) : Bool := char.isDigit || ('a' ≤ char.toLower && char.toLower ≤ 'f')

def codePoint (digits : Nat) : Reader Char := do
  let point := Digits.natural 16 (← exactly digits isHexDigit)
  if point.isValidChar then return Char.ofNat point else failure

def escape : Reader Char := do
  match ← oneOf fun _ => true with
  | 'b' => return '\x08'
  | 't' => return '\t'
  | 'n' => return '\n'
  | 'f' => return '\x0c'
  | 'r' => return '\r'
  | '"' => return '"'
  | '\\' => return '\\'
  | 'u' => codePoint 4
  | 'U' => codePoint 8
  | _ => failure

def stringRest (basic : Bool) (mark : Char) : Nat → Reader Text
  | 0 => failure
  | limit + 1 => do
    let char ← oneOf isPlain
    if char = mark then return []
    let meant ← if basic && char == '\\' then escape else pure char
    return meant :: (← stringRest basic mark limit)

def space : Nat → Reader Unit
  | 0 => pure ()
  | limit + 1 => do
    blanks
    if ← newline then space limit

def longStringRest (basic : Bool) (mark : Char) : Nat → Reader Text
  | 0 => failure
  | limit + 1 => do
    if ← accept [mark, mark, mark] then
      let more ← many (· = mark)
      if more.length ≤ 2 then return more else failure
    else if ← newline then return '\n' :: (← longStringRest basic mark limit)
    else
      let char ← oneOf isPlain
      if basic && char == '\\' then
        match ← optional (do blanks; unless ← newline do failure) with
        | some _ => do
          space limit
          longStringRest basic mark limit
        | none => do
          let meant ← escape
          return meant :: (← longStringRest basic mark limit)
      else return char :: (← longStringRest basic mark limit)

def string (basic : Bool) (mark : Char) : Reader Text := do
  let limit := (← get).length + 1
  if ← accept [mark, mark, mark] then
    discard newline
    longStringRest basic mark limit
  else
    expect [mark]
    stringRest basic mark limit

def isBareKey (char : Char) : Bool := char.isAlphanum || char == '-' || char == '_'

def simpleKey : Reader Text := do
  match ← peek? with
  | some '"' => do
    let limit := (← get).length + 1
    expect ['"']
    stringRest true '"' limit
  | some '\'' => do
    let limit := (← get).length + 1
    expect ['\'']
    stringRest false '\'' limit
  | _ => do
    let key ← many isBareKey
    if key = [] then failure else return key

def moreKeys : Nat → Reader (List Text)
  | 0 => failure
  | limit + 1 => do
    blanks
    if ← accept ['.'] then
      blanks
      let key ← simpleKey
      return key :: (← moreKeys limit)
    else return []

def greatestDepth : Nat := 79

def dottedKey : Reader (List Text) := do
  let limit := (← get).length + 1
  let first ← simpleKey
  let keys := first :: (← moreKeys limit)
  if greatestDepth < keys.length then failure else return keys

def groupedDigits (test : Char → Bool) : Nat → Reader Text
  | 0 => failure
  | limit + 1 => do
    let digits ← many test
    if digits = [] then failure
    if ← accept ['_'] then return digits ++ (← groupedDigits test limit) else return digits

def digitGroups (test : Char → Bool) : Reader Text := do groupedDigits test ((← get).length + 1)

def integerLimit : Nat := 9223372036854775808

def basedInteger : Reader Value := do
  expect ['0']
  let (base, test) ← match ← oneOf fun _ => true with
    | 'x' => pure (16, isHexDigit)
    | 'o' => pure (8, fun char => '0' ≤ char && char ≤ '7')
    | 'b' => pure (2, fun char => char == '0' || char == '1')
    | _ => failure
  let value := Digits.natural base (← digitGroups test)
  if value < integerLimit then return .integer value else failure

def sign : Reader Bool := do
  if ← accept ['-'] then return true
  discard (accept ['+'])
  return false

def wholeDigits : Reader Text := do
  let digits ← digitGroups Char.isDigit
  if digits.length > 1 && digits.head? == some '0' then failure else return digits

def fraction : Reader Text := do
  expect ['.']
  digitGroups Char.isDigit

def exponent : Reader (Bool × Text) := do
  discard (oneOf fun char => char == 'e' || char == 'E')
  let negative ← sign
  return (negative, ← digitGroups Char.isDigit)

/-- Whether a number is past the greatest one of binary64. A power that is far greater than the places is as good
as any greater one, and a power that leaves no digit before the point as good as any lower one. -/
def isInfinite (digits : Text) (places : Nat) (power : Bool × Text) : Bool :=
  let size := Digits.natural 10 power.2
  let raised := if power.1 then 0 else min size (places + 400)
  let lowered := if power.1 then min size digits.length else 0
  let numerator := Digits.natural 10 digits * Nat.pow 10 raised * unitsInOne
  binary64.isInfinite ⟨false, binary64.nearest numerator (Nat.pow 10 (places + lowered))⟩

def number : Reader Value := do
  let negative ← sign
  let minus := if negative then ['-'] else []
  if ← accept ['i', 'n', 'f'] then return .decimal (minus ++ ['i', 'n', 'f'])
  if ← accept ['n', 'a', 'n'] then return .decimal (minus ++ ['n', 'a', 'n'])
  let whole ← wholeDigits
  let places ← optional fraction
  let power ← optional exponent
  match places, power with
  | none, none =>
    let size : Nat := Digits.natural 10 whole
    let limit := if negative then integerLimit + 1 else integerLimit
    if size < limit then return .integer (if negative then -size else size) else failure
  | _, _ =>
    let behind := places.getD []
    let (lowers, size) := power.getD (false, ['0'])
    if !negative && isInfinite (whole ++ behind) behind.length (lowers, size) then failure
    let letter := if lowers then ['e', '-'] else ['e']
    return .decimal (minus ++ whole ++ '.' :: behind ++ letter ++ size)

def boundedDigits (count least greatest : Nat) : Reader Text := do
  let digits ← exactly count Char.isDigit
  let value := Digits.natural 10 digits
  if least ≤ value ∧ value ≤ greatest then return digits else failure

def daysIn (year month : Nat) : Nat :=
  if month = 2 then
    if year % 4 = 0 ∧ (year % 100 ≠ 0 ∨ year % 400 = 0) then 29 else 28
  else if month ∈ [4, 6, 9, 11] then 30
  else 31

def date : Reader Text := do
  let year ← exactly 4 Char.isDigit
  expect ['-']
  let month ← boundedDigits 2 1 12
  expect ['-']
  let day ← boundedDigits 2 1 (daysIn (Digits.natural 10 year) (Digits.natural 10 month))
  return year ++ '-' :: month ++ '-' :: day

def time : Reader Text := do
  let hour ← boundedDigits 2 0 23
  expect [':']
  let minute ← boundedDigits 2 0 59
  expect [':']
  let second ← boundedDigits 2 0 60
  let places ← optional (do
    expect ['.']
    let digits ← many Char.isDigit
    if digits = [] then failure else return '.' :: digits)
  return hour ++ ':' :: minute ++ ':' :: second ++ places.getD []

def offset : Reader Text := do
  let mark ← oneOf fun char => char ∈ ['Z', 'z', '+', '-']
  if mark ∈ ['Z', 'z'] then return [mark]
  let hour ← boundedDigits 2 0 23
  expect [':']
  return mark :: hour ++ ':' :: (← boundedDigits 2 0 59)

def dateTime : Reader Text := do
  let day ← date
  let clock ← optional (do
    let mark ← oneOf fun char => char ∈ ['T', 't', ' ']
    let clock ← time
    return mark :: clock ++ (← optional offset).getD [])
  return day ++ clock.getD []

def moment : Reader Value := .moment <$> (dateTime <|> time)

def scalar : Reader Value := do
  match ← peek? with
  | some '"' => .string <$> string true '"'
  | some '\'' => .string <$> string false '\''
  | some 't' => do
    expect ['t', 'r', 'u', 'e']
    return .boolean true
  | some 'f' => do
    expect ['f', 'a', 'l', 's', 'e']
    return .boolean false
  | _ => moment <|> basedInteger <|> number

end LineTemplates.Toml
