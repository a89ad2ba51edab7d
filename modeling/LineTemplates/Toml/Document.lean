import LineTemplates.Toml.Reader

/-! TOML documents. Lines are read one by one into the table of the whole document. No key is given a value twice,
and no table is begun twice, by a header or by dotted keys. -/

namespace LineTemplates.Toml

namespace Table

def replace (key : Text) (value : Value) (table : Table) : Table :=
  table.map fun entry => if entry.1 = key then (key, value) else entry

def insert? (key : Text) (value : Value) (table : Table) : Option Table :=
  if (table.lookup key).isSome then none else some (table ++ [(key, value)])

/-- Changes the table at the end of a path, whose missing tables are begun on the way. Dotted keys do not lead
into tables that a header has begun. -/
def updateAt (dotted : Bool) (change : TableOrigin → Table → Option Table) (origin : TableOrigin) :
    List Text → Table → Option Table
  | [], table => change origin table
  | key :: path, table =>
    match table.lookup key with
    | none => do
      let begun := if dotted then .dotted else .implied
      let inner ← updateAt dotted change begun path []
      return table ++ [(key, .table begun inner)]
    | some (.table innerOrigin inner) =>
      if innerOrigin = .inline ∨ (dotted ∧ innerOrigin = .header) then none
      else do
        let inner ← updateAt dotted change innerOrigin path inner
        return table.replace key (.table innerOrigin inner)
    | some (.tables (last :: earlier)) => do
      let last ← updateAt dotted change .header path last
      return table.replace key (.tables (last :: earlier))
    | some _ => none

def assign? (origin : TableOrigin) (path : List Text) (key : Text) (value : Value) (table : Table) : Option Table :=
  let change (origin : TableOrigin) (table : Table) : Option Table :=
    if decide (origin = .dotted) == path.isEmpty then none else table.insert? key value
  updateAt true change origin path table

def beginTable? (path : List Text) (key : Text) (table : Table) : Option Table :=
  let change (_ : TableOrigin) (table : Table) : Option Table :=
    match table.lookup key with
    | none => some (table ++ [(key, .table .header [])])
    | some (.table .implied inner) => some (table.replace key (.table .header inner))
    | some _ => none
  updateAt false change .header path table

def beginItem? (path : List Text) (key : Text) (table : Table) : Option Table :=
  let change (_ : TableOrigin) (table : Table) : Option Table :=
    match table.lookup key with
    | none => some (table ++ [(key, .tables [[]])])
    | some (.tables items) => some (table.replace key (.tables ([] :: items)))
    | some _ => none
  updateAt false change .header path table

end Table

open Reader

def orFail {α : Type} : Option α → Reader α
  | some value => pure value
  | none => failure

def splitLast (path : List Text) : List Text × Text := (path.dropLast, path.getLastD [])

def items (item : Reader Value) : Nat → Reader (List Value)
  | 0 => failure
  | limit + 1 => do
    if ← accept [']'] then return []
    let first ← item
    gaps (limit + 1)
    if ← accept [','] then
      gaps (limit + 1)
      return first :: (← items item limit)
    else
      expect [']']
      return [first]

def pairs (item : Reader Value) : Nat → Table → Reader Table
  | 0, _ => failure
  | limit + 1, table => do
    blanks
    let (path, key) := splitLast (← dottedKey)
    blanks
    expect ['=']
    blanks
    let content ← item
    let grown ← orFail (table.assign? .header path key content)
    blanks
    if ← accept [','] then pairs item limit grown
    else
      expect ['\x7d']
      return grown

def valueOver (item : Reader Value) : Reader Value := do
  let limit := (← get).length + 1
  match ← peek? with
  | some '[' => do
    expect ['[']
    gaps limit
    .array <$> items item limit
  | some '\x7b' => do
    expect ['\x7b']
    blanks
    if ← accept ['\x7d'] then return .table .inline []
    .table .inline <$> pairs item limit []
  | _ => scalar

def value : Nat → Reader Value
  | 0 => scalar
  | depth + 1 => valueOver (value depth)

def headerPath : Reader (List Text) := do
  blanks
  let path ← dottedKey
  blanks
  return path

structure Document where
  root : Table
  current : List Text

def line (document : Document) : Reader Document := do
  blanks
  match ← peek? with
  | some '[' => do
    expect ['[']
    if ← accept ['['] then
      let whole ← headerPath
      let (path, key) := splitLast whole
      expect [']', ']']
      return ⟨← orFail (document.root.beginItem? path key), whole⟩
    else
      let whole ← headerPath
      let (path, key) := splitLast whole
      expect [']']
      return ⟨← orFail (document.root.beginTable? path key), whole⟩
  | some char =>
    if char == '#' || char == '\n' || char == '\r' then return document
    else do
      let (path, key) := splitLast (← dottedKey)
      blanks
      expect ['=']
      blanks
      let content ← value greatestDepth
      let assign (_ : TableOrigin) (table : Table) : Option Table := table.assign? .header path key content
      return ⟨← orFail (document.root.updateAt false assign .header document.current), document.current⟩
  | none => return document

def lines : Nat → Document → Reader Document
  | 0, _ => failure
  | limit + 1, document => do
    let grown ← line document
    lineEnd
    if ← atEnd then return grown else lines limit grown

def read? (text : Text) : Option Table :=
  let content := if text.head? = some '\ufeff' then text.drop 1 else text
  (lines (content.length + 1) ⟨[], []⟩).run content |>.map fun (document, _) => document.root

def wording : TomlError → String
  | .malformed => "malformed document"
  | .mistyped => "a value is missing or of the wrong type"

instance : TomlDecoder := ⟨read?, wording⟩

end LineTemplates.Toml
