import LineTemplates.Text

/-! Folders of files, and what a path leads to in them. -/

namespace LineTemplates

inductive FileError where
  | notFound
  | notFolder
  | isFolder
  | denied
  | longName
  | nulInPath
  | notText
deriving DecidableEq, Repr

def FileError.message : FileError → String
  | notFound => "No such file or directory (os error 2)"
  | notFolder => "Not a directory (os error 20)"
  | denied => "Permission denied (os error 13)"
  | isFolder => "Is a directory (os error 21)"
  | longName => "File name too long (os error 36)"
  | nulInPath => "file name contained an unexpected NUL byte"
  | notText => "stream did not contain valid UTF-8"

abbrev FileContent := Except FileError ByteArray

/-- The entries of a folder, each followed by those after it. -/
inductive Folder where
  | empty
  | file (name : Text) (content : FileContent) (next : Folder)
  | folder (name : Text) (inner next : Folder)

def decodeText (content : ByteArray) : Except FileError Text :=
  match String.fromUTF8? content with
  | some string => .ok string.toList
  | none => .error .notText

inductive Found where
  | nothing (error : FileError)
  | file (content : FileContent)
  | folder (inner : Folder)

namespace Found

def exists? : Found → Bool
  | nothing _ => false
  | _ => true

def isFile : Found → Bool
  | file _ => true
  | _ => false

def text : Found → Except FileError Text
  | nothing error => .error error
  | file content => content >>= decodeText
  | folder _ => .error .isFolder

end Found

namespace Folder

def entry (name : Text) : Folder → Found
  | empty => .nothing .notFound
  | file other content next => if other = name then .file content else next.entry name
  | folder other inner next => if other = name then .folder inner else next.entry name

def ofPath (content : FileContent) : List Text → Folder
  | [] => empty
  | [name] => file name content empty
  | name :: path => folder name (ofPath content path) empty

def insert (content : FileContent) (path : List Text) : Folder → Folder
  | empty => ofPath content path
  | file other old next =>
    if path = [other] then file other content next else file other old (next.insert content path)
  | folder other inner next =>
    match path with
    | name :: rest =>
      if name = other then folder other (inner.insert content rest) next
      else folder other inner (next.insert content path)
    | [] => folder other inner next

def longestName : Nat := 255

def longestPath : Nat := 4095

/-- Follows the parts of a path. `above` holds the folders around this one, the innermost first; outside all of them
there are folders in which nothing is found. -/
def follow (above : List Folder) (here : Folder) : List Text → Found
  | [] => .folder here
  | name :: path =>
    if name = [] ∨ name = ['.'] then follow above here path
    else if name = ['.', '.'] then
      match above with
      | outer :: above => follow above outer path
      | [] => follow [] .empty path
    else if longestName < Text.utf8Size name then .nothing .longName
    else match here.entry name with
      | .nothing error => .nothing error
      | .file content => if path = [] then .file content else .nothing .notFolder
      | .folder inner => follow (here :: above) inner path

def find (here : Folder) (path : Text) : Found :=
  if '\x00' ∈ path then .nothing .nulInPath
  else if path = [] then .nothing .notFound
  else if longestPath < Text.utf8Size path then .nothing .longName
  else follow [] (if path.head? = some '/' then .empty else here) (Text.split '/' path)

end Folder

end LineTemplates
