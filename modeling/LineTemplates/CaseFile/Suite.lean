import LineTemplates.CaseFile
import LineTemplates.Text.Order

/-! Suites of case files: the case files of a folder and of the folders in it, by category. A case belongs to the
category that is named after its folder, seen from the folder of the suite. -/

namespace LineTemplates

structure SuiteCase where
  path : List Text
  content : FileContent

structure Category where
  name : Text
  cases : List SuiteCase

namespace Suite

def caseEnding : Text := ".test.txt".toList

def stem? (name : Text) : Option Text :=
  if caseEnding.isSuffixOf name then some (Text.withoutEnding caseEnding name) else none

def slashed (path : List Text) : Text := Text.join ['/'] path

def pathIn (root : Text) (path : List Text) : Text :=
  (if root.getLast? = some '/' then root else root ++ ['/']) ++ slashed path

def isTooLong (root : Text) (path : List Text) : Bool := Folder.longestPath < Text.utf8Size (pathIn root path)

def casesAt (root : Text) (path : List Text) (content : FileContent) : List SuiteCase :=
  if (stem? (path.getLastD [])).isNone then []
  else [⟨path, if isTooLong root path then .error .longName else content⟩]

/-- The case files of a folder in a suite. A folder with too long a path does not show that it is one. -/
def casesFrom (root : Text) (above : List Text) : Folder → List SuiteCase
  | .empty => []
  | .file name content next => casesAt root (above ++ [name]) content ++ casesFrom root above next
  | .folder name inner next =>
    let path := above ++ [name]
    let found := if isTooLong root path then casesAt root path (.error .longName) else casesFrom root path inner
    found ++ casesFrom root above next

def categoryName (case : SuiteCase) : Text :=
  (slashed case.path.dropLast).map fun char => if char = '\\' then '/' else char

def sortedNames (names : List Text) : List Text := (names.mergeSort Text.notAfter).eraseDups

def sortedCases (cases : List SuiteCase) : List SuiteCase :=
  cases.mergeSort fun first second => Text.pathNotAfter first.path second.path

def categories (root : Text) (folder : Folder) : List Category :=
  let cases := casesFrom root [] folder
  (sortedNames (cases.map categoryName)).map fun name =>
    ⟨name, sortedCases (cases.filter (categoryName · = name))⟩

def answers (request name : Text) : Bool := name = request || (request ++ ['/']).isPrefixOf name

/-- The categories chosen by the requests, beside those chosen before, and the requests that choose no other one. -/
def choose (names chosen : List Text) : List Text → List Text × List Text
  | [] => (chosen, [])
  | request :: requests =>
    let wanted := Text.trim '/' request
    let fresh := names.filter fun name => answers wanted name && !chosen.contains name
    let (all, idle) := choose names (chosen ++ fresh) requests
    (all, if fresh.isEmpty then wanted :: idle else idle)

/-- The categories to run, and the requests that are to be warned of. Without requests all categories run. -/
def select (categories : List Category) (requests : List Text) : List Category × List Text :=
  if requests.isEmpty then (categories, [])
  else
    let (chosen, idle) := choose (categories.map Category.name) [] requests
    (categories.filter fun category => chosen.contains category.name, idle)

def heading (name : Text) : Text := if name = [] then "(root)".toList else name

end Suite

structure CaseReport where
  path : Text
  label : Text
  failure : Option CaseFailure
deriving DecidableEq, Repr

structure GroupReport where
  heading : Option Text
  cases : List CaseReport
deriving DecidableEq, Repr

namespace CaseReport

def passed (report : CaseReport) : Bool := report.failure.isNone

/-- Runs what stands at the path. A case without a description goes by the name of its file. -/
def ofFound [TomlDecoder] (path name : Text) (found : Found) : CaseReport :=
  let result := CaseFile.run found
  ⟨path, result.description.getD ((Suite.stem? name).getD ['?']), result.failure⟩

end CaseReport

namespace GroupReport

variable [TomlDecoder]

def ofFile (path : Text) (content : FileContent) : GroupReport :=
  ⟨none, [.ofFound path ((Text.split '/' path).getLastD []) (.file content)]⟩

def ofCategory (root : Text) (category : Category) : GroupReport :=
  let report (case : SuiteCase) : CaseReport :=
    .ofFound (Suite.pathIn root case.path) (case.path.getLastD []) (.file case.content)
  ⟨some (Suite.heading category.name), category.cases.map report⟩

end GroupReport

end LineTemplates
