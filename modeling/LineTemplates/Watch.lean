import LineTemplates.Text.Quoted

/-! Watched files. A loader runs when the modification time of its file is not the one seen before the loader's
last run. A poll looks at a slice of the files and goes on where the last poll stopped; a forced pass runs every
loader. -/

namespace LineTemplates

inductive LoaderError where
  /-- The file has changed, but the change cannot be taken over now. -/
  | declined
  | failed (reason : String)
deriving DecidableEq, Repr

def LoaderError.message : LoaderError → String
  | declined => "changes cannot be applied while running"
  | failed reason => reason

inductive WatchError where
  | notFound (path : Text)
  | loadFailure (path : Text) (reason : String)
deriving DecidableEq, Repr

def WatchError.message : WatchError → String
  | notFound path => s!"file not found: {path.str}"
  | loadFailure path reason => s!"failed to load {path.str}: {reason}"

inductive WatchStatus where
  | ok
  /-- A file was missing. -/
  | notFound
  /-- A change was not taken over. -/
  | notDynamic
deriving DecidableEq, Repr

/-- The surroundings of watched files. Both questions to the world may find it changed, and a loader may be
another one after each run. -/
class WatchHost (Loader World : Type) where
  modified : Text → World → Option Int × World
  load : Loader → Text → World → Except LoaderError Unit × Loader × World

structure WatchedFile (Loader : Type) where
  path : Text
  loader : Loader
  isStatic : Bool
  /-- The modification time seen before the loader's last run. -/
  seen : Option Int

inductive Visit where
  | missing
  | unchanged
  | reloaded
  | declined
  | failed (reason : String)
deriving DecidableEq, Repr

namespace Visit

def ofLoad : Except LoaderError Unit → Visit
  | .ok _ => reloaded
  | .error .declined => declined
  | .error (.failed reason) => failed reason

def counts : Visit → Bool
  | missing => true
  | unchanged => true
  | _ => false

def stops : Visit → Bool
  | failed _ => true
  | _ => false

def loads : Visit → Bool
  | missing => false
  | unchanged => false
  | _ => true

end Visit

/-- A look at a file: its place in the list, its path, the modification time found, and what came of it. -/
structure Look where
  position : Nat
  path : Text
  time : Option Int
  visit : Visit
deriving DecidableEq, Repr

namespace WatchedFile

variable {Loader World : Type} [WatchHost Loader World]

def look (forced : Bool) (position : Nat) (file : WatchedFile Loader) (world : World) :
    Look × WatchedFile Loader × World :=
  match WatchHost.modified Loader file.path world with
  | (none, world) => (⟨position, file.path, none, .missing⟩, file, world)
  | (some time, world) =>
    if !forced && file.seen == some time then (⟨position, file.path, some time, .unchanged⟩, file, world)
    else
      let (answer, loader, world) := WatchHost.load file.loader file.path world
      (⟨position, file.path, some time, .ofLoad answer⟩, { file with loader := loader, seen := some time }, world)

end WatchedFile

/-- What a pass over some files did: the looks in their order, the files it went past, the files it did not get
past, and the world it leaves. -/
structure WatchPass (Loader World : Type) where
  looks : List Look
  passed : List (WatchedFile Loader)
  left : List (WatchedFile Loader)
  world : World

namespace WatchPass

variable {Loader World : Type} [WatchHost Loader World]

def past (file : WatchedFile Loader) (looks : List Look) (pass : WatchPass Loader World) : WatchPass Loader World :=
  { pass with looks := looks ++ pass.looks, passed := file :: pass.passed }

/-- Goes through the files, the first of which stands at the given place, until the budget is used up or a loader
fails. Only a forced pass looks at static files. -/
def along (forced : Bool) (budget position : Nat) (files : List (WatchedFile Loader)) (world : World) :
    WatchPass Loader World :=
  match files with
  | [] => ⟨[], [], [], world⟩
  | file :: more =>
    if budget = 0 then ⟨[], [], file :: more, world⟩
    else if file.isStatic && !forced then (along forced budget (position + 1) more world).past file []
    else
      let (look, visited, world) := file.look forced position world
      if look.visit.stops then ⟨[look], [], visited :: more, world⟩
      else
        let budget := if look.visit.counts then budget - 1 else budget
        (along forced budget (position + 1) more world).past visited [look]

def failure? (pass : WatchPass Loader World) : Option WatchError :=
  pass.looks.findSome? fun look =>
    match look.visit with
    | .failed reason => some (.loadFailure look.path reason)
    | _ => none

def has (visit : Visit) (pass : WatchPass Loader World) : Bool := pass.looks.any (·.visit = visit)

end WatchPass

structure WatchList (Loader : Type) where
  files : List (WatchedFile Loader)
  /-- Where the next poll begins. -/
  cursor : Nat
  slice : Nat

structure WatchOutcome (Loader World : Type) where
  result : Except WatchError WatchStatus
  looks : List Look
  list : WatchList Loader
  world : World

namespace WatchList

variable {Loader World : Type} [WatchHost Loader World]

def defaultSlice : Nat := 8

def empty : WatchList Loader := ⟨[], 0, defaultSlice⟩

def withSlice (slice : Nat) (list : WatchList Loader) : WatchList Loader := { list with slice := max slice 1 }

def paths (list : WatchList Loader) : List Text := list.files.map WatchedFile.path

def clear (list : WatchList Loader) : WatchList Loader := { list with files := [], cursor := 0 }

def register (path : Text) (loader : Loader) (isStatic : Bool) (list : WatchList Loader) (world : World) :
    WatchOutcome Loader World :=
  match WatchHost.modified Loader path world with
  | (none, world) => ⟨.error (.notFound path), [], list, world⟩
  | (some time, world) =>
    let grown (file : WatchedFile Loader) : WatchList Loader :=
      { list with files := list.files ++ [file], cursor := 0 }
    if !isStatic then ⟨.ok .ok, [], grown ⟨path, loader, isStatic, none⟩, world⟩
    else
      let (answer, loader, world) := WatchHost.load loader path world
      let result := match answer with
        | .ok _ => .ok .ok
        | .error .declined => .ok .notDynamic
        | .error (.failed reason) => .error (.loadFailure path reason)
      let seen := match answer with
        | .ok _ => some time
        | .error _ => none
      ⟨result, [⟨list.files.length, path, some time, .ofLoad answer⟩], grown ⟨path, loader, isStatic, seen⟩, world⟩

def poll (list : WatchList Loader) (world : World) : WatchOutcome Loader World :=
  let pass := WatchPass.along false list.slice list.cursor (list.files.drop list.cursor) world
  let result := match pass.failure? with
    | some error => .error error
    | none => .ok (if pass.has .missing || pass.has .declined then .notDynamic else .ok)
  let cursor := if pass.left.isEmpty then 0 else list.cursor + pass.passed.length
  let files := list.files.take list.cursor ++ pass.passed ++ pass.left
  ⟨result, pass.looks, { list with files := files, cursor := cursor }, pass.world⟩

def reloadAll (list : WatchList Loader) (world : World) : WatchOutcome Loader World :=
  let pass := WatchPass.along true list.files.length 0 list.files world
  let result := match pass.failure? with
    | some error => .error error
    | none =>
      .ok (if pass.has .missing then .notFound else if pass.has .declined then .notDynamic else .ok)
  let cursor := if pass.failure?.isSome then list.cursor else 0
  ⟨result, pass.looks, { list with files := pass.passed ++ pass.left, cursor := cursor }, pass.world⟩

def display (list : WatchList Loader) : String :=
  s!"FileRegistry \x7b files: {(Text.quotedList list.paths).str}, cursor: {list.cursor}, slice: {list.slice} \x7d"

end WatchList

end LineTemplates
