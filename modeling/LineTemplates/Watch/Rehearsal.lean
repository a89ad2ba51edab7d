import LineTemplates.Watch

/-! Rehearsals of watching, with scripts for loaders and a table of modification times for files. -/

namespace LineTemplates

structure Cue where
  touch : Option (Text × Int)
  remove : Option Text
  answer : Except LoaderError Unit

abbrev Script := List Cue

structure Stage where
  times : List (Text × Int)
  /-- The loaders' answers, the last one first. -/
  answers : List (Text × Except LoaderError Unit)

namespace Stage

def empty : Stage := ⟨[], []⟩

def remove (name : Text) (stage : Stage) : Stage :=
  { stage with times := stage.times.filter (·.1 ≠ name) }

def write (name : Text) (time : Int) (stage : Stage) : Stage :=
  { stage with times := (name, time) :: (stage.remove name).times }

def time? (name : Text) (stage : Stage) : Option Int := stage.times.lookup name

def touch (name : Text) (time : Int) (stage : Stage) : Stage :=
  if (stage.time? name).isSome then stage.write name time else stage

def record (path : Text) (answer : Except LoaderError Unit) (stage : Stage) : Stage :=
  { stage with answers := (path, answer) :: stage.answers }

def play (cue : Cue) (stage : Stage) : Stage :=
  let touched := cue.touch.elim stage fun (name, time) => stage.touch name time
  cue.remove.elim touched touched.remove

end Stage

instance : WatchHost Script Stage where
  modified path stage := (stage.time? path, stage)
  load script path stage :=
    match script with
    | [] => (.ok (), [], stage.record path (.ok ()))
    | [cue] => (cue.answer, [cue], (stage.play cue).record path cue.answer)
    | cue :: more => (cue.answer, more, (stage.play cue).record path cue.answer)

end LineTemplates
