import LineTemplates.Proofs.Watch.Outcome

/-! Polls as a loop that takes the files by their places. Whatever has happened to a list, its cursor stands at a file
or at the beginning, so that each turn of the next poll finds its file; there are no more turns than files, and no pass
changes what the files are called, how they are ordered, or which of them are static. -/

namespace LineTemplates.WatchList

variable {Loader World : Type}

def advanced (list : WatchList Loader) : WatchList Loader := { list with cursor := list.cursor + 1 }

def replaced (visited : WatchedFile Loader) (list : WatchList Loader) : WatchList Loader :=
  { list with files := list.files.set list.cursor visited }

def wrapped (list : WatchList Loader) : WatchList Loader :=
  if list.cursor < list.files.length then list else { list with cursor := 0 }

/-- The turns that a poll still takes after some looks, and what comes of it. There is no result if a turn finds no file
in the cursor's place. -/
def pollByPlace [WatchHost Loader World] (looks : List Look) (list : WatchList Loader) (world : World) :
    Option (Nat × WatchOutcome Loader World) :=
  if list.cursor < list.files.length ∧ filled looks < list.slice then
    match list.files[list.cursor]? with
    | none => none
    | some file =>
      if file.isStatic then (pollByPlace looks list.advanced world).map (Prod.map (· + 1) id)
      else
        let found := file.look false list.cursor world
        let taken := looks ++ [found.1]
        let left := list.replaced found.2.1
        match found.1.visit with
        | .failed reason => some (1, ⟨.error (.loadFailure file.path reason), taken, left, found.2.2⟩)
        | _ => (pollByPlace taken left.advanced found.2.2).map (Prod.map (· + 1) id)
  else some (0, ⟨.ok (.ofLooks looks), looks, list.wrapped, world⟩)
termination_by list.files.length - list.cursor
decreasing_by
  all_goals
    simp only [advanced, replaced, List.length_set]
    omega

def between (slice : Nat) (front more : List (WatchedFile Loader)) : WatchList Loader :=
  ⟨front ++ more, front.length, slice⟩

theorem filled_lt_of_append {earlier looks : List Look} {slice : Nat} (unfilled : filled (earlier ++ looks) < slice) :
    filled earlier < slice := by
  rw [filled, List.countP_append] at unfilled
  exact Nat.lt_of_le_of_lt (Nat.le_add_right ..) unfilled

section Between

variable {slice : Nat} {front more : List (WatchedFile Loader)} {file visited : WatchedFile Loader}

theorem advanced_between : (between slice front (file :: more)).advanced = between slice (front ++ [file]) more := by
  simp [between, advanced]

theorem replaced_between :
    (between slice front (file :: more)).replaced visited = between slice front (visited :: more) := by
  simp [between, replaced]

theorem wrapped_between :
    (between slice front more).wrapped = ⟨front ++ more, if more = [] then 0 else front.length, slice⟩ := by
  cases more <;> simp [between, wrapped]

theorem getElem?_between :
    let list := between slice front (file :: more)
    list.files[list.cursor]? = some file := by
  simp [between]

end Between

section Turns

variable [WatchHost Loader World] {slice position : Nat} {front more gone passed : List (WatchedFile Loader)}
  {file visited : WatchedFile Loader} {earlier looks : List Look} {look : Look} {world after : World} {turns : Nat}
  {outcome : WatchOutcome Loader World}

theorem pollByPlace_ended (ends : more = [] ∨ slice ≤ filled looks) (world : World) :
    pollByPlace looks (between slice front more) world =
      some (0, ⟨.ok (.ofLooks looks), looks, ⟨front ++ more, if more = [] then 0 else front.length, slice⟩,
        world⟩) := by
  have ended : ¬ ((between slice front more).cursor < (between slice front more).files.length ∧
      filled looks < (between slice front more).slice) := by
    rcases ends with rfl | spent
    · simp [between]
    · exact fun goesOn => Nat.not_lt_of_le spent goesOn.2
  rw [pollByPlace, if_neg ended, wrapped_between]

theorem pollByPlace_turn (unfilled : filled looks < slice) :
    pollByPlace looks (between slice front (file :: more)) world =
      if file.isStatic then (pollByPlace looks (between slice (front ++ [file]) more) world).map (Prod.map (· + 1) id)
      else
        let found := file.look false front.length world
        let taken := looks ++ [found.1]
        match found.1.visit with
        | .failed reason =>
          some (1, ⟨.error (.loadFailure file.path reason), taken, between slice front (found.2.1 :: more),
            found.2.2⟩)
        | _ =>
          (pollByPlace taken (between slice (front ++ [found.2.1]) more) found.2.2).map (Prod.map (· + 1) id) := by
  have inside : (between slice front (file :: more)).cursor < (between slice front (file :: more)).files.length := by
    simp [between]
  rw [pollByPlace, if_pos ⟨inside, unfilled⟩, getElem?_between]
  simp only [replaced_between, advanced_between]
  rfl

theorem pollByPlace_looked (unfilled : filled looks < slice) (dynamic : file.isStatic = false)
    (found : Examines front.length file world look visited after) (goesOn : ∀ reason, look.visit ≠ .failed reason)
    (rest : pollByPlace (looks ++ [look]) (between slice (front ++ [visited]) more) after = some (turns, outcome)) :
    pollByPlace looks (between slice front (file :: more)) world = some (turns + 1, outcome) := by
  rw [pollByPlace_turn unfilled, dynamic, found.look_eq]
  dsimp only
  rw [rest]
  cases seen : look.visit with
  | failed reason => exact absurd seen (goesOn reason)
  | _ => rfl

theorem pollByPlace_failed {reason : String} (unfilled : filled looks < slice) (dynamic : file.isStatic = false)
    (found : Examines front.length file world look visited after) (fails : look.visit = .failed reason) :
    pollByPlace looks (between slice front (file :: more)) world =
      some (1, ⟨.error (.loadFailure file.path reason), looks ++ [look], between slice front (visited :: more),
        after⟩) := by
  rw [pollByPlace_turn unfilled, dynamic, found.look_eq]
  simp only [fails, Bool.false_eq_true, if_false]

/-- The turns that go past some files leave the others to the turns behind them. -/
theorem pollByPlace_append (past : GoesPast position gone world looks passed after) (place : position = front.length)
    (unfilled : filled (earlier ++ looks) < slice)
    (rest : pollByPlace (earlier ++ looks) (between slice (front ++ passed) more) after = some (turns, outcome)) :
    pollByPlace earlier (between slice front (gone ++ more)) world = some (turns + gone.length, outcome) := by
  have before : filled earlier < slice := filled_lt_of_append unfilled
  induction past generalizing front earlier with
  | nothing => simpa using rest
  | @skipped position file gone passed world after looks static later step =>
    have onward : position + 1 = (front ++ [file]).length := by simp [place]
    rw [List.append_cons] at rest
    rw [List.cons_append, pollByPlace_turn before, if_pos static, step onward unfilled rest before]
    rfl
  | @looked position file visited gone passed world between after look looks dynamic found goesOn later step =>
    have onward : position + 1 = (front ++ [visited]).length := by simp [place]
    rw [List.append_cons] at rest unfilled
    rw [List.append_cons front] at rest
    subst place
    have stillBefore : filled (earlier ++ [look]) < slice := filled_lt_of_append unfilled
    exact pollByPlace_looked before dynamic found goesOn (step onward unfilled rest stillBefore)

theorem pollByPlace_ahead {list : WatchList Loader} (steady : list.Steady)
    (ahead : list.files.drop list.cursor = gone ++ more) (past : GoesPast list.cursor gone world looks passed after)
    (unfilled : filled looks < list.slice)
    (rest : pollByPlace looks (between list.slice (list.files.take list.cursor ++ passed) more) after =
      some (turns, outcome)) :
    pollByPlace [] list world = some (turns + gone.length, outcome) := by
  have front : (list.files.take list.cursor).length = list.cursor := List.length_take_of_le steady.cursor_le
  have stands : between list.slice (list.files.take list.cursor) (gone ++ more) = list := by
    rw [between, front, ← ahead, List.take_append_drop]
  have turned : pollByPlace [] (between list.slice (list.files.take list.cursor) (gone ++ more)) world =
      some (turns + gone.length, outcome) := pollByPlace_append past front.symm unfilled rest
  rwa [stands] at turned

/-- A poll takes the files by their places, finds one at each turn, and has no more turns than there are files. -/
theorem pollByPlace_eq_poll {list : WatchList Loader} (steady : list.Steady) (world : World) :
    ∃ turns ≤ list.files.length, pollByPlace [] list world = some (turns, list.poll world) := by
  have ends : PollEnds list world (list.poll world) := (pollEnds_iff steady.slice_pos).mpr rfl
  have size : (list.files.drop list.cursor).length ≤ list.files.length := (List.drop_sublist ..).length_le
  have place {gone passed : List (WatchedFile Loader)} {looks : List Look} {after : World}
      (past : GoesPast list.cursor gone world looks passed after) :
      (list.files.take list.cursor ++ passed).length = list.cursor + gone.length := by
    rw [List.length_append, List.length_take_of_le steady.cursor_le, past.length_eq]
  generalize list.poll world = outcome at ends
  cases ends with
  | failed ahead past unfilled dynamic found fails =>
    rw [← place past] at found ⊢
    rw [ahead, List.length_append, List.length_cons] at size
    have turned := pollByPlace_ahead steady ahead past unfilled (pollByPlace_failed unfilled dynamic found fails)
    exact ⟨_, by omega, turned⟩
  | @full _ behind _ _ visited looks look _ after ahead past last dynamic found counts =>
    have unfilled : filled looks < list.slice := by omega
    have spent : list.slice ≤ filled (looks ++ [look]) := by
      rw [filled_concat, if_pos (Visit.counts_iff.mpr counts)]
      exact Nat.le_of_eq last.symm
    have goesOn : ∀ reason, look.visit ≠ .failed reason := by
      intro reason fails
      simp [fails] at counts
    rw [← place past] at found ⊢
    rw [ahead, List.length_append, List.length_cons] at size
    have turned := pollByPlace_ahead steady ahead past unfilled
      (pollByPlace_looked unfilled dynamic found goesOn (pollByPlace_ended (.inr spent) after))
    rw [List.length_append, List.length_singleton, List.append_assoc _ [visited], List.singleton_append] at turned
    exact ⟨_, by omega, turned⟩
  | ended past unfilled =>
    have turned := pollByPlace_ahead steady (List.append_nil _).symm past unfilled (pollByPlace_ended (.inl rfl) _)
    rw [List.append_nil, if_pos rfl] at turned
    exact ⟨_, by omega, turned⟩

/-- Whatever has been done to a list, its cursor stands at a file or at the beginning, its slice is not empty, and the
next poll finds a file in the cursor's place at each of its turns, of which there are no more than files. Neither a poll
nor a forced pass changes the paths, their order, or which of the files are static. -/
theorem polls_find_their_files {list : WatchList Loader} (reachable : Reachable Loader World list) :
    (list.cursor = 0 ∨ list.cursor < list.files.length) ∧ 1 ≤ list.slice ∧
    (∀ world : World, ∃ turns ≤ list.files.length, pollByPlace [] list world = some (turns, list.poll world)) ∧
    ∀ world : World,
      (list.poll world).list.files.map WatchedFile.label = list.files.map WatchedFile.label ∧
      (list.reloadAll world).list.files.map WatchedFile.label = list.files.map WatchedFile.label := by
  have steady : list.Steady := reachable.steady
  refine ⟨steady.cursor_inside, steady.slice_pos, pollByPlace_eq_poll steady, fun world => ⟨?polled, ?reloaded⟩⟩
  case polled =>
    obtain ⟨passed, left, goes, shape⟩ := list.poll_goes world
    rw [shape, List.append_assoc, List.map_append, goes.label_eq, ← List.map_append, List.take_append_drop]
  case reloaded =>
    obtain ⟨passed, left, cursor, goes, shape, _⟩ := list.reloadAll_goes world
    rw [shape, goes.label_eq]

/-- A poll that fails at the second of three files leaves the cursor there, and a forced pass fails at the same file. -/
theorem polls_find_their_files_after_failure :
    let bad : Script := [⟨none, none, .error (.failed "bad")⟩]
    let stage : Stage := ⟨[(['a'], 1), (['b'], 1), (['c'], 1)], []⟩
    let one : WatchList Script := ((empty.withSlice 0).register ['a'] [] true stage).list
    let two := (one.register ['b'] bad false stage).list
    let three := (two.register ['c'] [] false stage).list
    let list := (three.poll stage).list
    (three.poll stage).result = .error (.loadFailure ['b'] "bad") ∧ list.cursor = 1 ∧ list.slice = 1 ∧
      (list.reloadAll stage).result = .error (.loadFailure ['b'] "bad") ∧ (list.reloadAll stage).list.cursor = 1 ∧
      (∃ turns ≤ 3, pollByPlace [] list stage = some (turns, list.poll stage)) ∧
      (list.reloadAll stage).list.files.map WatchedFile.label = [(['a'], true), (['b'], false), (['c'], false)] := by
  intro bad stage one two three list
  have begun : Reachable Script Stage (empty.withSlice 0) := Reachable.created.sliced 0
  have filled : Reachable Script Stage three :=
    ((begun.registered ['a'] [] true stage).registered ['b'] bad false stage).registered ['c'] [] false stage
  have reachable : Reachable Script Stage list := filled.polled stage
  obtain ⟨_, _, turns, labels⟩ := polls_find_their_files reachable
  exact ⟨rfl, rfl, rfl, rfl, rfl, turns stage, (labels stage).2⟩

end Turns

end LineTemplates.WatchList
