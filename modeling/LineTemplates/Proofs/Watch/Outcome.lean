import LineTemplates.Proofs.Watch.History

/-! The outcome of a poll. It goes past file after file, and ends with the first loader that fails, with the look that
fills the slice, or behind the last file. After a failure the next poll begins with the same file. -/

namespace LineTemplates

variable {Loader World : Type} [WatchHost Loader World]

/-- What a poll can find at a file that is not static: the look, the file as it is afterwards, and the world that is left.
Whenever the loader runs, the time found before is kept, whatever the loader answers. -/
inductive Examines (position : Nat) (file : WatchedFile Loader) (world : World) :
    Look → WatchedFile Loader → World → Prop
  | missing {after : World} (absent : WatchHost.modified Loader file.path world = (none, after)) :
      Examines position file world ⟨position, file.path, none, .missing⟩ file after
  | unchanged {time : Int} {after : World} (present : WatchHost.modified Loader file.path world = (some time, after))
      (same : file.seen = some time) :
      Examines position file world ⟨position, file.path, some time, .unchanged⟩ file after
  | reloaded {time : Int} {loader : Loader} {between after : World}
      (present : WatchHost.modified Loader file.path world = (some time, between)) (changed : file.seen ≠ some time)
      (answer : WatchHost.load file.loader file.path between = (.ok (), loader, after)) :
      Examines position file world ⟨position, file.path, some time, .reloaded⟩
        { file with loader := loader, seen := some time } after
  | declined {time : Int} {loader : Loader} {between after : World}
      (present : WatchHost.modified Loader file.path world = (some time, between)) (changed : file.seen ≠ some time)
      (answer : WatchHost.load file.loader file.path between = (.error .declined, loader, after)) :
      Examines position file world ⟨position, file.path, some time, .declined⟩
        { file with loader := loader, seen := some time } after
  | failed {time : Int} {loader : Loader} {between after : World} {reason : String}
      (present : WatchHost.modified Loader file.path world = (some time, between)) (changed : file.seen ≠ some time)
      (answer : WatchHost.load file.loader file.path between = (.error (.failed reason), loader, after)) :
      Examines position file world ⟨position, file.path, some time, .failed reason⟩
        { file with loader := loader, seen := some time } after

/-- Looks at all of some files that are not static, from first to last and with no failure among them: the looks, the
files as they are afterwards, and the world that is left. -/
inductive GoesPast : (position : Nat) → (files : List (WatchedFile Loader)) → (world : World) → (looks : List Look) →
    (passed : List (WatchedFile Loader)) → (after : World) → Prop
  | nothing {position : Nat} {world : World} : GoesPast position [] world [] [] world
  | skipped {position : Nat} {file : WatchedFile Loader} {more passed : List (WatchedFile Loader)} {world after : World}
      {looks : List Look} (static : file.isStatic = true)
      (later : GoesPast (position + 1) more world looks passed after) :
      GoesPast position (file :: more) world looks (file :: passed) after
  | looked {position : Nat} {file visited : WatchedFile Loader} {more passed : List (WatchedFile Loader)}
      {world between after : World} {look : Look} {looks : List Look} (dynamic : file.isStatic = false)
      (found : Examines position file world look visited between) (goesOn : ∀ reason, look.visit ≠ .failed reason)
      (later : GoesPast (position + 1) more between looks passed after) :
      GoesPast position (file :: more) world (look :: looks) (visited :: passed) after

/-- How much of a slice looks fill: one for each file that was missing or unchanged. -/
def filled (looks : List Look) : Nat := looks.countP fun look => look.visit = .missing ∨ look.visit = .unchanged

def WatchStatus.ofLooks (looks : List Look) : WatchStatus :=
  if ∃ look ∈ looks, look.visit = .missing ∨ look.visit = .declined then .notDynamic else .ok

inductive WatchList.PollEnds (list : WatchList Loader) (world : World) : WatchOutcome Loader World → Prop
  /-- A loader fails. Its file has been looked at and stays in front of the cursor. -/
  | failed {gone behind passed : List (WatchedFile Loader)} {file visited : WatchedFile Loader} {looks : List Look}
      {look : Look} {between after : World} {reason : String}
      (ahead : list.files.drop list.cursor = gone ++ file :: behind)
      (past : GoesPast list.cursor gone world looks passed between) (unfilled : filled looks < list.slice)
      (dynamic : file.isStatic = false)
      (found : Examines (list.cursor + gone.length) file between look visited after)
      (fails : look.visit = .failed reason) :
      PollEnds list world
        ⟨.error (.loadFailure file.path reason), looks ++ [look],
          { list with
            files := list.files.take list.cursor ++ passed ++ visited :: behind
            cursor := list.cursor + gone.length }, after⟩
  /-- The slice is filled. The cursor goes behind the last file that has been looked at. -/
  | full {gone behind passed : List (WatchedFile Loader)} {file visited : WatchedFile Loader} {looks : List Look}
      {look : Look} {between after : World}
      (ahead : list.files.drop list.cursor = gone ++ file :: behind)
      (past : GoesPast list.cursor gone world looks passed between) (last : filled looks + 1 = list.slice)
      (dynamic : file.isStatic = false)
      (found : Examines (list.cursor + gone.length) file between look visited after)
      (counts : look.visit = .missing ∨ look.visit = .unchanged) :
      PollEnds list world
        ⟨.ok (.ofLooks (looks ++ [look])), looks ++ [look],
          { list with
            files := list.files.take list.cursor ++ passed ++ visited :: behind
            cursor := if behind = [] then 0 else list.cursor + gone.length + 1 }, after⟩
  /-- The list is at its end. -/
  | ended {passed : List (WatchedFile Loader)} {looks : List Look} {after : World}
      (past : GoesPast list.cursor (list.files.drop list.cursor) world looks passed after)
      (unfilled : filled looks < list.slice) :
      PollEnds list world
        ⟨.ok (.ofLooks looks), looks, { list with files := list.files.take list.cursor ++ passed, cursor := 0 }, after⟩

section Examination

variable {position : Nat} {file visited : WatchedFile Loader} {world after : World} {look : Look}

theorem exists_examines (position : Nat) (file : WatchedFile Loader) (world : World) :
    ∃ look visited after, Examines position file world look visited after := by
  obtain ⟨⟨found, between⟩, asked⟩ : ∃ result, WatchHost.modified Loader file.path world = result := ⟨_, rfl⟩
  cases found with
  | none => exact ⟨_, _, _, .missing asked⟩
  | some time =>
    by_cases same : file.seen = some time
    · exact ⟨_, _, _, .unchanged asked same⟩
    · obtain ⟨⟨answer, loader, after⟩, answered⟩ :
        ∃ result, WatchHost.load file.loader file.path between = result := ⟨_, rfl⟩
      match answer with
      | .ok () => exact ⟨_, _, _, .reloaded asked same answered⟩
      | .error .declined => exact ⟨_, _, _, .declined asked same answered⟩
      | .error (.failed reason) => exact ⟨_, _, _, .failed asked same answered⟩

namespace Examines

theorem look_eq (found : Examines position file world look visited after) :
    file.look false position world = (look, visited, after) := by
  cases found with
  | missing absent => simp [WatchedFile.look, absent]
  | unchanged present same => simp [WatchedFile.look, present, same]
  | reloaded present changed answer => simp [WatchedFile.look, present, changed, answer, Visit.ofLoad]
  | declined present changed answer => simp [WatchedFile.look, present, changed, answer, Visit.ofLoad]
  | failed present changed answer => simp [WatchedFile.look, present, changed, answer, Visit.ofLoad]

theorem looksAt (found : Examines position file world look visited after) :
    LooksAt false position file visited look := by
  have looksAt := looksAt_look false position file world
  rwa [found.look_eq] at looksAt

end Examines

end Examination

namespace WatchPass

variable {budget position : Nat} {file visited : WatchedFile Loader} {more : List (WatchedFile Loader)}
  {world after : World} {look : Look}

theorem along_zero (position : Nat) (files : List (WatchedFile Loader)) (world : World) :
    along false 0 position files world = ⟨[], [], files, world⟩ := by
  cases files with
  | nil => rw [along]
  | cons file more => rw [along, if_pos rfl]

theorem along_static (positive : 0 < budget) (static : file.isStatic = true) :
    along false budget position (file :: more) world =
      (along false budget (position + 1) more world).past file [] := by
  rw [along, if_neg (Nat.ne_of_gt positive), if_pos (by simp [static])]

theorem along_failed {forced : Bool} (positive : 0 < budget) (watched : file.isStatic = false ∨ forced = true)
    (found : file.look forced position world = (look, visited, after)) (stops : look.visit.stops = true) :
    along forced budget position (file :: more) world = ⟨[look], [], visited :: more, after⟩ := by
  rw [along, if_neg (Nat.ne_of_gt positive), if_neg (WatchedFile.watched_iff.mpr watched), found]
  simp only [stops, if_true]

theorem along_looked {forced : Bool} (positive : 0 < budget) (watched : file.isStatic = false ∨ forced = true)
    (found : file.look forced position world = (look, visited, after)) (goesOn : look.visit.stops = false) :
    along forced budget position (file :: more) world =
      (along forced (if look.visit.counts then budget - 1 else budget) (position + 1) more after).past visited [look] := by
  rw [along, if_neg (Nat.ne_of_gt positive), if_neg (WatchedFile.watched_iff.mpr watched), found]
  simp only [goesOn, Bool.false_eq_true, if_false]

end WatchPass

namespace Visit

variable {visit : Visit}

theorem counts_iff : visit.counts = true ↔ visit = .missing ∨ visit = .unchanged := by
  cases visit <;> simp [counts]

theorem stops_iff : visit.stops = true ↔ ∃ reason, visit = .failed reason := by
  cases visit <;> simp [stops]

theorem stops_eq_false_iff : visit.stops = false ↔ ∀ reason, visit ≠ .failed reason := by
  cases visit <;> simp [stops]

end Visit

theorem filled_cons (look : Look) (looks : List Look) :
    filled (look :: looks) = filled looks + if look.visit.counts then 1 else 0 := by
  simp only [filled, List.countP_cons, decide_eq_true_eq, Visit.counts_iff]

theorem filled_cons_lt_iff {look : Look} {looks : List Look} {budget : Nat} :
    filled (look :: looks) < budget ↔ filled looks < if look.visit.counts then budget - 1 else budget := by
  rw [filled_cons]
  split <;> omega

theorem filled_concat (looks : List Look) (look : Look) :
    filled (looks ++ [look]) = filled looks + if look.visit.counts then 1 else 0 := by
  simp only [filled, List.countP_append, List.countP_singleton, decide_eq_true_eq, Visit.counts_iff]

namespace GoesPast

variable {position budget : Nat} {gone more passed passed' : List (WatchedFile Loader)} {world between after : World}
  {looks looks' : List Look}

theorem length_eq (past : GoesPast position gone world looks passed after) : passed.length = gone.length := by
  induction past with
  | nothing => rfl
  | skipped _ _ step => rw [List.length_cons, List.length_cons, step]
  | looked _ _ _ _ step => rw [List.length_cons, List.length_cons, step]

theorem succeeds (past : GoesPast position gone world looks passed after) :
    ∀ look ∈ looks, look.visit.stops = false := by
  induction past with
  | nothing => nofun
  | skipped _ _ step => exact step
  | looked _ _ goesOn _ step => exact List.forall_mem_cons.mpr ⟨Visit.stops_eq_false_iff.mpr goesOn, step⟩

theorem append (past : GoesPast position gone world looks passed between)
    (later : GoesPast (position + gone.length) more between looks' passed' after) :
    GoesPast position (gone ++ more) world (looks ++ looks') (passed ++ passed') after := by
  induction past with
  | nothing => exact later
  | skipped static _ step =>
    rw [List.length_cons, ← Nat.succ_add_eq_add_succ] at later
    exact .skipped static (step later)
  | looked dynamic found goesOn _ step =>
    rw [List.length_cons, ← Nat.succ_add_eq_add_succ] at later
    exact .looked dynamic found goesOn (step later)

/-- A pass whose budget is not used up by some files goes past them and on. -/
theorem along_append (past : GoesPast position gone world looks passed between) (unfilled : filled looks < budget)
    (more : List (WatchedFile Loader)) :
    WatchPass.along false budget position (gone ++ more) world =
      let pass := WatchPass.along false (budget - filled looks) (position + gone.length) more between
      { pass with looks := looks ++ pass.looks, passed := passed ++ pass.passed } := by
  induction past generalizing budget with
  | nothing => rfl
  | @skipped position file gone _ _ _ _ static _ step =>
    have positive : 0 < budget := Nat.zero_lt_of_lt unfilled
    have place : position + 1 + gone.length = position + (file :: gone).length := Nat.succ_add_eq_add_succ ..
    rw [List.cons_append, WatchPass.along_static positive static, step unfilled, place]
    rfl
  | @looked position file _ gone _ _ _ _ look looks dynamic found goesOn _ step =>
    have positive : 0 < budget := Nat.zero_lt_of_lt unfilled
    have place : position + 1 + gone.length = position + (file :: gone).length := Nat.succ_add_eq_add_succ ..
    have rest : (if look.visit.counts then budget - 1 else budget) - filled looks = budget - filled (look :: looks) := by
      rw [filled_cons]
      split <;> omega
    rw [List.cons_append,
      WatchPass.along_looked positive (.inl dynamic) found.look_eq (Visit.stops_eq_false_iff.mpr goesOn),
      step (filled_cons_lt_iff.mp unfilled), place, rest]
    rfl

end GoesPast

omit [WatchHost Loader World] in
theorem WatchPass.failure?_of_failed {pass : WatchPass Loader World} {looks : List Look} {look : Look} {reason : String}
    (whole : pass.looks = looks ++ [look]) (succeeds : ∀ look ∈ looks, look.visit.stops = false)
    (fails : look.visit = .failed reason) : pass.failure? = some (.loadFailure look.path reason) := by
  have before : (⟨looks, [], [], pass.world⟩ : WatchPass Loader World).failure? = none :=
    WatchPass.failure?_eq_none_iff.mpr succeeds
  rw [failure?] at before
  rw [failure?, whole, List.findSome?_append, before, Option.none_or, List.findSome?_singleton, fails]

omit [WatchHost Loader World] in
theorem WatchStatus.ofLooks_looks (pass : WatchPass Loader World) :
    WatchStatus.ofLooks pass.looks = if pass.has .missing || pass.has .declined then .notDynamic else .ok := by
  simp [ofLooks, WatchPass.has, and_or_left, exists_or]

namespace WatchList

variable {list : WatchList Loader} {world : World} {outcome : WatchOutcome Loader World}

theorem poll_of_succeeds {pass : WatchPass Loader World}
    (passes : WatchPass.along false list.slice list.cursor (list.files.drop list.cursor) world = pass)
    (succeeds : ∀ look ∈ pass.looks, look.visit.stops = false) :
    list.poll world =
      ⟨.ok (.ofLooks pass.looks), pass.looks,
        { list with
          files := list.files.take list.cursor ++ pass.passed ++ pass.left
          cursor := if pass.left = [] then 0 else list.cursor + pass.passed.length }, pass.world⟩ := by
  simp only [poll, passes, WatchPass.failure?_eq_none_iff.mpr succeeds, WatchStatus.ofLooks_looks, List.isEmpty_iff]

theorem PollEnds.eq_poll (ends : PollEnds list world outcome) : outcome = list.poll world := by
  cases ends with
  | @failed gone behind passed file visited looks look between after reason ahead past unfilled dynamic found fails =>
    have stops : look.visit.stops = true := by
      rw [fails]
      rfl
    -- The pass has budget left at the file that fails, and leaves what is behind it alone.
    have passes : WatchPass.along false list.slice list.cursor (list.files.drop list.cursor) world =
        ⟨looks ++ [look], passed, visited :: behind, after⟩ := by
      rw [ahead, past.along_append unfilled, WatchPass.along_failed (Nat.sub_pos_of_lt unfilled) (.inl dynamic)
        found.look_eq stops]
      simp only [List.append_nil]
    have failure := WatchPass.failure?_of_failed (congrArg WatchPass.looks passes) past.succeeds fails
    simp only [poll, failure, found.looksAt.path_eq]
    simp only [passes, past.length_eq, List.isEmpty_cons, Bool.false_eq_true, if_false]
  | @full gone behind passed file visited looks look between after ahead past last dynamic found counts =>
    have goesOn : look.visit.stops = false := by
      rcases counts with missing | unchanged
      · rw [missing]
        rfl
      · rw [unchanged]
        rfl
    have unfilled : filled looks < list.slice := by omega
    -- The last look takes the rest of the budget.
    have spent : (if look.visit.counts then list.slice - filled looks - 1 else list.slice - filled looks) = 0 := by
      rw [if_pos (Visit.counts_iff.mpr counts)]
      omega
    have passes : WatchPass.along false list.slice list.cursor (list.files.drop list.cursor) world =
        ⟨looks ++ [look], passed ++ [visited], behind, after⟩ := by
      rw [ahead, past.along_append unfilled, WatchPass.along_looked (Nat.sub_pos_of_lt unfilled) (.inl dynamic)
        found.look_eq goesOn, spent, WatchPass.along_zero]
      rfl
    rw [poll_of_succeeds passes (List.forall_mem_append.mpr ⟨past.succeeds, List.forall_mem_singleton.mpr goesOn⟩)]
    simp only [List.length_append, past.length_eq, List.length_singleton, Nat.add_assoc, List.append_assoc,
      List.singleton_append]
  | @ended passed looks after past unfilled =>
    have passes : WatchPass.along false list.slice list.cursor (list.files.drop list.cursor) world =
        ⟨looks, passed, [], after⟩ := by
      have whole := past.along_append unfilled []
      rw [List.append_nil] at whole
      rw [whole, WatchPass.along]
      simp only [List.append_nil]
    rw [poll_of_succeeds passes past.succeeds]
    simp only [List.append_nil, if_true]

/-- From where it has got to, a poll comes to one of its ends. -/
theorem exists_pollEnds {gone more passed : List (WatchedFile Loader)} {looks : List Look} {between : World}
    (ahead : list.files.drop list.cursor = gone ++ more) (past : GoesPast list.cursor gone world looks passed between)
    (unfilled : filled looks < list.slice) : ∃ outcome, PollEnds list world outcome := by
  induction more generalizing gone passed looks between with
  | nil =>
    rw [List.append_nil] at ahead
    rw [← ahead] at past
    exact ⟨_, .ended past unfilled⟩
  | cons file more step =>
    have further : list.files.drop list.cursor = (gone ++ [file]) ++ more := ahead.trans (List.append_cons ..)
    cases dynamic : file.isStatic with
    | true => exact step further (past.append (.skipped dynamic .nothing)) (by rwa [List.append_nil])
    | false =>
      obtain ⟨look, visited, after, found⟩ := exists_examines (list.cursor + gone.length) file between
      cases stops : look.visit.stops with
      | true =>
        obtain ⟨reason, fails⟩ := Visit.stops_iff.mp stops
        exact ⟨_, .failed ahead past unfilled dynamic found fails⟩
      | false =>
        by_cases last : look.visit.counts = true ∧ filled looks + 1 = list.slice
        · exact ⟨_, .full ahead past last.2 dynamic found (Visit.counts_iff.mp last.1)⟩
        · have unfilled' : filled (looks ++ [look]) < list.slice := by
            rw [filled_concat]
            split
            · rename_i counts
              exact Nat.lt_of_le_of_ne unfilled fun full => last ⟨counts, full⟩
            · exact unfilled
          have goesOn := Visit.stops_eq_false_iff.mp stops
          exact step further (past.append (.looked dynamic found goesOn .nothing)) unfilled'

theorem pollEnds_iff (positive : 0 < list.slice) : PollEnds list world outcome ↔ outcome = list.poll world := by
  constructor
  · exact PollEnds.eq_poll
  · rintro rfl
    have nowhere : GoesPast list.cursor ([] : List (WatchedFile Loader)) world [] [] world := .nothing
    obtain ⟨outcome, ends⟩ := exists_pollEnds (List.nil_append (list.files.drop list.cursor)).symm nowhere positive
    rwa [← ends.eq_poll]

theorem poll_looks_first (list : WatchList Loader) {file : WatchedFile Loader} {more : List (WatchedFile Loader)}
    (positive : 0 < list.slice) (ahead : list.files.drop list.cursor = file :: more) (dynamic : file.isStatic = false)
    (world : World) :
    ∃ look visited looks, LooksAt false list.cursor file visited look ∧ (list.poll world).looks = look :: looks := by
  have looks : (list.poll world).looks =
    (WatchPass.along false list.slice list.cursor (list.files.drop list.cursor) world).looks := rfl
  obtain ⟨look, visited, after, found⟩ := exists_examines list.cursor file world
  rw [looks, ahead]
  cases stops : look.visit.stops with
  | true =>
    rw [WatchPass.along_failed positive (.inl dynamic) found.look_eq stops]
    exact ⟨look, visited, _, found.looksAt, rfl⟩
  | false =>
    rw [WatchPass.along_looked positive (.inl dynamic) found.look_eq stops]
    exact ⟨look, visited, _, found.looksAt, rfl⟩

/-- After a failure the next poll begins with the file whose loader has failed. -/
theorem poll_resumes {path : Text} {reason : String} (steady : list.Steady)
    (failure : (list.poll world).result = .error (.loadFailure path reason)) :
    ∃ before failed, (list.poll world).looks = before ++ [failed] ∧ failed.path = path ∧
      failed.visit = .failed reason ∧ ∀ next : World, ∃ again more,
        ((list.poll world).list.poll next).looks = again :: more ∧
        again.position = failed.position ∧ again.path = failed.path ∧
        (again.visit.loads = true ↔ ∃ time, again.time = some time ∧ failed.time ≠ some time) := by
  have ends : PollEnds list world (list.poll world) := (pollEnds_iff steady.slice_pos).mpr rfl
  generalize list.poll world = outcome at ends failure ⊢
  cases ends with
  | full => cases failure
  | ended => cases failure
  | @failed gone behind passed file visited looks look between after reason' ahead past unfilled dynamic found fails =>
    obtain ⟨rfl, rfl⟩ : file.path = path ∧ reason' = reason := by simpa using failure
    have looksAt := found.looksAt
    have loads : look.visit.loads = true := by
      rw [fails]
      rfl
    refine ⟨looks, look, rfl, looksAt.path_eq, fails, fun next => ?_⟩
    have front : (list.files.take list.cursor ++ passed).length = list.cursor + gone.length := by
      rw [List.length_append, List.length_take_of_le steady.cursor_le, past.length_eq]
    obtain ⟨_, _, more, again, begins⟩ := poll_looks_first
      { list with
        files := list.files.take list.cursor ++ passed ++ visited :: behind
        cursor := list.cursor + gone.length }
      steady.slice_pos (List.drop_left' front) (looksAt.visited_isStatic.trans dynamic) next
    refine ⟨_, more, begins, again.position_eq.trans looksAt.position_eq.symm, ?_, ?_⟩
    · rw [again.path_eq, looksAt.visited_path, looksAt.path_eq]
    · rw [again.loads_iff, looksAt.seen_eq, if_pos loads]
      simp

/-- A poll goes on from the cursor, past static files and with a look at each of the others, and comes to the first of
its ends. If that is a failure, the next poll begins with a look at the same file, and runs its loader only if the time
is another one than that found before the failure. -/
theorem poll_ends_first (reachable : Reachable Loader World list) (world : World) :
    (∀ outcome, PollEnds list world outcome ↔ outcome = list.poll world) ∧
    ∀ path reason, (list.poll world).result = .error (.loadFailure path reason) →
      ∃ before failed, (list.poll world).looks = before ++ [failed] ∧ failed.path = path ∧
        failed.visit = .failed reason ∧ ∀ next : World, ∃ again more,
          ((list.poll world).list.poll next).looks = again :: more ∧
          again.position = failed.position ∧ again.path = failed.path ∧
          (again.visit.loads = true ↔ ∃ time, again.time = some time ∧ failed.time ≠ some time) :=
  ⟨fun _ => pollEnds_iff reachable.steady.slice_pos, fun _ _ => poll_resumes reachable.steady⟩

theorem poll_ends_first_behind_static :
    let bad : Script := [⟨none, none, .error (.failed "bad")⟩]
    let stage : Stage := ⟨[(['s'], 1), (['a'], 1), (['b'], 1)], []⟩
    let one : WatchList Script := (empty.register ['s'] [] true stage).list
    let two := (one.register ['a'] [] false stage).list
    let list := (two.register ['b'] bad false stage).list.withSlice 1
    let first := list.poll stage
    let second := first.list.poll stage
    PollEnds list stage first ∧ first.result = .error (.loadFailure ['b'] "bad") ∧ first.list.cursor = 2 ∧
      PollEnds first.list stage second ∧ second.result = .ok .ok ∧ second.list.cursor = 0 ∧
      ∃ again more, second.looks = again :: more ∧ again.position = 2 ∧ again.visit.loads = false := by
  intro bad stage one two list first second
  have begun : Reachable Script Stage one := Reachable.created.registered ['s'] [] true stage
  have reachable : Reachable Script Stage list :=
    ((begun.registered ['a'] [] false stage).registered ['b'] bad false stage).sliced 1
  obtain ⟨ends, resumes⟩ := poll_ends_first reachable stage
  obtain ⟨ends_again, _⟩ := poll_ends_first (reachable.polled stage) stage
  refine ⟨(ends first).mpr rfl, rfl, rfl, (ends_again second).mpr rfl, rfl, rfl, ?_⟩
  obtain ⟨before, failed, looks, _, _, next⟩ := resumes ['b'] "bad" rfl
  obtain ⟨again, more, begins, place, _, loads⟩ := next stage
  have last : failed = ⟨2, ['b'], some 1, .failed "bad"⟩ := by
    have whole : [⟨1, ['a'], some 1, .reloaded⟩, ⟨2, ['b'], some 1, .failed "bad"⟩] = before ++ [failed] := looks
    simpa [eq_comm] using congrArg List.getLast? whole
  have first : again.time = some 1 := by
    have whole : [⟨2, ['b'], some 1, .unchanged⟩] = again :: more := begins
    rw [← (List.cons.inj whole).1]
  refine ⟨again, more, begins, ?_, ?_⟩
  · rw [place, last]
  · rw [Bool.eq_false_iff, Ne, loads, last, first]
    simp

end WatchList

end LineTemplates
