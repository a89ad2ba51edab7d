import LineTemplates.Proofs.Watch.Calls
import LineTemplates.Proofs.Watch.History
import Mathlib.Data.List.Forall2
import Mathlib.Tactic.ByContra

/-! How loaders come to rest. A look settles its file: unless the time found there changes, no poll runs the loader again. A
round of polls settles every file that polls look at, and so does a forced pass. -/

namespace LineTemplates

variable {Loader World : Type} [WatchHost Loader World]

def Settled (times : Text → Option Int) (file : WatchedFile Loader) : Prop :=
  file.isStatic = false → ∀ time, times file.path = some time → file.seen = some time

section Settled

variable {forced : Bool} {budget position : Nat} {file visited : WatchedFile Loader}
  {files passed left : List (WatchedFile Loader)} {look : Look} {looks : List Look} {times : Text → Option Int}

/-- A look at a file settles it, whether or not its loader runs. -/
theorem LooksAt.settled (looksAt : LooksAt forced position file visited look)
    (agrees : look.time = times look.path) : Settled times visited := by
  intro dynamic time there
  rw [looksAt.visited_path, ← looksAt.path_eq, ← agrees] at there
  rw [looksAt.seen_eq]
  split
  · exact there
  · rename_i idle
    rw [looksAt.loads_iff] at idle
    by_contra other
    exact idle ⟨time, there, .inr other⟩

theorem LooksAt.idle (looksAt : LooksAt false position file visited look) (dynamic : file.isStatic = false)
    (settled : Settled times file) (agrees : look.time = times look.path) : look.visit.loads = false := by
  rw [Bool.eq_false_iff, Ne, looksAt.loads_iff]
  rintro ⟨time, there, forced | other⟩
  · cases forced
  · rw [agrees, looksAt.path_eq] at there
    exact other (settled dynamic time there)

namespace GoesAlong

theorem settled_passed (goes : GoesAlong forced budget position files looks passed left)
    (agree : ∀ look ∈ looks, look.time = times look.path) : ∀ file ∈ passed, Settled times file := by
  induction goes with
  | ended => nofun
  | spent => nofun
  | skipped static polled later step =>
    refine List.forall_mem_cons.mpr ⟨?_, step agree⟩
    intro dynamic
    rw [static] at dynamic
    cases dynamic
  | stopped => nofun
  | looked watched looksAt goesOn later step =>
    obtain ⟨here, behind⟩ := List.forall_mem_cons.mp agree
    exact List.forall_mem_cons.mpr ⟨looksAt.settled here, step behind⟩

theorem idle (goes : GoesAlong false budget position files looks passed left)
    (agree : ∀ look ∈ looks, look.time = times look.path) (settled : ∀ file ∈ files, Settled times file) :
    ∀ look ∈ looks, look.visit.loads = false := by
  induction goes with
  | ended => nofun
  | spent => nofun
  | skipped static polled later step => exact step agree (List.forall_mem_cons.mp settled).2
  | stopped watched looksAt stops =>
    have here := List.forall_mem_singleton.mp agree
    have dynamic := watched.resolve_right nofun
    exact List.forall_mem_singleton.mpr (looksAt.idle dynamic (List.forall_mem_cons.mp settled).1 here)
  | looked watched looksAt goesOn later step =>
    obtain ⟨here, behind⟩ := List.forall_mem_cons.mp agree
    obtain ⟨first, others⟩ := List.forall_mem_cons.mp settled
    have dynamic := watched.resolve_right nofun
    exact List.forall_mem_cons.mpr ⟨looksAt.idle dynamic first here, step behind others⟩

end GoesAlong

end Settled

namespace WatchList

variable {list : WatchList Loader} {times : Text → Option Int}

/-- A poll settles the files that it goes past; if it gets to the end, all files have been gone past. -/
theorem settled_poll {world : World} (steady : list.Steady)
    (succeeds : ∀ look ∈ (list.poll world).looks, look.visit.stops = false)
    (agree : ∀ look ∈ (list.poll world).looks, look.time = times look.path)
    (front : ∀ file ∈ list.files.take list.cursor, Settled times file) :
    (∀ file ∈ (list.poll world).list.files.take (list.poll world).list.cursor, Settled times file) ∧
      ((list.poll world).list.cursor = 0 → ∀ file ∈ (list.poll world).list.files, Settled times file) := by
  obtain ⟨passed, left, goes, progress⟩ := poll_progress steady succeeds
  have behind : ∀ file ∈ list.files.take list.cursor ++ passed, Settled times file :=
    List.forall_mem_append.mpr ⟨front, goes.settled_passed agree⟩
  rcases progress with ⟨rfl, shape⟩ | ⟨_, passes, shape⟩
  · rw [shape]
    exact ⟨nofun, fun _ => behind⟩
  · have before : (list.files.take list.cursor ++ passed ++ left).take (list.cursor + passed.length) =
        list.files.take list.cursor ++ passed := by
      apply List.take_left'
      rw [List.length_append, List.length_take_of_le steady.cursor_le]
    rw [shape]
    refine ⟨?_, fun start => ?_⟩
    · dsimp only
      rw [before]
      exact behind
    · exact absurd start (Nat.ne_of_gt (Nat.add_pos_right _ passes))

section Polls

variable {worlds : List World}

/-- When the cursor comes back to the beginning every file is settled. -/
theorem settled_of_round (steady : list.Steady)
    (front : ∀ file ∈ list.files.take list.cursor, Settled times file)
    {early : List (WatchOutcome Loader World)} {last : WatchOutcome Loader World}
    (polls : list.polls worlds = early ++ [last])
    (succeeds : ∀ outcome ∈ early ++ [last], ∃ status, outcome.result = .ok status)
    (agree : ∀ outcome ∈ early ++ [last], ∀ look ∈ outcome.looks, look.time = times look.path)
    (back : last.list.cursor = 0) : ∀ file ∈ last.list.files, Settled times file := by
  -- From poll to poll the files in front of the cursor are settled.
  induction worlds generalizing list early with
  | nil => simp [WatchList.polls] at polls
  | cons world worlds step =>
    rw [WatchList.polls] at polls
    rw [← polls, List.forall_mem_cons] at succeeds agree
    obtain ⟨⟨status, result⟩, later⟩ := succeeds
    obtain ⟨now, afterwards⟩ := agree
    have settles := settled_poll steady (poll_succeeds result) now front
    cases early with
    | nil =>
      obtain ⟨rfl, -⟩ := List.cons.inj polls
      exact settles.2 back
    | cons first early =>
      obtain ⟨-, rest⟩ := List.cons.inj polls
      rw [rest] at later afterwards
      exact step (steady.poll world) settles.1 rest later afterwards

theorem Steady.of_polls (steady : list.Steady) : ∀ outcome ∈ list.polls worlds, outcome.list.Steady := by
  induction worlds generalizing list with
  | nil => nofun
  | cons world worlds step => exact List.forall_mem_cons.mpr ⟨steady.poll world, step (steady.poll world)⟩

theorem poll_rests {world : World} (steady : list.Steady) (settled : ∀ file ∈ list.files, Settled times file)
    (agree : ∀ look ∈ (list.poll world).looks, look.time = times look.path) :
    PollRests list.files world (list.poll world) := by
  obtain ⟨passed, left, goes, _⟩ := list.poll_goes world
  have ends : PollEnds list world (list.poll world) := (pollEnds_iff steady.slice_pos).mpr rfl
  exact ends.rests (goes.idle agree fun file among => settled file (List.mem_of_mem_drop among))

/-- Polls of settled files call no loader, and leave the files to one another as they are. -/
theorem polls_rest (steady : list.Steady) (settled : ∀ file ∈ list.files, Settled times file)
    (agree : ∀ outcome ∈ list.polls worlds, ∀ look ∈ outcome.looks, look.time = times look.path) :
    List.Forall₂ (PollRests list.files) worlds (list.polls worlds) := by
  induction worlds generalizing list with
  | nil => exact .nil
  | cons world worlds step =>
    rw [WatchList.polls, List.forall_mem_cons] at agree
    have rests := poll_rests steady settled agree.1
    have later := step (steady.poll world)
    rw [rests.files_eq] at later
    exact .cons rests (later settled agree.2)

end Polls

theorem settled_reloadAll {world : World}
    (succeeds : ∀ look ∈ (list.reloadAll world).looks, look.visit.stops = false)
    (agree : ∀ look ∈ (list.reloadAll world).looks, look.time = times look.path) :
    ∀ file ∈ (list.reloadAll world).list.files, Settled times file := by
  obtain ⟨passed, left, cursor, goes, shape, _⟩ := list.reloadAll_goes world
  obtain rfl := goes.left_eq_nil succeeds (Nat.le_refl _)
  rw [shape]
  dsimp only
  rw [List.append_nil]
  exact goes.settled_passed agree

/-- Each look of a history has been taken by a pass that came to its file. -/
theorem Reached.comesTo {looks : List Look} {list : WatchList Loader} (reached : Reached Loader World looks list)
    {before after : List Look} {look : Look} (whole : looks = before ++ look :: after) :
    ∃ earlier front, ∃ (list : WatchList Loader) (world : World), Reached Loader World earlier list ∧
      before = earlier ++ front ∧ (list.PollComesTo world front look ∨ list.ForcedPassComesTo world front look) := by
  induction reached generalizing before after with
  | created => simp at whole
  | registered _ _ _ _ _ step => exact step whole
  | @polled looks list reached world step =>
    rcases split_append whole with ⟨rest, first⟩ | ⟨front, rfl, second⟩
    · exact step first
    · have ends : PollEnds list world (list.poll world) := (pollEnds_iff reached.mindful.steady.slice_pos).mpr rfl
      exact ⟨looks, front, list, world, reached, rfl, .inl (ends.comesTo second)⟩
  | @reloaded looks list reached world step =>
    rcases split_append whole with ⟨rest, first⟩ | ⟨front, rfl, second⟩
    · exact step first
    · have ends : ForcedPassEnds list world (list.reloadAll world) := forcedPassEnds_iff.mpr rfl
      exact ⟨looks, front, list, world, reached, rfl, .inr (ends.comesTo second)⟩
  | cleared => simp at whole

/-- A poll comes to a file and calls its loader just if the file is there with another time than the one found before the
last call of the loader in a pass, if there was one. So if the times stay as they are, no loader is called by the polls
after a round of polls that does not fail, or after a forced pass: they leave the files alone, and the world is only asked
for times. -/
theorem loader_runs_once_per_change {looks : List Look} {list : WatchList Loader}
    (reached : Reached Loader World looks list) :
    (∀ before look after, looks = before ++ look :: after →
      ∃ earlier front, ∃ (list : WatchList Loader) (world : World), Reached Loader World earlier list ∧
        before = earlier ++ front ∧ (list.PollComesTo world front look ∨ list.ForcedPassComesTo world front look)) ∧
    (∀ world : World, PollEnds list world (list.poll world) ∧
      ∀ before look after, (list.poll world).looks = before ++ look :: after →
        list.PollComesTo world before look ∧
        (look.visit.loads = true ↔ ∃ time, look.time = some time ∧
          ∀ earlier, lastLoad? look.position (looks ++ before) = some earlier → earlier.time ≠ some time)) ∧
    (∀ (times : Text → Option Int) (round later : List World) early last, list.cursor = 0 →
      list.polls round = early ++ [last] → last.list.cursor = 0 →
      (∀ outcome ∈ early ++ [last], ∃ status, outcome.result = .ok status) →
      (∀ outcome ∈ early ++ [last], ∀ look ∈ outcome.looks, look.time = times look.path) →
      (∀ outcome ∈ last.list.polls later, ∀ look ∈ outcome.looks, look.time = times look.path) →
      List.Forall₂ (PollRests last.list.files) later (last.list.polls later)) ∧
    ∀ (times : Text → Option Int) (world : World) (later : List World) status,
      (list.reloadAll world).result = .ok status →
      (∀ look ∈ (list.reloadAll world).looks, look.time = times look.path) →
      (∀ outcome ∈ (list.reloadAll world).list.polls later, ∀ look ∈ outcome.looks, look.time = times look.path) →
      List.Forall₂ (PollRests (list.reloadAll world).list.files) later ((list.reloadAll world).list.polls later) := by
  have steady : list.Steady := reached.mindful.steady
  refine ⟨fun _ _ _ => reached.comesTo, ?each, ?round, ?forced⟩
  case each =>
    intro world
    have ends : PollEnds list world (list.poll world) := (pollEnds_iff steady.slice_pos).mpr rfl
    exact ⟨ends, fun before look after whole => ⟨ends.comesTo whole, reached.due world whole⟩⟩
  case round =>
    intro times round later early last begun polls back succeeds agree still
    have front : ∀ file ∈ list.files.take list.cursor, Settled times file := by
      rw [begun]
      exact nofun
    have among : last ∈ list.polls round := by simp [polls]
    exact polls_rest (steady.of_polls last among) (settled_of_round steady front polls succeeds agree back) still
  case forced =>
    intro times world later status result agree still
    exact polls_rest (steady.reloadAll world) (settled_reloadAll (reloadAll_succeeds result) agree) still

/-- A loader that changes its own file is called once more, and then no longer. -/
theorem loader_runs_once_per_change_of_own_file :
    let loader : Script := [⟨some (['a'], 2), none, .ok ()⟩, ⟨none, none, .ok ()⟩]
    let stage : Stage := ⟨[(['a'], 1)], []⟩
    let list : WatchList Script := ((empty.withSlice 1).register ['a'] loader false stage).list
    let first := list.poll stage
    let second := first.list.poll first.world
    let forced := second.list.reloadAll second.world
    first.looks = [⟨0, ['a'], some 1, .reloaded⟩] ∧ first.world.answers = [(['a'], .ok ())] ∧
      first.list.PollComesTo first.world [] ⟨0, ['a'], some 2, .reloaded⟩ ∧
      (∀ earlier, lastLoad? 0 first.looks = some earlier → earlier.time ≠ some 2) ∧
      second.world.answers = [(['a'], .ok ()), (['a'], .ok ())] ∧
      List.Forall₂ (PollRests second.list.files) [second.world] (second.list.polls [second.world]) ∧
      forced.world.answers.length = 3 ∧
      List.Forall₂ (PollRests forced.list.files) [forced.world] (forced.list.polls [forced.world]) := by
  intro loader stage list first second forced
  have registered : Reached Script Stage [] list := .registered (.created 1) ['a'] loader false stage
  have polled : Reached Script Stage first.looks first.list := registered.polled stage
  have twice : Reached Script Stage (first.looks ++ second.looks) second.list := polled.polled first.world
  obtain ⟨_, each, round, _⟩ := loader_runs_once_per_change polled
  obtain ⟨_, _, _, pass⟩ := loader_runs_once_per_change twice
  have looked : second.looks = [⟨0, ['a'], some 2, .reloaded⟩] := by decide +kernel
  obtain ⟨comes, due⟩ := (each first.world).2 [] ⟨0, ['a'], some 2, .reloaded⟩ [] looked
  obtain ⟨time, found, changed⟩ := due.mp rfl
  obtain rfl : 2 = time := Option.some.inj found
  have answered : first.world.answers = [(['a'], .ok ())] ∧
      second.world.answers = [(['a'], .ok ()), (['a'], .ok ())] ∧ forced.world.answers.length = 3 := by decide +kernel
  let times : Text → Option Int := first.world.time?
  refine ⟨rfl, answered.1, comes, changed, answered.2.1, ?_, answered.2.2, ?_⟩
  · have starts : first.list.cursor = 0 ∧ second.list.cursor = 0 := by decide +kernel
    have succeeds : second.result = .ok .ok := by decide +kernel
    exact round times [first.world] [second.world] [] second starts.1 rfl starts.2
      (List.forall_mem_singleton.mpr ⟨.ok, succeeds⟩) (by decide +kernel) (by decide +kernel)
  · have succeeds : forced.result = .ok .ok := by decide +kernel
    exact pass times second.world [forced.world] .ok succeeds (by decide +kernel) (by decide +kernel)

end WatchList

end LineTemplates
