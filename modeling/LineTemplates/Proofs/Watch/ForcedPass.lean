import LineTemplates.Proofs.Watch.Outcome

/-! Forced passes. The files take their turns in the order of the list, static ones among them, and the loader of each one
that is there by then runs, whether or not the file has changed. The pass ends behind the last file, or with the first
loader that fails. -/

namespace LineTemplates

variable {Loader World : Type} [WatchHost Loader World]

/-- What a file's turn in a forced pass comes to: the look, the file as it is afterwards, and the world that is left. The
time found before the loader runs is kept, whatever the loader answers. -/
inductive TakesTurn (position : Nat) (file : WatchedFile Loader) (world : World) :
    Look → WatchedFile Loader → World → Prop
  | missing {after : World} (absent : WatchHost.modified Loader file.path world = (none, after)) :
      TakesTurn position file world ⟨position, file.path, none, .missing⟩ file after
  | reloaded {time : Int} {loader : Loader} {between after : World}
      (present : WatchHost.modified Loader file.path world = (some time, between))
      (answer : WatchHost.load file.loader file.path between = (.ok (), loader, after)) :
      TakesTurn position file world ⟨position, file.path, some time, .reloaded⟩
        { file with loader := loader, seen := some time } after
  | declined {time : Int} {loader : Loader} {between after : World}
      (present : WatchHost.modified Loader file.path world = (some time, between))
      (answer : WatchHost.load file.loader file.path between = (.error .declined, loader, after)) :
      TakesTurn position file world ⟨position, file.path, some time, .declined⟩
        { file with loader := loader, seen := some time } after
  | failed {time : Int} {loader : Loader} {between after : World} {reason : String}
      (present : WatchHost.modified Loader file.path world = (some time, between))
      (answer : WatchHost.load file.loader file.path between = (.error (.failed reason), loader, after)) :
      TakesTurn position file world ⟨position, file.path, some time, .failed reason⟩
        { file with loader := loader, seen := some time } after

inductive TakeTurns : (position : Nat) → (files : List (WatchedFile Loader)) → (world : World) → (looks : List Look) →
    (passed : List (WatchedFile Loader)) → (after : World) → Prop
  | nothing {position : Nat} {world : World} : TakeTurns position [] world [] [] world
  | next {position : Nat} {file visited : WatchedFile Loader} {more passed : List (WatchedFile Loader)}
      {world between after : World} {look : Look} {looks : List Look}
      (turn : TakesTurn position file world look visited between) (goesOn : ∀ reason, look.visit ≠ .failed reason)
      (later : TakeTurns (position + 1) more between looks passed after) :
      TakeTurns position (file :: more) world (look :: looks) (visited :: passed) after

def WatchStatus.ofTurns (looks : List Look) : WatchStatus :=
  if ∃ look ∈ looks, look.visit = .missing then .notFound
  else if ∃ look ∈ looks, look.visit = .declined then .notDynamic
  else .ok

inductive WatchList.ForcedPassEnds (list : WatchList Loader) (world : World) : WatchOutcome Loader World → Prop
  /-- A loader fails. The files behind its own are as they were, and so is the cursor. -/
  | failed {gone behind passed : List (WatchedFile Loader)} {file visited : WatchedFile Loader} {looks : List Look}
      {look : Look} {between after : World} {reason : String} (whole : list.files = gone ++ file :: behind)
      (past : TakeTurns 0 gone world looks passed between)
      (turn : TakesTurn gone.length file between look visited after) (fails : look.visit = .failed reason) :
      ForcedPassEnds list world
        ⟨.error (.loadFailure file.path reason), looks ++ [look],
          { list with files := passed ++ visited :: behind }, after⟩
  /-- Every file has had its turn. -/
  | ended {passed : List (WatchedFile Loader)} {looks : List Look} {after : World}
      (past : TakeTurns 0 list.files world looks passed after) :
      ForcedPassEnds list world ⟨.ok (.ofTurns looks), looks, { list with files := passed, cursor := 0 }, after⟩

def placesFrom (position : Nat) (files : List (WatchedFile Loader)) : List (Nat × Text) :=
  (files.zipIdx position).map fun entry => (entry.2, entry.1.path)

theorem placesFrom_append (position : Nat) (files more : List (WatchedFile Loader)) :
    placesFrom position (files ++ more) = placesFrom position files ++ placesFrom (position + files.length) more := by
  simp [placesFrom, List.zipIdx_append]

section Turn

variable {position : Nat} {file visited : WatchedFile Loader} {world after : World} {look : Look}

theorem exists_takesTurn (position : Nat) (file : WatchedFile Loader) (world : World) :
    ∃ look visited after, TakesTurn position file world look visited after := by
  obtain ⟨⟨found, between⟩, asked⟩ : ∃ result, WatchHost.modified Loader file.path world = result := ⟨_, rfl⟩
  cases found with
  | none => exact ⟨_, _, _, .missing asked⟩
  | some time =>
    obtain ⟨⟨answer, loader, after⟩, answered⟩ :
      ∃ result, WatchHost.load file.loader file.path between = result := ⟨_, rfl⟩
    match answer with
    | .ok () => exact ⟨_, _, _, .reloaded asked answered⟩
    | .error .declined => exact ⟨_, _, _, .declined asked answered⟩
    | .error (.failed reason) => exact ⟨_, _, _, .failed asked answered⟩

namespace TakesTurn

theorem look_eq (turn : TakesTurn position file world look visited after) :
    file.look true position world = (look, visited, after) := by
  cases turn with
  | missing absent => simp [WatchedFile.look, absent]
  | reloaded present answer => simp [WatchedFile.look, present, answer, Visit.ofLoad]
  | declined present answer => simp [WatchedFile.look, present, answer, Visit.ofLoad]
  | failed present answer => simp [WatchedFile.look, present, answer, Visit.ofLoad]

theorem place_eq (turn : TakesTurn position file world look visited after) : look.place = (position, file.path) := by
  cases turn <;> rfl

theorem loads_iff (turn : TakesTurn position file world look visited after) :
    look.visit.loads = true ↔ look.time.isSome = true := by
  cases turn <;> simp [Visit.loads]

end TakesTurn

end Turn

namespace TakeTurns

variable {position budget : Nat} {gone passed : List (WatchedFile Loader)} {world after : World} {looks : List Look}

theorem length_eq (past : TakeTurns position gone world looks passed after) :
    looks.length = gone.length ∧ passed.length = gone.length := by
  induction past with
  | nothing => exact ⟨rfl, rfl⟩
  | next _ _ _ step => exact ⟨congrArg (· + 1) step.1, congrArg (· + 1) step.2⟩

theorem succeeds (past : TakeTurns position gone world looks passed after) :
    ∀ look ∈ looks, look.visit.stops = false := by
  induction past with
  | nothing => nofun
  | next _ goesOn _ step => exact List.forall_mem_cons.mpr ⟨Visit.stops_eq_false_iff.mpr goesOn, step⟩

theorem place_eq (past : TakeTurns position gone world looks passed after) :
    looks.map Look.place = placesFrom position gone := by
  induction past with
  | nothing => rfl
  | next turn _ _ step =>
    rw [List.map_cons, turn.place_eq, step]
    rfl

theorem loads_iff (past : TakeTurns position gone world looks passed after) :
    ∀ look ∈ looks, look.visit.loads = true ↔ look.time.isSome = true := by
  induction past with
  | nothing => nofun
  | next turn _ _ step => exact List.forall_mem_cons.mpr ⟨turn.loads_iff, step⟩

/-- A budget for all files lasts for the ones that are still to come when some have had their turns. -/
theorem along_append (past : TakeTurns position gone world looks passed after) (more : List (WatchedFile Loader))
    (enough : gone.length + more.length ≤ budget) :
    ∃ rest, more.length ≤ rest ∧ WatchPass.along true budget position (gone ++ more) world =
      let pass := WatchPass.along true rest (position + gone.length) more after
      { pass with looks := looks ++ pass.looks, passed := passed ++ pass.passed } := by
  induction past generalizing budget with
  | nothing =>
    refine ⟨budget, ?_, rfl⟩
    rwa [List.length_nil, Nat.zero_add] at enough
  | @next position file _ gone _ _ _ _ look _ turn goesOn _ step =>
    rw [List.length_cons] at enough
    have left : gone.length + more.length ≤ if look.visit.counts then budget - 1 else budget := by
      split <;> omega
    obtain ⟨rest, lasts, passes⟩ := step left
    have place : position + 1 + gone.length = position + (file :: gone).length := Nat.succ_add_eq_add_succ ..
    refine ⟨rest, lasts, ?_⟩
    rw [List.cons_append, WatchPass.along_looked (by omega) (.inr rfl) turn.look_eq
      (Visit.stops_eq_false_iff.mpr goesOn), passes, place]
    rfl

end TakeTurns

/-- Either all of some files take their turns, or a loader fails after those in front of it. -/
theorem exists_takeTurns (position : Nat) (files : List (WatchedFile Loader)) (world : World) :
    (∃ looks passed after, TakeTurns position files world looks passed after) ∨
      ∃ gone file behind looks passed between look visited after reason, files = gone ++ file :: behind ∧
        TakeTurns position gone world looks passed between ∧
        TakesTurn (position + gone.length) file between look visited after ∧ look.visit = .failed reason := by
  induction files generalizing position world with
  | nil => exact .inl ⟨_, _, _, .nothing⟩
  | cons file more step =>
    obtain ⟨look, visited, between, turn⟩ := exists_takesTurn position file world
    cases stops : look.visit.stops with
    | true =>
      obtain ⟨reason, fails⟩ := Visit.stops_iff.mp stops
      exact .inr ⟨[], file, more, [], [], world, look, visited, between, reason, rfl, .nothing, turn, fails⟩
    | false =>
      have goesOn := Visit.stops_eq_false_iff.mp stops
      rcases step (position + 1) between with ⟨looks, passed, after, later⟩ | ⟨gone, other, behind, looks, passed,
        middle, last, changed, after, reason, rfl, later, lastTurn, fails⟩
      · exact .inl ⟨_, _, _, .next turn goesOn later⟩
      · right
        refine ⟨file :: gone, other, behind, look :: looks, visited :: passed, middle, last, changed, after, reason, rfl,
          .next turn goesOn later, ?_, fails⟩
        rwa [List.length_cons, ← Nat.succ_add_eq_add_succ]

omit [WatchHost Loader World] in
theorem WatchStatus.ofTurns_looks (pass : WatchPass Loader World) :
    WatchStatus.ofTurns pass.looks =
      if pass.has .missing then .notFound else if pass.has .declined then .notDynamic else .ok := by
  simp [ofTurns, WatchPass.has]

namespace WatchList

variable {list : WatchList Loader} {world : World} {outcome : WatchOutcome Loader World}

theorem ForcedPassEnds.eq_reloadAll (ends : ForcedPassEnds list world outcome) : outcome = list.reloadAll world := by
  cases ends with
  | @failed gone behind passed file visited looks look between after reason whole past turn fails =>
    have stops : look.visit.stops = true := by
      rw [fails]
      rfl
    obtain ⟨rest, lasts, passes⟩ := past.along_append (file :: behind) (Nat.le_of_eq (List.length_append).symm)
    rw [List.length_cons] at lasts
    rw [Nat.zero_add, WatchPass.along_failed (by omega) (.inr rfl) turn.look_eq stops, ← whole] at passes
    have failure := WatchPass.failure?_of_failed (congrArg WatchPass.looks passes) past.succeeds fails
    have path : look.path = file.path := (Prod.mk.inj turn.place_eq).2
    rw [path] at failure
    simp only [reloadAll, failure]
    simp only [passes, List.append_nil, Option.isSome_some, if_true]
  | @ended passed looks after past =>
    obtain ⟨rest, lasts, passes⟩ := past.along_append [] (Nat.le_refl _)
    rw [List.append_nil, List.length_nil, Nat.add_zero, WatchPass.along] at passes
    simp only [List.append_nil] at passes
    have success : (WatchPass.along true list.files.length 0 list.files world).failure? = none := by
      rw [passes]
      exact WatchPass.failure?_eq_none_iff.mpr past.succeeds
    simp only [reloadAll, success, ← WatchStatus.ofTurns_looks]
    simp only [passes, List.append_nil, Option.isSome_none, Bool.false_eq_true, if_false]

theorem forcedPassEnds_iff : ForcedPassEnds list world outcome ↔ outcome = list.reloadAll world := by
  constructor
  · exact ForcedPassEnds.eq_reloadAll
  · rintro rfl
    have ends : ∃ outcome, ForcedPassEnds list world outcome := by
      rcases exists_takeTurns 0 list.files world with ⟨_, _, _, past⟩ |
        ⟨_, _, _, _, _, _, _, _, _, _, whole, past, turn, fails⟩
      · exact ⟨_, .ended past⟩
      · rw [Nat.zero_add] at turn
        exact ⟨_, .failed whole past turn fails⟩
    obtain ⟨outcome, ends⟩ := ends
    rwa [← ends.eq_reloadAll]

/-- A forced pass looks once at each of the first files, in their order, and runs the loader of each one that it finds. -/
theorem ForcedPassEnds.in_order (ends : ForcedPassEnds list world outcome) :
    outcome.looks.map Look.place = placesFrom 0 (list.files.take outcome.looks.length) ∧
      ∀ look ∈ outcome.looks, look.visit.loads = true ↔ look.time.isSome = true := by
  cases ends with
  | @failed gone behind passed file visited looks look between after reason whole past turn fails =>
    have turns : list.files = gone ++ [file] ++ behind := whole.trans (List.append_cons ..)
    have first : list.files.take (looks ++ [look]).length = gone ++ [file] := by
      rw [turns]
      apply List.take_left'
      rw [List.length_append, List.length_append, past.length_eq.1, List.length_singleton, List.length_singleton]
    constructor
    · rw [first, placesFrom_append, List.map_append, past.place_eq, List.map_singleton, turn.place_eq, Nat.zero_add]
      rfl
    · exact List.forall_mem_append.mpr ⟨past.loads_iff, List.forall_mem_singleton.mpr turn.loads_iff⟩
  | ended past =>
    constructor
    · rw [past.place_eq, past.length_eq.1, List.take_length]
    · exact past.loads_iff

/-- A forced pass gives every file its turn, in their order and each of them once, until a loader fails; the loader of a
file runs if the file is there when its turn comes. A failure leaves the files behind it and the cursor as they were. -/
theorem forced_pass_runs_loaders_in_order (list : WatchList Loader) (world : World) :
    (∀ outcome, ForcedPassEnds list world outcome ↔ outcome = list.reloadAll world) ∧
    (list.reloadAll world).looks.map Look.place = placesFrom 0 (list.files.take (list.reloadAll world).looks.length) ∧
    ∀ look ∈ (list.reloadAll world).looks, look.visit.loads = true ↔ look.time.isSome = true :=
  ⟨fun _ => forcedPassEnds_iff, (forcedPassEnds_iff.mpr rfl).in_order⟩

theorem forced_pass_runs_loaders_in_order_until_failure :
    let remover : Script := [⟨none, some ['a'], .ok ()⟩]
    let bad : Script := [⟨none, none, .error (.failed "bad")⟩]
    let stage : Stage := ⟨[(['s'], 1), (['a'], 1), (['b'], 1), (['c'], 1)], []⟩
    let two : WatchList Script := ((empty.register ['s'] remover true stage).list.register ['a'] [] false stage).list
    let four := ((two.register ['b'] bad false stage).list.register ['c'] [] false stage).list
    let list := (four.poll stage).list
    let outcome := list.reloadAll stage
    let last : Look := ⟨2, ['b'], some 1, .failed "bad"⟩
    Reachable Script Stage list ∧ ForcedPassEnds list stage outcome ∧
      outcome.result = .error (.loadFailure ['b'] "bad") ∧ list.cursor = 2 ∧ outcome.list.cursor = 2 ∧
      outcome.looks = [⟨0, ['s'], some 1, .reloaded⟩, ⟨1, ['a'], none, .missing⟩, last] ∧
      outcome.looks.map Look.place = placesFrom 0 (list.files.take 3) ∧
      last ∈ outcome.looks ∧ (last.visit.loads = true ↔ last.time.isSome = true) := by
  intro remover bad stage two four list outcome last
  have begun : Reachable Script Stage two :=
    (Reachable.created.registered ['s'] remover true stage).registered ['a'] [] false stage
  have reachable : Reachable Script Stage list :=
    ((begun.registered ['b'] bad false stage).registered ['c'] [] false stage).polled stage
  obtain ⟨ends, places, loads⟩ := forced_pass_runs_loaders_in_order list stage
  have looks : outcome.looks = [⟨0, ['s'], some 1, .reloaded⟩, ⟨1, ['a'], none, .missing⟩, last] := by decide +kernel
  have result : outcome.result = .error (.loadFailure ['b'] "bad") := rfl
  have among : last ∈ outcome.looks := by simp [looks]
  have taken : outcome.looks.length = 3 := by rw [looks]; rfl
  have cursors : list.cursor = 2 ∧ outcome.list.cursor = 2 := by decide +kernel
  rw [show (list.reloadAll stage).looks.length = 3 from taken] at places
  exact ⟨reachable, (ends outcome).mpr rfl, result, cursors.1, cursors.2, looks, places, among, loads last among⟩

end WatchList

end LineTemplates
