import LineTemplates.Watch
import Mathlib.Logic.Basic

/-! Passes over watched files, look by look. Whatever the world does in the meantime, a pass takes the files in their
order, looks at those that it may look at, and stops only at a failure or when its budget is used up. -/

namespace LineTemplates

variable {Loader World : Type}

theorem WatchPass.failure?_eq_none_iff {pass : WatchPass Loader World} :
    pass.failure? = none ↔ ∀ look ∈ pass.looks, look.visit.stops = false := by
  rw [failure?, List.findSome?_eq_none_iff]
  refine forall_congr' fun look => imp_congr_right fun _ => ?_
  cases look.visit <;> simp [Visit.stops]

variable [WatchHost Loader World]

/-- What a look at a file can be. The loader runs if the file is there, and unless the pass is forced only if the time
found is another one than before; that time is kept whatever the loader says. -/
structure LooksAt (forced : Bool) (position : Nat) (file visited : WatchedFile Loader) (look : Look) : Prop where
  position_eq : look.position = position
  path_eq : look.path = file.path
  visited_path : visited.path = file.path
  visited_isStatic : visited.isStatic = file.isStatic
  loads_iff : look.visit.loads = true ↔ ∃ time, look.time = some time ∧ (forced = true ∨ file.seen ≠ some time)
  seen_eq : visited.seen = if look.visit.loads then look.time else file.seen

theorem Visit.loads_ofLoad (answer : Except LoaderError Unit) : (Visit.ofLoad answer).loads = true := by
  match answer with
  | .ok _ => rfl
  | .error .declined => rfl
  | .error (.failed _) => rfl

theorem looksAt_look (forced : Bool) (position : Nat) (file : WatchedFile Loader) (world : World) :
    LooksAt forced position file (file.look forced position world).2.1 (file.look forced position world).1 := by
  unfold WatchedFile.look
  split
  · exact ⟨rfl, rfl, rfl, rfl, by simp [Visit.loads], by simp [Visit.loads]⟩
  · rename_i time later found
    by_cases same : (!forced && file.seen == some time) = true
    · rw [if_pos same]
      simp only [Bool.and_eq_true, Bool.not_eq_true', beq_iff_eq] at same
      exact ⟨rfl, rfl, rfl, rfl, by simp [Visit.loads, same], by simp [Visit.loads]⟩
    · rw [if_neg same]
      simp only [Bool.and_eq_true, Bool.not_eq_true', beq_iff_eq, not_and_or, Bool.not_eq_false] at same
      exact ⟨rfl, rfl, rfl, rfl, by simp [Visit.loads_ofLoad, same], by simp [Visit.loads_ofLoad]⟩

inductive GoesAlong (forced : Bool) : (budget position : Nat) → (files : List (WatchedFile Loader)) →
    (looks : List Look) → (passed left : List (WatchedFile Loader)) → Prop
  | ended {budget position : Nat} : GoesAlong forced budget position [] [] [] []
  | spent {position : Nat} {files : List (WatchedFile Loader)} : GoesAlong forced 0 position files [] [] files
  | skipped {budget position : Nat} {file : WatchedFile Loader} {more passed left : List (WatchedFile Loader)}
      {looks : List Look} (static : file.isStatic = true) (polled : forced = false)
      (later : GoesAlong forced budget (position + 1) more looks passed left) :
      GoesAlong forced budget position (file :: more) looks (file :: passed) left
  | stopped {budget position : Nat} {file visited : WatchedFile Loader} {more : List (WatchedFile Loader)}
      {look : Look} (watched : file.isStatic = false ∨ forced = true)
      (looksAt : LooksAt forced position file visited look) (stops : look.visit.stops = true) :
      GoesAlong forced budget position (file :: more) [look] [] (visited :: more)
  | looked {budget position : Nat} {file visited : WatchedFile Loader} {more passed left : List (WatchedFile Loader)}
      {look : Look} {looks : List Look} (watched : file.isStatic = false ∨ forced = true)
      (looksAt : LooksAt forced position file visited look) (goesOn : look.visit.stops = false)
      (later : GoesAlong forced (if look.visit.counts then budget - 1 else budget) (position + 1) more looks passed left) :
      GoesAlong forced budget position (file :: more) (look :: looks) (visited :: passed) left

theorem WatchedFile.watched_iff {file : WatchedFile Loader} {forced : Bool} :
    ¬ (file.isStatic && !forced) = true ↔ file.isStatic = false ∨ forced = true := by
  cases file.isStatic <;> cases forced <;> simp

theorem goesAlong_along (forced : Bool) (budget position : Nat) (files : List (WatchedFile Loader)) (world : World) :
    GoesAlong forced budget position files (WatchPass.along forced budget position files world).looks
      (WatchPass.along forced budget position files world).passed
      (WatchPass.along forced budget position files world).left := by
  fun_induction WatchPass.along forced budget position files world with
  | case1 => exact .ended
  | case2 => exact .spent
  | case3 budget position world file more _ static later =>
    obtain ⟨static, polled⟩ := Bool.and_eq_true_iff.mp static
    exact .skipped static (by simpa using polled) later
  | case4 budget position world file more _ looks look visited later found stops =>
    have looksAt := looksAt_look forced position file world
    rw [found] at looksAt
    exact .stopped (WatchedFile.watched_iff.mp looks) looksAt stops
  | case5 budget position world file more _ looks look visited after found goesOn left later =>
    have looksAt := looksAt_look forced position file world
    rw [found] at looksAt
    exact .looked (WatchedFile.watched_iff.mp looks) looksAt (by simpa using goesOn) later

def WatchedFile.label (file : WatchedFile Loader) : Text × Bool := (file.path, file.isStatic)

def Look.place (look : Look) : Nat × Text := (look.position, look.path)

def watchedFrom (position : Nat) (files : List (WatchedFile Loader)) : List (Nat × Text) :=
  ((files.zipIdx position).filter fun entry => !entry.1.isStatic).map fun entry => (entry.2, entry.1.path)

section Watched

variable {position : Nat} {file : WatchedFile Loader} {files others more : List (WatchedFile Loader)}

@[simp]
theorem watchedFrom_nil : watchedFrom position ([] : List (WatchedFile Loader)) = [] := rfl

theorem watchedFrom_static (static : file.isStatic = true) :
    watchedFrom position (file :: more) = watchedFrom (position + 1) more := by
  simp [watchedFrom, static]

theorem watchedFrom_dynamic (dynamic : file.isStatic = false) :
    watchedFrom position (file :: more) = (position, file.path) :: watchedFrom (position + 1) more := by
  simp [watchedFrom, dynamic]

theorem watchedFrom_append (position : Nat) (files more : List (WatchedFile Loader)) :
    watchedFrom position (files ++ more) = watchedFrom position files ++ watchedFrom (position + files.length) more := by
  simp [watchedFrom, List.zipIdx_append]

theorem watchedFrom_congr (same : files.map WatchedFile.label = others.map WatchedFile.label) :
    watchedFrom position files = watchedFrom position others := by
  induction files generalizing position others with
  | nil =>
    obtain rfl := List.map_eq_nil_iff.mp same.symm
    rfl
  | cons file more step =>
    obtain ⟨other, rest, rfl, first, later⟩ := List.map_eq_cons_iff.mp same.symm
    obtain ⟨path, static⟩ := Prod.mk.inj first
    cases dynamic : file.isStatic with
    | true => rw [watchedFrom_static dynamic, watchedFrom_static (static.trans dynamic), step later.symm]
    | false => rw [watchedFrom_dynamic dynamic, watchedFrom_dynamic (static.trans dynamic), step later.symm, path]

end Watched

namespace GoesAlong

variable {forced : Bool} {budget position : Nat} {files passed left : List (WatchedFile Loader)} {looks : List Look}

theorem label_eq (goes : GoesAlong forced budget position files looks passed left) :
    (passed ++ left).map WatchedFile.label = files.map WatchedFile.label := by
  have kept {file visited : WatchedFile Loader} {place : Nat} {look : Look}
      (looksAt : LooksAt forced place file visited look) : visited.label = file.label :=
    Prod.ext looksAt.visited_path looksAt.visited_isStatic
  induction goes with
  | ended => rfl
  | spent => rfl
  | skipped static polled later step => rw [List.cons_append, List.map_cons, List.map_cons, step]
  | stopped watched looksAt stops =>
    rw [List.nil_append, List.map_cons, List.map_cons, kept looksAt]
  | looked watched looksAt goesOn later step =>
    rw [List.cons_append, List.map_cons, List.map_cons, kept looksAt, step]

theorem length_eq (goes : GoesAlong forced budget position files looks passed left) :
    passed.length + left.length = files.length := by
  have same := congrArg List.length goes.label_eq
  rwa [List.length_map, List.length_map, List.length_append] at same

theorem position_mem (goes : GoesAlong forced budget position files looks passed left) :
    ∀ look ∈ looks, position ≤ look.position ∧ look.position < position + files.length := by
  induction goes with
  | ended => nofun
  | spent => nofun
  | skipped static polled later step =>
    intro look inside
    have bounds := step look inside
    rw [List.length_cons]
    omega
  | stopped watched looksAt stops =>
    refine List.forall_mem_singleton.mpr ?_
    rw [looksAt.position_eq, List.length_cons]
    omega
  | looked watched looksAt goesOn later step =>
    rw [List.forall_mem_cons, looksAt.position_eq, List.length_cons]
    refine ⟨by omega, ?_⟩
    intro look inside
    have bounds := step look inside
    omega

theorem place_eq (goes : GoesAlong false budget position files looks passed left)
    (succeeds : ∀ look ∈ looks, look.visit.stops = false) : looks.map Look.place = watchedFrom position passed := by
  induction goes with
  | ended => rfl
  | spent => rfl
  | skipped static polled later step => rw [watchedFrom_static static, step succeeds]
  | stopped watched looksAt stops => simp [stops] at succeeds
  | @looked _ position file visited _ _ _ look _ watched looksAt goesOn later step =>
    have dynamic : visited.isStatic = false := looksAt.visited_isStatic.trans (watched.resolve_right nofun)
    have place : look.place = (position, visited.path) :=
      Prod.ext looksAt.position_eq (looksAt.path_eq.trans looksAt.visited_path.symm)
    rw [watchedFrom_dynamic dynamic, List.map_cons, place, step (List.forall_mem_cons.mp succeeds).2]

theorem le_budget (budget : Nat) (visit : Visit) : budget ≤ (if visit.counts then budget - 1 else budget) + 1 := by
  split <;> omega

/-- A pass that does not fail stops in front of a file only if it has looked at as many files as it may. -/
theorem left_eq_nil_or (goes : GoesAlong forced budget position files looks passed left)
    (succeeds : ∀ look ∈ looks, look.visit.stops = false) : left = [] ∨ budget ≤ looks.length := by
  induction goes with
  | ended => exact .inl rfl
  | spent => exact .inr (Nat.zero_le _)
  | skipped static polled later step => exact step succeeds
  | stopped watched looksAt stops => simp [stops] at succeeds
  | @looked budget _ _ _ _ _ _ look looks watched looksAt goesOn later step =>
    refine (step (List.forall_mem_cons.mp succeeds).2).imp_right ?_
    intro spent
    exact Nat.le_trans (le_budget budget look.visit) (Nat.succ_le_succ spent)

theorem left_eq_nil (goes : GoesAlong forced budget position files looks passed left)
    (succeeds : ∀ look ∈ looks, look.visit.stops = false) (enough : files.length ≤ budget) : left = [] := by
  induction goes with
  | ended => rfl
  | spent => exact List.eq_nil_of_length_eq_zero (Nat.le_zero.mp enough)
  | skipped static polled later step => exact step succeeds (Nat.le_of_succ_le enough)
  | stopped watched looksAt stops => simp [stops] at succeeds
  | @looked budget _ _ _ _ _ _ look looks watched looksAt goesOn later step =>
    apply step (List.forall_mem_cons.mp succeeds).2
    exact Nat.le_of_succ_le_succ (Nat.le_trans enough (le_budget budget look.visit))

end GoesAlong

namespace WatchList

variable (list : WatchList Loader) (world : World)

theorem poll_goes : ∃ passed left,
    GoesAlong false list.slice list.cursor (list.files.drop list.cursor) (list.poll world).looks passed left ∧
    (list.poll world).list =
      { list with
        files := list.files.take list.cursor ++ passed ++ left
        cursor := if left.isEmpty then 0 else list.cursor + passed.length } :=
  ⟨_, _, goesAlong_along .., rfl⟩

/-- A forced pass goes along all files; it leaves the cursor where it was, or at the beginning. -/
theorem reloadAll_goes : ∃ passed left cursor,
    GoesAlong true list.files.length 0 list.files (list.reloadAll world).looks passed left ∧
    (list.reloadAll world).list = { list with files := passed ++ left, cursor := cursor } ∧
    (cursor = list.cursor ∨ cursor = 0) :=
  ⟨_, _, _, goesAlong_along .., rfl, by split <;> simp⟩

theorem register_grows (path : Text) (loader : Loader) (isStatic : Bool) :
    (list.register path loader isStatic world).list = list ∨ ∃ file : WatchedFile Loader,
      (list.register path loader isStatic world).list = { list with files := list.files ++ [file], cursor := 0 } ∧
      file.label = (path, isStatic) ∧ (isStatic = false → file.seen = none) := by
  unfold register
  split
  · exact .inl rfl
  · right
    cases isStatic with
    | false => exact ⟨_, rfl, rfl, fun _ => rfl⟩
    | true => exact ⟨_, rfl, rfl, nofun⟩

variable {list world}

theorem poll_succeeds {status : WatchStatus} (result : (list.poll world).result = .ok status) :
    ∀ look ∈ (list.poll world).looks, look.visit.stops = false := by
  apply WatchPass.failure?_eq_none_iff.mp
  simp only [poll] at result
  split at result
  · cases result
  · assumption

theorem reloadAll_succeeds {status : WatchStatus} (result : (list.reloadAll world).result = .ok status) :
    ∀ look ∈ (list.reloadAll world).looks, look.visit.stops = false := by
  apply WatchPass.failure?_eq_none_iff.mp
  simp only [reloadAll] at result
  split at result
  · cases result
  · assumption

end WatchList

end LineTemplates
