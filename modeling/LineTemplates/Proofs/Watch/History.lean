import LineTemplates.Proofs.Watch.Memory

/-! Histories of watching. Through every series of registrations, polls, forced passes and clearings a list remembers the
looks at the files that it holds, so every look of the next poll is due. -/

namespace LineTemplates

variable {Loader World : Type} [WatchHost Loader World]

namespace WatchList

namespace Steady

variable {list : WatchList Loader}

omit [WatchHost Loader World] in
theorem start : (empty : WatchList Loader).Steady := ⟨(by decide : 0 < defaultSlice), .inl rfl⟩

omit [WatchHost Loader World] in
theorem withSlice (steady : list.Steady) (slice : Nat) : (list.withSlice slice).Steady :=
  ⟨Nat.lt_of_lt_of_le Nat.one_pos (Nat.le_max_right ..), steady.cursor_inside⟩

omit [WatchHost Loader World] in
theorem clear (steady : list.Steady) : list.clear.Steady := ⟨steady.slice_pos, .inl rfl⟩

theorem register (steady : list.Steady) (path : Text) (loader : Loader) (isStatic : Bool) (world : World) :
    (list.register path loader isStatic world).list.Steady := by
  rcases list.register_grows world path loader isStatic with same | ⟨file, shape, _, _⟩
  · rwa [same]
  · rw [shape]
    exact ⟨steady.slice_pos, .inl rfl⟩

theorem reloadAll (steady : list.Steady) (world : World) : (list.reloadAll world).list.Steady := by
  obtain ⟨passed, left, cursor, goes, shape, stands⟩ := list.reloadAll_goes world
  rw [shape]
  refine ⟨steady.slice_pos, ?_⟩
  rcases stands with rfl | start
  · rw [List.length_append, goes.length_eq]
    exact steady.cursor_inside
  · exact .inl start

end Steady

inductive Reachable (Loader World : Type) [WatchHost Loader World] : WatchList Loader → Prop
  | created : Reachable Loader World empty
  | sliced {list : WatchList Loader} (reachable : Reachable Loader World list) (slice : Nat) :
      Reachable Loader World (list.withSlice slice)
  | registered {list : WatchList Loader} (reachable : Reachable Loader World list) (path : Text) (loader : Loader)
      (isStatic : Bool) (world : World) : Reachable Loader World (list.register path loader isStatic world).list
  | polled {list : WatchList Loader} (reachable : Reachable Loader World list) (world : World) :
      Reachable Loader World (list.poll world).list
  | reloaded {list : WatchList Loader} (reachable : Reachable Loader World list) (world : World) :
      Reachable Loader World (list.reloadAll world).list
  | cleared {list : WatchList Loader} (reachable : Reachable Loader World list) : Reachable Loader World list.clear

theorem Reachable.steady {list : WatchList Loader} (reachable : Reachable Loader World list) : list.Steady := by
  induction reachable with
  | created => exact .start
  | sliced _ slice steady => exact steady.withSlice slice
  | registered _ path loader isStatic world steady => exact steady.register path loader isStatic world
  | polled _ world steady => exact steady.poll world
  | reloaded _ world steady => exact steady.reloadAll world
  | cleared _ steady => exact steady.clear

/-- The lists that come up, each with the looks that its passes have taken at the files it holds. Every call has a world
of its own. -/
inductive Reached (Loader World : Type) [WatchHost Loader World] : List Look → WatchList Loader → Prop
  | created (slice : Nat) : Reached Loader World [] (empty.withSlice slice)
  | registered {looks : List Look} {list : WatchList Loader} (reached : Reached Loader World looks list) (path : Text)
      (loader : Loader) (isStatic : Bool) (world : World) :
      Reached Loader World looks (list.register path loader isStatic world).list
  | polled {looks : List Look} {list : WatchList Loader} (reached : Reached Loader World looks list) (world : World) :
      Reached Loader World (looks ++ (list.poll world).looks) (list.poll world).list
  | reloaded {looks : List Look} {list : WatchList Loader} (reached : Reached Loader World looks list) (world : World) :
      Reached Loader World (looks ++ (list.reloadAll world).looks) (list.reloadAll world).list
  | cleared {looks : List Look} {list : WatchList Loader} (reached : Reached Loader World looks list) :
      Reached Loader World [] list.clear

structure Mindful (looks : List Look) (list : WatchList Loader) : Prop where
  steady : list.Steady
  inside : ∀ look ∈ looks, look.position < list.files.length
  remembers : Remembers looks 0 list.files

namespace Mindful

variable {looks : List Look} {list : WatchList Loader}

omit [WatchHost Loader World] in
theorem remembers_split (mindful : list.Mindful looks) :
    Remembers looks 0 (list.files.take list.cursor) ∧ Remembers looks list.cursor (list.files.drop list.cursor) := by
  have whole := mindful.remembers
  rwa [← List.take_append_drop list.cursor list.files, remembers_append,
    List.length_take_of_le mindful.steady.cursor_le, Nat.zero_add] at whole

omit [WatchHost Loader World] in
theorem created (slice : Nat) : (empty.withSlice slice : WatchList Loader).Mindful [] where
  steady := Steady.start.withSlice slice
  inside := nofun
  remembers := nofun

omit [WatchHost Loader World] in
theorem cleared (mindful : list.Mindful looks) : list.clear.Mindful [] where
  steady := mindful.steady.clear
  inside := nofun
  remembers := nofun

theorem registered (mindful : list.Mindful looks) (path : Text) (loader : Loader) (isStatic : Bool) (world : World) :
    (list.register path loader isStatic world).list.Mindful looks := by
  have steady := mindful.steady.register path loader isStatic world
  rcases list.register_grows world path loader isStatic with same | ⟨file, shape, label, fresh⟩
  · rw [same]
    exact mindful
  · rw [shape] at steady ⊢
    constructor
    case steady => exact steady
    case inside =>
      intro look among
      have inside := mindful.inside look among
      rw [List.length_append]
      omega
    case remembers =>
      refine remembers_append.mpr ⟨mindful.remembers, remembers_cons.mpr ⟨?_, nofun⟩⟩
      intro dynamic
      have unseen : lastLoad? (0 + list.files.length) looks = none := by
        apply lastLoad?_eq_none
        intro look among
        have inside := mindful.inside look among
        omega
      rw [unseen, fresh ((Prod.mk.inj label).2 ▸ dynamic)]
      rfl

theorem polled (mindful : list.Mindful looks) (world : World) :
    (list.poll world).list.Mindful (looks ++ (list.poll world).looks) := by
  have steady := mindful.steady.poll world
  obtain ⟨passed, left, goes, shape⟩ := list.poll_goes world
  have front := List.length_take_of_le mindful.steady.cursor_le
  have length := goes.length_eq
  rw [List.length_drop] at length
  obtain ⟨before, behind⟩ := mindful.remembers_split
  have outside : ∀ look ∈ (list.poll world).looks, list.cursor ≤ look.position ∧ look.position < list.files.length := by
    intro look among
    have bounds := goes.position_mem look among
    have cursor := mindful.steady.cursor_le
    rw [List.length_drop] at bounds
    omega
  constructor
  case steady => exact steady
  case inside =>
    rw [shape]
    intro look among
    have inside : look.position < list.files.length := by
      rcases List.mem_append.mp among with earlier | now
      · exact mindful.inside look earlier
      · exact (outside look now).2
    have cursor := mindful.steady.cursor_le
    simp only [List.length_append, front]
    omega
  case remembers =>
    rw [shape, List.append_assoc]
    refine remembers_append.mpr ⟨before.append ?_, ?_⟩
    · -- The files in front of the cursor are as they were, and no look has been taken at them.
      intro look among
      right
      rw [front, Nat.zero_add]
      exact (outside look among).1
    · rw [front, Nat.zero_add]
      exact goes.remembers behind

theorem reloaded (mindful : list.Mindful looks) (world : World) :
    (list.reloadAll world).list.Mindful (looks ++ (list.reloadAll world).looks) := by
  have steady := mindful.steady.reloadAll world
  obtain ⟨passed, left, cursor, goes, shape, _⟩ := list.reloadAll_goes world
  have length := goes.length_eq
  rw [shape] at steady ⊢
  constructor
  case steady => exact steady
  case inside =>
    intro look among
    rw [List.length_append, length]
    rcases List.mem_append.mp among with earlier | now
    · exact mindful.inside look earlier
    · have bounds := goes.position_mem look now
      omega
  case remembers => exact goes.remembers mindful.remembers

end Mindful

theorem Reached.mindful {looks : List Look} {list : WatchList Loader} (reached : Reached Loader World looks list) :
    list.Mindful looks := by
  induction reached with
  | created slice => exact .created slice
  | registered _ path loader isStatic world mindful => exact mindful.registered path loader isStatic world
  | polled _ world mindful => exact mindful.polled world
  | reloaded _ world mindful => exact mindful.reloaded world
  | cleared _ mindful => exact mindful.cleared

/-- Whatever has happened before, the looks of a poll are due. -/
theorem Reached.due {looks : List Look} {list : WatchList Loader} (reached : Reached Loader World looks list)
    (world : World) {before after : List Look} {look : Look}
    (whole : (list.poll world).looks = before ++ look :: after) : look.Due (looks ++ before) := by
  obtain ⟨passed, left, goes, _⟩ := list.poll_goes world
  exact goes.due reached.mindful.remembers_split.2 whole

end WatchList

end LineTemplates
