import LineTemplates.Proofs.Watch.Pass
import LineTemplates.Watch.Rehearsal

/-! Rounds of polls. From the cursor at the first file until it is back there, polls that do not fail look at every file
that is not static, in order and once each, however the slices fall and whatever becomes of the files meanwhile. -/

namespace LineTemplates

namespace WatchList

variable {Loader World : Type} [WatchHost Loader World] {list : WatchList Loader}

def watched (list : WatchList Loader) : List (Nat × Text) := watchedFrom 0 list.files

def ahead (list : WatchList Loader) : List (Nat × Text) := watchedFrom list.cursor (list.files.drop list.cursor)

def polls (list : WatchList Loader) : List World → List (WatchOutcome Loader World)
  | [] => []
  | world :: worlds => list.poll world :: (list.poll world).list.polls worlds

/-- A list whose polls get on: the slice is not empty, and the cursor stands at a file or at the beginning. -/
structure Steady (list : WatchList Loader) : Prop where
  slice_pos : 0 < list.slice
  cursor_inside : list.cursor = 0 ∨ list.cursor < list.files.length

theorem Steady.cursor_le (steady : list.Steady) : list.cursor ≤ list.files.length := by
  rcases steady.cursor_inside with start | inside
  · omega
  · exact Nat.le_of_lt inside

theorem Steady.poll (steady : list.Steady) (world : World) : (list.poll world).list.Steady := by
  obtain ⟨passed, left, _, shape⟩ := list.poll_goes world
  have front := List.length_take_of_le steady.cursor_le
  rw [shape]
  refine ⟨steady.slice_pos, ?_⟩
  cases left with
  | nil => exact .inl rfl
  | cons file more =>
    right
    simp only [List.isEmpty_cons, Bool.false_eq_true, if_false, List.length_append, List.length_cons, front]
    omega

/-- A poll that does not fail gets to the end of the list, or it has looked at some file and gone past it. -/
theorem poll_progress {world : World} (steady : list.Steady)
    (succeeds : ∀ look ∈ (list.poll world).looks, look.visit.stops = false) :
    ∃ passed left,
      GoesAlong false list.slice list.cursor (list.files.drop list.cursor) (list.poll world).looks passed left ∧
      (left = [] ∧ (list.poll world).list =
          { list with files := list.files.take list.cursor ++ passed, cursor := 0 } ∨
        0 < (list.poll world).looks.length ∧ 0 < passed.length ∧ (list.poll world).list =
          { list with
            files := list.files.take list.cursor ++ passed ++ left
            cursor := list.cursor + passed.length }) := by
  obtain ⟨passed, left, goes, shape⟩ := list.poll_goes world
  refine ⟨passed, left, goes, ?_⟩
  cases left with
  | nil => exact .inl ⟨rfl, by simpa using shape⟩
  | cons file more =>
    have looked : 0 < (list.poll world).looks.length := by
      rcases goes.left_eq_nil_or succeeds with nothing | filled
      · cases nothing
      · exact Nat.lt_of_lt_of_le steady.slice_pos filled
    have passes : 0 < passed.length := by
      rw [List.length_pos_iff]
      rintro rfl
      have places := goes.place_eq succeeds
      rw [watchedFrom_nil, List.map_eq_nil_iff] at places
      exact absurd places (List.length_pos_iff.mp looked)
    exact .inr ⟨looked, passes, by simpa using shape⟩

/-- The files ahead that a poll has not looked at are ahead of the next one. -/
theorem poll_advances {world : World} (steady : list.Steady)
    (succeeds : ∀ look ∈ (list.poll world).looks, look.visit.stops = false) :
    ((list.poll world).list.cursor = 0 ∧ (list.poll world).looks.map Look.place = list.ahead) ∨
      ((list.poll world).list.cursor ≠ 0 ∧ 0 < (list.poll world).looks.length ∧
        list.ahead = (list.poll world).looks.map Look.place ++ (list.poll world).list.ahead) := by
  obtain ⟨passed, left, goes, progress⟩ := poll_progress steady succeeds
  have places := goes.place_eq succeeds
  have ahead : list.ahead =
      (list.poll world).looks.map Look.place ++ watchedFrom (list.cursor + passed.length) left := by
    rw [WatchList.ahead, ← watchedFrom_congr goes.label_eq, watchedFrom_append, places]
  rcases progress with ⟨rfl, shape⟩ | ⟨looked, passes, shape⟩
  · left
    rw [shape, ahead]
    exact ⟨rfl, (List.append_nil _).symm⟩
  · right
    have behind : (list.files.take list.cursor ++ passed ++ left).drop (list.cursor + passed.length) = left := by
      apply List.drop_left'
      rw [List.length_append, List.length_take_of_le steady.cursor_le]
    refine ⟨?_, looked, ?_⟩
    · rw [shape]
      exact Nat.ne_of_gt (Nat.add_pos_right _ passes)
    · rw [ahead, shape, WatchList.ahead]
      dsimp only
      rw [behind]

section Polls

variable {worlds : List World}

theorem places_of_round (steady : list.Steady)
    (succeeds : ∀ outcome ∈ list.polls worlds, ∃ status, outcome.result = .ok status)
    {early : List (WatchOutcome Loader World)} {last : WatchOutcome Loader World}
    (polls : list.polls worlds = early ++ [last]) (away : ∀ outcome ∈ early, outcome.list.cursor ≠ 0)
    (back : last.list.cursor = 0) :
    ((early ++ [last]).flatMap WatchOutcome.looks).map Look.place = list.ahead := by
  induction worlds generalizing list early with
  | nil => simp [WatchList.polls] at polls
  | cons world worlds step =>
    rw [WatchList.polls] at polls succeeds
    obtain ⟨⟨status, result⟩, later⟩ := List.forall_mem_cons.mp succeeds
    cases early with
    | nil =>
      obtain ⟨rfl, -⟩ := List.cons.inj polls
      rcases poll_advances steady (poll_succeeds result) with ⟨_, places⟩ | ⟨astray, _⟩
      · simpa using places
      · exact absurd back astray
    | cons first early =>
      obtain ⟨rfl, rest⟩ := List.cons.inj polls
      obtain ⟨astray, away⟩ := List.forall_mem_cons.mp away
      rcases poll_advances steady (poll_succeeds result) with ⟨start, _⟩ | ⟨_, _, ahead⟩
      · exact absurd start astray
      · rw [ahead, ← step (steady.poll world) later rest away, List.cons_append, List.flatMap_cons, List.map_append]

/-- Each poll that does not come back has looked at a file, so there are no more of them than files ahead. -/
theorem exists_back (steady : list.Steady)
    (succeeds : ∀ outcome ∈ list.polls worlds, ∃ status, outcome.result = .ok status)
    (enough : list.ahead.length < worlds.length) :
    ∃ outcome ∈ (list.polls worlds).take (list.ahead.length + 1), outcome.list.cursor = 0 := by
  induction worlds generalizing list with
  | nil => exact absurd enough (Nat.not_lt_zero _)
  | cons world worlds step =>
    rw [WatchList.polls] at succeeds ⊢
    obtain ⟨⟨status, result⟩, later⟩ := List.forall_mem_cons.mp succeeds
    rw [List.take_succ_cons]
    rcases poll_advances steady (poll_succeeds result) with ⟨start, _⟩ | ⟨_, looked, ahead⟩
    · exact ⟨_, List.mem_cons_self, start⟩
    · have shorter : (list.poll world).list.ahead.length + 1 ≤ list.ahead.length := by
        rw [ahead, List.length_append, List.length_map]
        omega
      rw [List.length_cons] at enough
      obtain ⟨outcome, among, start⟩ := step (steady.poll world) later (by omega)
      exact ⟨outcome, List.mem_cons_of_mem _ ((List.take_prefix_take_left shorter).subset among), start⟩

end Polls

end WatchList

end LineTemplates
