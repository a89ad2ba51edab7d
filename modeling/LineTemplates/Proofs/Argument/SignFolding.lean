import LineTemplates.Argument

/-! Folding of sign markers. From left to right every marker goes into the argument behind it, which is then no marker any
more; so a list is folded piece by piece, wherever it is cut between two arguments that do not belong together. -/

namespace LineTemplates

namespace Argument

variable {arguments folded : List Text}

theorem negated_ne_signMarker (text : Text) : negated text ≠ signMarker := by
  simp [negated, signMarker]

/-- A list in which every marker has the argument that it negates behind it, and what the list is folded into. -/
inductive Folds : List Text → List Text → Prop
  | done : Folds [] []
  | plain {argument : Text} {more folded : List Text} (other : argument ≠ signMarker) (folds : Folds more folded) :
      Folds (argument :: more) (argument :: folded)
  | signed {argument : Text} {more folded : List Text} (folds : Folds more folded) :
      Folds (signMarker :: argument :: more) (negated argument :: folded)

theorem foldSigns_cons {argument : Text} (other : argument ≠ signMarker) (more : List Text) :
    foldSigns (argument :: more) = argument :: foldSigns more := by
  cases more with
  | nil => rfl
  | cons second more => rw [foldSigns, if_neg other]

theorem foldSigns_marker (argument : Text) (more : List Text) :
    foldSigns (signMarker :: argument :: more) = negated argument :: foldSigns more := by
  rw [foldSigns, if_pos rfl]

namespace Folds

theorem not_mem (folds : Folds arguments folded) : signMarker ∉ folded := by
  induction folds with
  | done => exact List.not_mem_nil
  | plain other folds step => exact List.not_mem_cons_of_ne_of_not_mem (Ne.symm other) step
  | @signed argument _ _ folds step =>
    exact List.not_mem_cons_of_ne_of_not_mem (negated_ne_signMarker argument).symm step

/-- What follows is folded on its own. -/
theorem foldSigns_append (folds : Folds arguments folded) (after : List Text) :
    foldSigns (arguments ++ after) = folded ++ foldSigns after := by
  induction folds with
  | done => rfl
  | plain other folds step => rw [List.cons_append, foldSigns_cons other, step, List.cons_append]
  | signed folds step => rw [List.cons_append, List.cons_append, foldSigns_marker, step, List.cons_append]

theorem foldSigns_eq (folds : Folds arguments folded) : foldSigns arguments = folded := by
  have whole := folds.foldSigns_append []
  rwa [List.append_nil, foldSigns, List.append_nil] at whole

theorem length_le (folds : Folds arguments folded) : folded.length ≤ arguments.length := by
  induction folds with
  | done => exact Nat.le_refl _
  | plain other folds step => exact Nat.succ_le_succ step
  | signed folds step => exact Nat.succ_le_succ (Nat.le_succ_of_le step)

theorem length_lt (folds : Folds arguments folded) (inside : signMarker ∈ arguments) :
    folded.length < arguments.length := by
  induction folds with
  | done => cases inside
  | plain other folds step => exact Nat.succ_lt_succ (step ((List.mem_cons.mp inside).resolve_left (Ne.symm other)))
  | signed folds step => exact Nat.succ_lt_succ (Nat.lt_succ_of_le folds.length_le)

theorem of_not_mem (free : signMarker ∉ arguments) : Folds arguments arguments := by
  induction arguments with
  | nil => exact .done
  | cons argument more step =>
    rw [List.mem_cons, not_or] at free
    exact .plain (Ne.symm free.1) (step free.2)

end Folds

theorem exists_folds (arguments : List Text) :
    ∃ front folded, Folds front folded ∧ (arguments = front ∨ arguments = front ++ [signMarker]) := by
  induction arguments using foldSigns.induct with
  | case1 => exact ⟨[], [], .done, .inl rfl⟩
  | case2 last =>
    by_cases marker : last = signMarker
    · exact ⟨[], [], .done, .inr (by rw [marker, List.nil_append])⟩
    · exact ⟨[last], [last], .plain marker .done, .inl rfl⟩
  | case3 argument more step =>
    obtain ⟨front, folded, folds, shape⟩ := step
    refine ⟨signMarker :: argument :: front, negated argument :: folded, .signed folds, ?_⟩
    simpa using shape
  | case4 first second more other step =>
    obtain ⟨front, folded, folds, shape⟩ := step
    refine ⟨first :: front, first :: folded, .plain other folds, ?_⟩
    simpa using shape

/-- A list is folded without a marker in the result, or else the marker at the end of both is the only one. -/
theorem foldSigns_cases (arguments : List Text) :
    ∃ front folded, Folds front folded ∧ signMarker ∉ folded ∧
      (arguments = front ∧ foldSigns arguments = folded ∨
        arguments = front ++ [signMarker] ∧ foldSigns arguments = folded ++ [signMarker]) := by
  obtain ⟨front, folded, folds, shape⟩ := exists_folds arguments
  refine ⟨front, folded, folds, folds.not_mem, ?_⟩
  rcases shape with rfl | rfl
  · exact .inl ⟨rfl, folds.foldSigns_eq⟩
  · exact .inr ⟨rfl, folds.foldSigns_append [signMarker]⟩

theorem signMarker_not_mem_dropLast (arguments : List Text) : signMarker ∉ (foldSigns arguments).dropLast := by
  obtain ⟨_, folded, _, free, ⟨_, result⟩ | ⟨_, result⟩⟩ := foldSigns_cases arguments
  · rw [result]
    exact fun inside => free (List.dropLast_subset _ inside)
  · rwa [result, List.dropLast_concat]

theorem foldSigns_foldSigns (arguments : List Text) : foldSigns (foldSigns arguments) = foldSigns arguments := by
  obtain ⟨_, folded, _, free, ⟨_, result⟩ | ⟨_, result⟩⟩ := foldSigns_cases arguments
  · rw [result]
    exact (Folds.of_not_mem free).foldSigns_eq
  · rw [result]
    exact (Folds.of_not_mem free).foldSigns_append [signMarker]

theorem foldSigns_eq_self_iff : foldSigns arguments = arguments ↔ signMarker ∉ arguments.dropLast := by
  constructor
  · intro same
    rw [← same]
    exact signMarker_not_mem_dropLast arguments
  · intro free
    by_cases empty : arguments = []
    · rw [empty, foldSigns]
    · have parts := List.dropLast_concat_getLast empty
      calc foldSigns arguments
          = foldSigns (arguments.dropLast ++ [arguments.getLast empty]) := by rw [parts]
        _ = arguments.dropLast ++ [arguments.getLast empty] := (Folds.of_not_mem free).foldSigns_append _
        _ = arguments := parts

theorem length_foldSigns_lt (inside : signMarker ∈ arguments.dropLast) :
    (foldSigns arguments).length < arguments.length := by
  obtain ⟨_, folded, folds, _, ⟨rfl, result⟩ | ⟨rfl, result⟩⟩ := foldSigns_cases arguments
  · rw [result]
    exact folds.length_lt (List.dropLast_subset _ inside)
  · rw [List.dropLast_concat] at inside
    rw [result, List.length_append, List.length_append]
    exact Nat.add_lt_add_right (folds.length_lt inside) _

theorem foldSigns_append (settled : (foldSigns arguments).getLast? ≠ some signMarker) (after : List Text) :
    foldSigns (arguments ++ after) = foldSigns arguments ++ foldSigns after := by
  obtain ⟨_, folded, folds, _, ⟨rfl, result⟩ | ⟨_, result⟩⟩ := foldSigns_cases arguments
  · rw [result]
    exact folds.foldSigns_append after
  · rw [result, List.getLast?_concat] at settled
    exact absurd rfl settled

theorem foldSigns_append_cons (pending : (foldSigns arguments).getLast? = some signMarker) (argument : Text)
    (after : List Text) :
    foldSigns (arguments ++ argument :: after) =
      (foldSigns arguments).dropLast ++ negated argument :: foldSigns after := by
  obtain ⟨front, folded, folds, free, ⟨_, result⟩ | ⟨rfl, result⟩⟩ := foldSigns_cases arguments
  · rw [result] at pending
    exact absurd (List.mem_of_getLast? pending) free
  · rw [result, List.dropLast_concat, List.append_assoc, folds.foldSigns_append]
    exact congrArg (folded ++ ·) (foldSigns_marker argument after)

/-- Of folded arguments at most the last one is a marker, and folding them again changes nothing. Unless it is, arguments
that are added behind are folded on their own; if it is, it goes into the first one that is added. -/
theorem foldSigns_piecewise (arguments after : List Text) :
    signMarker ∉ (foldSigns arguments).dropLast ∧
    foldSigns (foldSigns arguments) = foldSigns arguments ∧
    ((foldSigns arguments).getLast? ≠ some signMarker →
      foldSigns (arguments ++ after) = foldSigns arguments ++ foldSigns after) ∧
    ((foldSigns arguments).getLast? = some signMarker → ∀ argument,
      foldSigns (arguments ++ [argument] ++ after) =
        (foldSigns arguments).dropLast ++ ['-' :: argument] ++ foldSigns after) := by
  refine ⟨signMarker_not_mem_dropLast arguments, foldSigns_foldSigns arguments, fun settled => ?_, ?_⟩
  · exact foldSigns_append settled after
  · intro pending argument
    rw [List.append_assoc, List.append_assoc]
    exact foldSigns_append_cons pending argument after

theorem foldSigns_piecewise_between_markers :
    let settled : List Text := [['a'], signMarker, signMarker]
    let pending : List Text := settled ++ [signMarker]
    let after : List Text := [signMarker, ['5']]
    foldSigns settled = [['a'], '-' :: signMarker] ∧ (foldSigns settled).getLast? ≠ some signMarker ∧
      foldSigns (settled ++ after) = [['a'], '-' :: signMarker, ['-', '5']] ∧
      foldSigns pending = [['a'], '-' :: signMarker, signMarker] ∧
      (foldSigns pending).getLast? = some signMarker ∧
      foldSigns (pending ++ [signMarker] ++ after) = [['a'], '-' :: signMarker, '-' :: signMarker, ['-', '5']] := by
  intro settled pending after
  have complete : (foldSigns settled).getLast? ≠ some signMarker := by decide
  have trailing : (foldSigns pending).getLast? = some signMarker := by decide
  obtain ⟨_, _, apart, _⟩ := foldSigns_piecewise settled after
  obtain ⟨_, _, _, together⟩ := foldSigns_piecewise pending after
  exact ⟨rfl, complete, apart complete, rfl, trailing, together trailing signMarker⟩

end Argument

end LineTemplates
