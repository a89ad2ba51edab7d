import LineTemplates.Proofs.Watch.ForcedPass

/-! The looks of a pass, each at a file that the pass has come to, in the world that the looks before it have left. Its
loader is called there or it is not; a poll that calls none leaves the files alone and only asks the world for times. -/

namespace LineTemplates

variable {Loader World : Type} [WatchHost Loader World]

def askedFor (Loader : Type) [WatchHost Loader World] (paths : List Text) (world : World) : World :=
  paths.foldl (fun world path => (WatchHost.modified Loader path world).2) world

namespace WatchList

/-- Some looks bring a poll to a file that is not static, and one more is taken at this file. -/
inductive PollComesTo (list : WatchList Loader) (world : World) (before : List Look) : Look → Prop
  | examined {gone behind passed : List (WatchedFile Loader)} {file visited : WatchedFile Loader} {look : Look}
      {now next : World} (ahead : list.files.drop list.cursor = gone ++ file :: behind)
      (past : GoesPast list.cursor gone world before passed now) (dynamic : file.isStatic = false)
      (found : Examines (list.cursor + gone.length) file now look visited next) : PollComesTo list world before look

inductive ForcedPassComesTo (list : WatchList Loader) (world : World) (before : List Look) : Look → Prop
  | turned {gone behind passed : List (WatchedFile Loader)} {file visited : WatchedFile Loader} {look : Look}
      {now next : World} (whole : list.files = gone ++ file :: behind)
      (past : TakeTurns 0 gone world before passed now) (turn : TakesTurn gone.length file now look visited next) :
      ForcedPassComesTo list world before look

/-- A poll of these files that calls no loader. -/
structure PollRests (files : List (WatchedFile Loader)) (world : World) (outcome : WatchOutcome Loader World) :
    Prop where
  idle : ∀ look ∈ outcome.looks, look.visit.loads = false
  files_eq : outcome.list.files = files
  world_eq : outcome.world = askedFor Loader (outcome.looks.map Look.path) world

end WatchList

omit [WatchHost Loader World] in
theorem split_append {looks more before after : List Look} {look : Look}
    (whole : looks ++ more = before ++ look :: after) :
    (∃ rest, looks = before ++ look :: rest) ∨ ∃ front, before = looks ++ front ∧ more = front ++ look :: after := by
  rcases List.append_eq_append_iff.mp whole with ⟨front, split, rest⟩ | ⟨middle, split, rest⟩
  · exact .inr ⟨front, split, rest⟩
  · cases middle with
    | nil => exact .inr ⟨[], by simpa using split.symm, by simpa using rest.symm⟩
    | cons first middle =>
      obtain ⟨rfl, -⟩ := List.cons.inj rest
      exact .inl ⟨middle, split⟩

omit [WatchHost Loader World] in
theorem last_or_before {looks before after : List Look} {last look : Look}
    (whole : looks ++ [last] = before ++ look :: after) :
    looks = before ∧ last = look ∨ ∃ rest, looks = before ++ look :: rest := by
  rcases split_append whole with inside | ⟨front, rfl, single⟩
  · exact .inr inside
  · cases front with
    | nil => exact .inl ⟨(List.append_nil looks).symm, (List.cons.inj single).1⟩
    | cons first front => simp at single

section GoesPast

variable {position : Nat} {gone passed : List (WatchedFile Loader)} {world after : World} {looks before rest : List Look}
  {look : Look}

theorem GoesPast.at_look (past : GoesPast position gone world looks passed after)
    (whole : looks = before ++ look :: rest) :
    ∃ front file behind frontPassed visited now next, gone = front ++ file :: behind ∧
      GoesPast position front world before frontPassed now ∧ file.isStatic = false ∧
      Examines (position + front.length) file now look visited next := by
  induction past generalizing before with
  | nothing => simp at whole
  | @skipped position file _ _ _ _ _ static _ step =>
    -- Places behind a file are counted from that file on.
    obtain ⟨front, other, behind, frontPassed, visited, now, next, rfl, earlier, dynamic, found⟩ := step whole
    refine ⟨file :: front, other, behind, _, visited, now, next, rfl, .skipped static earlier, dynamic, ?_⟩
    rwa [List.length_cons, ← Nat.succ_add_eq_add_succ]
  | @looked position file visited more _ world between _ first _ dynamic found goesOn _ step =>
    cases before with
    | nil =>
      obtain ⟨rfl, -⟩ := List.cons.inj whole
      exact ⟨[], file, more, [], visited, world, between, rfl, .nothing, dynamic, found⟩
    | cons other before =>
      obtain ⟨rfl, rest⟩ := List.cons.inj whole
      obtain ⟨front, last, behind, frontPassed, changed, now, next, rfl, earlier, lastDynamic, lastFound⟩ := step rest
      refine ⟨file :: front, last, behind, _, changed, now, next, rfl, .looked dynamic found goesOn earlier,
        lastDynamic, ?_⟩
      rwa [List.length_cons, ← Nat.succ_add_eq_add_succ]

theorem Examines.rests {file visited : WatchedFile Loader} (found : Examines position file world look visited after)
    (idle : look.visit.loads = false) :
    visited = file ∧ look.path = file.path ∧ after = (WatchHost.modified Loader file.path world).2 := by
  cases found with
  | missing absent => exact ⟨rfl, rfl, by rw [absent]⟩
  | unchanged present same => exact ⟨rfl, rfl, by rw [present]⟩
  | reloaded | declined | failed => cases idle

theorem GoesPast.rests (past : GoesPast position gone world looks passed after)
    (idle : ∀ look ∈ looks, look.visit.loads = false) :
    passed = gone ∧ after = askedFor Loader (looks.map Look.path) world := by
  induction past with
  | nothing => exact ⟨rfl, rfl⟩
  | skipped _ _ step =>
    obtain ⟨rfl, asked⟩ := step idle
    exact ⟨rfl, asked⟩
  | looked _ found _ _ step =>
    obtain ⟨first, others⟩ := List.forall_mem_cons.mp idle
    obtain ⟨rfl, path, rfl⟩ := found.rests first
    obtain ⟨rfl, asked⟩ := step others
    exact ⟨rfl, by rw [asked, List.map_cons, path]; rfl⟩

end GoesPast

theorem TakeTurns.at_look {position : Nat} {gone passed : List (WatchedFile Loader)} {world after : World}
    {looks before rest : List Look} {look : Look} (past : TakeTurns position gone world looks passed after)
    (whole : looks = before ++ look :: rest) :
    ∃ front file behind frontPassed visited now next, gone = front ++ file :: behind ∧
      TakeTurns position front world before frontPassed now ∧
      TakesTurn (position + front.length) file now look visited next := by
  induction past generalizing before with
  | nothing => simp at whole
  | @next position file visited more _ world between _ first _ turn goesOn _ step =>
    cases before with
    | nil =>
      obtain ⟨rfl, -⟩ := List.cons.inj whole
      exact ⟨[], file, more, [], visited, world, between, rfl, .nothing, turn⟩
    | cons other before =>
      obtain ⟨rfl, rest⟩ := List.cons.inj whole
      obtain ⟨front, last, behind, frontPassed, changed, now, next, rfl, earlier, lastTurn⟩ := step rest
      refine ⟨file :: front, last, behind, _, changed, now, next, rfl, .next turn goesOn earlier, ?_⟩
      rwa [List.length_cons, ← Nat.succ_add_eq_add_succ]

namespace WatchList

variable {list : WatchList Loader} {world : World} {outcome : WatchOutcome Loader World} {before after : List Look}
  {look : Look}

theorem PollEnds.comesTo (ends : PollEnds list world outcome) (whole : outcome.looks = before ++ look :: after) :
    PollComesTo list world before look := by
  have inside {gone behind passed : List (WatchedFile Loader)} {looks rest : List Look} {between : World}
      (ahead : list.files.drop list.cursor = gone ++ behind)
      (past : GoesPast list.cursor gone world looks passed between) (split : looks = before ++ look :: rest) :
      PollComesTo list world before look := by
    obtain ⟨front, file, more, _, _, _, _, rfl, earlier, dynamic, found⟩ := past.at_look split
    rw [List.append_assoc, List.cons_append] at ahead
    exact .examined ahead earlier dynamic found
  cases ends with
  | failed ahead past _ dynamic found =>
    rcases last_or_before whole with ⟨rfl, rfl⟩ | ⟨rest, split⟩
    · exact .examined ahead past dynamic found
    · exact inside ahead past split
  | full ahead past _ dynamic found =>
    rcases last_or_before whole with ⟨rfl, rfl⟩ | ⟨rest, split⟩
    · exact .examined ahead past dynamic found
    · exact inside ahead past split
  | ended past => exact inside (List.append_nil _).symm past whole

theorem ForcedPassEnds.comesTo (ends : ForcedPassEnds list world outcome)
    (whole : outcome.looks = before ++ look :: after) : ForcedPassComesTo list world before look := by
  have inside {gone behind passed : List (WatchedFile Loader)} {looks rest : List Look} {between : World}
      (ahead : list.files = gone ++ behind) (past : TakeTurns 0 gone world looks passed between)
      (split : looks = before ++ look :: rest) : ForcedPassComesTo list world before look := by
    obtain ⟨front, file, more, _, _, _, _, rfl, earlier, turn⟩ := past.at_look split
    rw [List.append_assoc, List.cons_append] at ahead
    rw [Nat.zero_add] at turn
    exact .turned ahead earlier turn
  cases ends with
  | failed ahead past turn =>
    rcases last_or_before whole with ⟨rfl, rfl⟩ | ⟨rest, split⟩
    · exact .turned ahead past turn
    · exact inside ahead past split
  | ended past => exact inside (List.append_nil _).symm past whole

/-- A poll that looks at files but loads none of them calls no loader. -/
theorem PollEnds.rests (ends : PollEnds list world outcome) (idle : ∀ look ∈ outcome.looks, look.visit.loads = false) :
    PollRests list.files world outcome := by
  have whole := List.take_append_drop list.cursor list.files
  cases ends with
  | @failed _ _ _ _ _ _ look _ _ _ _ _ _ _ _ fails =>
    have loads := idle look (List.mem_append_right _ (List.mem_singleton_self look))
    rw [fails] at loads
    cases loads
  | @full _ _ _ _ _ _ look _ _ ahead past _ _ found =>
    have last := idle look (List.mem_append_right _ (List.mem_singleton_self look))
    obtain ⟨rfl, rfl⟩ := past.rests (List.forall_mem_append.mp idle).1
    obtain ⟨rfl, path, asked⟩ := found.rests last
    refine ⟨idle, ?_, ?_⟩
    · rw [List.append_assoc, ← ahead, whole]
    · rw [asked, List.map_append, List.map_singleton, path, askedFor, askedFor, List.foldl_append]
      rfl
  | ended past =>
    obtain ⟨rfl, asked⟩ := past.rests idle
    exact ⟨idle, whole, asked⟩

end WatchList

end LineTemplates
