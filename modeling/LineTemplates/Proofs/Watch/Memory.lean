import LineTemplates.Proofs.Watch.Round

/-! What a list of files remembers. The time kept with a file is the one found just before its loader last ran in a pass;
so a poll runs a loader once for each change that it finds, and when nothing changes any more loaders come to rest. -/

namespace LineTemplates

variable {Loader : Type}

def lastLoad? (position : Nat) (looks : List Look) : Option Look :=
  (looks.filter fun look => look.position == position && look.visit.loads).getLast?

section LastLoad

variable {position : Nat} {looks more : List Look} {look : Look}

theorem lastLoad?_append_of_ne (elsewhere : ∀ look ∈ more, look.position ≠ position) :
    lastLoad? position (looks ++ more) = lastLoad? position looks := by
  have none : more.filter (fun look => look.position == position && look.visit.loads) = [] := by
    apply List.filter_eq_nil_iff.mpr
    intro look inside
    simp [elsewhere look inside]
  rw [lastLoad?, List.filter_append, none, List.append_nil, lastLoad?]

theorem lastLoad?_eq_none (elsewhere : ∀ look ∈ looks, look.position ≠ position) : lastLoad? position looks = none := by
  show lastLoad? position ([] ++ looks) = lastLoad? position []
  exact lastLoad?_append_of_ne elsewhere

theorem lastLoad?_concat (here : look.position = position) :
    lastLoad? position (looks ++ [look]) = if look.visit.loads then some look else lastLoad? position looks := by
  cases loads : look.visit.loads <;> simp [lastLoad?, List.filter_append, here, loads]

end LastLoad

def Recalls (looks : List Look) (position : Nat) (file : WatchedFile Loader) : Prop :=
  file.isStatic = false → file.seen = (lastLoad? position looks).bind Look.time

def Remembers (looks : List Look) (position : Nat) (files : List (WatchedFile Loader)) : Prop :=
  ∀ entry ∈ files.zipIdx position, Recalls looks entry.2 entry.1

section Remembers

variable {looks more : List Look} {position : Nat} {file visited : WatchedFile Loader}
  {files others : List (WatchedFile Loader)} {look : Look}

theorem remembers_cons :
    Remembers looks position (file :: files) ↔ Recalls looks position file ∧ Remembers looks (position + 1) files := by
  simp [Remembers]

theorem remembers_append :
    Remembers looks position (files ++ others) ↔
      Remembers looks position files ∧ Remembers looks (position + files.length) others := by
  simp [Remembers, List.zipIdx_append, or_imp, forall_and]

theorem Recalls.append (recalls : Recalls looks position file) (elsewhere : ∀ look ∈ more, look.position ≠ position) :
    Recalls (looks ++ more) position file := by
  intro dynamic
  rw [lastLoad?_append_of_ne elsewhere]
  exact recalls dynamic

theorem Remembers.append (remembers : Remembers looks position files)
    (elsewhere : ∀ look ∈ more, look.position < position ∨ position + files.length ≤ look.position) :
    Remembers (looks ++ more) position files := by
  rintro ⟨file, place⟩ inside
  obtain ⟨first, last, _⟩ := List.mem_zipIdx inside
  apply (remembers _ inside).append
  intro look among
  have outside := elsewhere look among
  omega

theorem LooksAt.recalls {forced : Bool} (looksAt : LooksAt forced position file visited look)
    (recalls : Recalls looks position file) : Recalls (looks ++ [look]) position visited := by
  intro dynamic
  rw [lastLoad?_concat looksAt.position_eq, looksAt.seen_eq]
  split
  · rfl
  · exact recalls (looksAt.visited_isStatic ▸ dynamic)

theorem LooksAt.remembers_behind {forced : Bool} (looksAt : LooksAt forced position file visited look)
    (behind : Remembers looks (position + 1) files) : Remembers (looks ++ [look]) (position + 1) files := by
  refine behind.append (List.forall_mem_singleton.mpr (.inl ?_))
  rw [looksAt.position_eq]
  exact Nat.lt_succ_self _

def Look.Due (looks : List Look) (look : Look) : Prop :=
  look.visit.loads = true ↔ ∃ time, look.time = some time ∧
    ∀ earlier, lastLoad? look.position looks = some earlier → earlier.time ≠ some time

theorem LooksAt.due (looksAt : LooksAt false position file visited look) (recalls : Recalls looks position file)
    (dynamic : file.isStatic = false) : look.Due looks := by
  rw [Look.Due, looksAt.loads_iff, looksAt.position_eq, recalls dynamic]
  refine exists_congr fun time => and_congr_right fun _ => ?_
  cases lastLoad? position looks with
  | none => simp
  | some earlier => simp

end Remembers

namespace GoesAlong

variable {forced : Bool} {budget position : Nat} {files passed left : List (WatchedFile Loader)} {looks past : List Look}

theorem remembers (goes : GoesAlong forced budget position files looks passed left)
    (remembers : Remembers past position files) : Remembers (past ++ looks) position (passed ++ left) := by
  induction goes generalizing past with
  | ended => exact nofun
  | spent =>
    rw [List.append_nil]
    exact remembers
  | skipped static polled later step =>
    obtain ⟨_, behind⟩ := remembers_cons.mp remembers
    refine remembers_cons.mpr ⟨?_, step behind⟩
    intro dynamic
    rw [static] at dynamic
    cases dynamic
  | stopped watched looksAt stops =>
    obtain ⟨here, behind⟩ := remembers_cons.mp remembers
    exact remembers_cons.mpr ⟨looksAt.recalls here, looksAt.remembers_behind behind⟩
  | looked watched looksAt goesOn later step =>
    obtain ⟨here, behind⟩ := remembers_cons.mp remembers
    rw [List.append_cons]
    refine remembers_cons.mpr ⟨(looksAt.recalls here).append ?_, step (looksAt.remembers_behind behind)⟩
    intro look inside
    exact Nat.ne_of_gt (later.position_mem look inside).1

/-- Each look of a poll is due after all looks before it. -/
theorem due (goes : GoesAlong false budget position files looks passed left)
    (remembers : Remembers past position files) {before after : List Look} {look : Look}
    (whole : looks = before ++ look :: after) : look.Due (past ++ before) := by
  induction goes generalizing past before with
  | ended => simp at whole
  | spent => simp at whole
  | skipped static polled later step => exact step (remembers_cons.mp remembers).2 whole
  | stopped watched looksAt stops =>
    obtain ⟨rfl, rfl, rfl⟩ : before = [] ∧ look = _ ∧ after = [] := by
      simpa [List.singleton_eq_append_iff] using whole
    rw [List.append_nil]
    exact looksAt.due (remembers_cons.mp remembers).1 (watched.resolve_right nofun)
  | looked watched looksAt goesOn later step =>
    obtain ⟨here, behind⟩ := remembers_cons.mp remembers
    cases before with
    | nil =>
      obtain ⟨rfl, -⟩ := List.cons.inj whole
      rw [List.append_nil]
      exact looksAt.due here (watched.resolve_right nofun)
    | cons first before =>
      obtain ⟨rfl, rest⟩ := List.cons.inj whole
      rw [List.append_cons]
      exact step (looksAt.remembers_behind behind) rest

end GoesAlong

end LineTemplates
