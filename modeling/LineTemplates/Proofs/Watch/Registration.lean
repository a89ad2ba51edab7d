import LineTemplates.Proofs.Watch.History

/-! Registrations that fail. If the file is missing the list stays as it was. If the loader of a static file fails the
file has been added by then: it stays in the list as one that has never been loaded, and the next poll starts over. -/

namespace LineTemplates

namespace WatchList

variable {Loader World : Type} [WatchHost Loader World] {list : WatchList Loader} {path : Text} {loader : Loader}
  {isStatic : Bool} {world : World} {error : WatchError}

/-- What a failed registration is and does. -/
theorem register_fails (failed : (list.register path loader isStatic world).result = .error error) :
    error = .notFound path ∧ (list.register path loader isStatic world).list = list ∨
    ∃ reason unloaded, error = .loadFailure path reason ∧ isStatic = true ∧
      (list.register path loader isStatic world).list =
        { list with files := list.files ++ [⟨path, unloaded, true, none⟩], cursor := 0 } := by
  unfold register at failed ⊢
  split at failed
  · cases failed
    exact .inl ⟨rfl, rfl⟩
  · right
    cases isStatic with
    | false => cases failed
    | true =>
      rename_i time later found
      cases answered : (WatchHost.load loader path later).1 with
      | ok _ => simp [answered] at failed
      | error problem =>
        cases problem with
        | declined => simp [answered] at failed
        | failed reason =>
          obtain rfl : .loadFailure path reason = error := by simpa [answered] using failed
          exact ⟨reason, (WatchHost.load loader path later).2.1, rfl, rfl, by simp [answered]⟩

/-- A registration that fails leaves the list as it was just if the file is missing. If the loader fails the static file
is the last one of the list, and the cursor is back at the beginning. -/
theorem failed_registration_keeps_list_iff (failed : (list.register path loader isStatic world).result = .error error) :
    ((list.register path loader isStatic world).list = list ↔ error = .notFound path) ∧
    (error = .notFound path ∨ ∃ reason unloaded, error = .loadFailure path reason ∧ isStatic = true ∧
      (list.register path loader isStatic world).list =
        { list with files := list.files ++ [⟨path, unloaded, true, none⟩], cursor := 0 }) := by
  rcases register_fails failed with ⟨rfl, kept⟩ | ⟨reason, unloaded, rfl, static, added⟩
  · exact ⟨iff_of_true kept rfl, .inl rfl⟩
  · refine ⟨iff_of_false ?_ nofun, .inr ⟨reason, unloaded, rfl, static, added⟩⟩
    intro kept
    have files : list.files ++ [⟨path, unloaded, true, none⟩] = list.files :=
      congrArg WatchList.files (added.symm.trans kept)
    simpa using congrArg List.length files

theorem failed_registration_keeps_list_iff_after_poll :
    let loader : Script := [⟨none, none, .error (.failed "bad")⟩]
    let stage : Stage := ⟨[(['a'], 1), (['b'], 1)], []⟩
    let fresh : WatchList Script := empty.withSlice 1
    let both := ((fresh.register ['a'] [] false stage).list.register ['b'] [] false stage).list
    let list := ((both.poll stage).list.poll stage).list
    list.paths = [['a'], ['b']] ∧ list.cursor = 1 ∧ (list.register ['c'] loader true stage).list = list ∧
      (list.register ['a'] loader true stage).list.paths = [['a'], ['b'], ['a']] ∧
      (list.register ['a'] loader true stage).list.cursor = 0 := by
  intro loader stage fresh both list
  have missing : (list.register ['c'] loader true stage).result = .error (.notFound ['c']) := rfl
  have broken : (list.register ['a'] loader true stage).result = .error (.loadFailure ['a'] "bad") := rfl
  refine ⟨rfl, rfl, (failed_registration_keeps_list_iff missing).1.mpr rfl, ?_⟩
  rcases (failed_registration_keeps_list_iff broken).2 with other | ⟨reason, unloaded, _, _, added⟩
  · cases other
  · rw [added]
    exact ⟨rfl, rfl⟩

theorem failed_registration_adds_file :
    let loader : Script := [⟨none, none, .error (.failed "bad")⟩]
    let stage : Stage := ⟨[(['a'], 1)], []⟩
    let list : WatchList Script := empty
    Reachable Script Stage list ∧
      (list.register ['a'] loader true stage).result = .error (.loadFailure ['a'] "bad") ∧
      list.paths = [] ∧ (list.register ['a'] loader true stage).list.paths = [['a']] :=
  ⟨.created, rfl, rfl, rfl⟩

end WatchList

end LineTemplates
