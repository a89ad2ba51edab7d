import LineTemplates.Proofs.Folder.Files
import LineTemplates.Proofs.Program.Transcript
import LineTemplates.Proofs.Registry.Entries

/-! One round of watching. Both files are new to the watch list, so that the one round loads each of them and matches
all lines; what it prints is what the commands that read the same files once print. -/

namespace LineTemplates

namespace Program

section Round

variable [TomlDecoder] [DiagnosticRenderer] {files : Files} {templates input text : Text}

def freshList (templates input : Text) : WatchList WatchedPart :=
  ⟨[⟨templates, .templates, false, none⟩, ⟨input, .input, false, none⟩], 0, WatchList.defaultSlice⟩

def freshDesk (files : Files) : WatchDesk := ⟨files, .empty, [], false, []⟩

theorem register_new {part : WatchedPart} {path : Text} {desk : WatchDesk} (list : WatchList WatchedPart)
    (found : (desk.files.find path).exists? = true) :
    list.register path part false desk =
      ⟨.ok .ok, [], { list with files := list.files ++ [⟨path, part, false, none⟩], cursor := 0 }, desk⟩ := by
  simp [WatchList.register, WatchHost.modified, found]

theorem begin_eq (found : (files.find templates).exists? = true) (inputFound : (files.find input).exists? = true) :
    WatchSession.begin files templates input = .ok ⟨freshList templates input, freshDesk files⟩ := by
  simp only [WatchSession.begin, register_new, found, inputFound]
  rfl

variable {part loader : WatchedPart} {path : Text} {desk world : WatchDesk} {answer : Except LoaderError Unit}

/-- A pass loads a file that it has not seen before; unless that fails, it goes on with the same budget. -/
theorem along_new (budget position : Nat) (more : List (WatchedFile WatchedPart))
    (found : (desk.files.find path).exists? = true) (loaded : WatchHost.load part path desk = (answer, loader, world)) :
    WatchPass.along false (budget + 1) position (⟨path, part, false, none⟩ :: more) desk =
      let look : Look := ⟨position, path, some (desk.files.modified path), .ofLoad answer⟩
      let visited : WatchedFile WatchedPart := ⟨path, loader, false, look.time⟩
      if look.visit.stops then ⟨[look], [], visited :: more, world⟩
      else (WatchPass.along false (budget + 1) (position + 1) more world).past visited [look] := by
  -- Only looks without a load use the budget up.
  have free : (Visit.ofLoad answer).counts = false := by
    match answer with
    | .ok _ => rfl
    | .error .declined => rfl
    | .error (.failed _) => rfl
  simp [WatchPass.along, WatchedFile.look, WatchHost.modified, found, loaded, free]

theorem poll_of_failed {reason : String} (input : Text) (found : (files.find templates).exists? = true)
    (failed : (freshDesk files).loadTemplates templates = (.error (.failed reason), desk)) :
    ((freshList templates input).poll (freshDesk files)).result = .error (.loadFailure templates reason) ∧
      ((freshList templates input).poll (freshDesk files)).world = desk := by
  have loaded : WatchHost.load WatchedPart.templates templates (freshDesk files) =
      (.error (.failed reason), WatchedPart.templates, desk) := by
    simp [WatchHost.load, failed]
  have pass : WatchPass.along false (freshList templates input).slice 0 (freshList templates input).files
      (freshDesk files) = _ := along_new 7 0 [⟨input, .input, false, none⟩] found loaded
  simp only [Visit.ofLoad, Visit.stops, if_true] at pass
  have start : (freshList templates input).cursor = 0 := rfl
  rw [WatchList.poll, start, List.drop_zero, pass]
  exact ⟨rfl, rfl⟩

theorem poll_of_loaded {last : WatchDesk} (found : (files.find templates).exists? = true)
    (inputFound : (desk.files.find input).exists? = true)
    (first : (freshDesk files).loadTemplates templates = (answer, desk)) (goesOn : (Visit.ofLoad answer).stops = false)
    (second : desk.loadInput input = (.ok (), last)) :
    (∃ status, ((freshList templates input).poll (freshDesk files)).result = .ok status) ∧
      ((freshList templates input).poll (freshDesk files)).world = last := by
  have loaded : WatchHost.load WatchedPart.templates templates (freshDesk files) =
      (answer, WatchedPart.templates, desk) := by
    simp [WatchHost.load, first]
  have inputLoaded : WatchHost.load WatchedPart.input input desk = (.ok (), WatchedPart.input, last) := by
    simp [WatchHost.load, second]
  have pass : WatchPass.along false (freshList templates input).slice 0 (freshList templates input).files
      (freshDesk files) = _ := along_new 7 0 [⟨input, .input, false, none⟩] found loaded
  have more := along_new 7 1 [] inputFound inputLoaded
  simp only [goesOn, Bool.false_eq_true, if_false, more] at pass
  have start : (freshList templates input).cursor = 0 := rfl
  rw [WatchList.poll, start, List.drop_zero, pass]
  match answer, goesOn with
  | .ok _, _ => exact ⟨⟨_, rfl⟩, rfl⟩
  | .error .declined, _ => exact ⟨⟨_, rfl⟩, rfl⟩

theorem watchOnce_eq (found : (files.find templates).exists? = true)
    (inputFound : (files.find input).exists? = true) :
    watchOnce files templates input =
      let polled := (freshList templates input).poll (freshDesk files)
      match polled.result with
      | .error error => ⟨1, .ofErrors (polled.world.errors ++ [errorLine error.message])⟩
      | .ok _ =>
        let rendered := matchTranscript (lineReports polled.world.registry polled.world.input) ++ ⟨["--"], []⟩
        ⟨0, .ofErrors polled.world.errors ++ if polled.world.changed then rendered else .empty⟩ := by
  have reset : { freshDesk files with files := files, errors := [] } = freshDesk files := rfl
  simp only [watchOnce, begin_eq found inputFound, WatchSession.round, reset]
  cases ((freshList templates input).poll (freshDesk files)).result with
  | ok status => rfl
  | error error => rfl

theorem watchOnce_of_failed {reason : String} (found : (files.find templates).exists? = true)
    (inputFound : (files.find input).exists? = true)
    (failed : (freshDesk files).loadTemplates templates = (.error (.failed reason), desk)) :
    watchOnce files templates input =
      ⟨1, .ofErrors (desk.errors ++ [errorLine (WatchError.loadFailure templates reason).message])⟩ := by
  obtain ⟨result, world⟩ := poll_of_failed input found failed
  rw [watchOnce_eq found inputFound]
  simp only [result, world]

theorem watchOnce_of_loaded {last : WatchDesk} (found : (files.find templates).exists? = true)
    (inputFound : (files.find input).exists? = true) (same : desk.files = files)
    (first : (freshDesk files).loadTemplates templates = (answer, desk)) (goesOn : (Visit.ofLoad answer).stops = false)
    (second : desk.loadInput input = (.ok (), last)) (changed : last.changed = true) :
    watchOnce files templates input =
      ⟨0, .ofErrors last.errors ++ (matchTranscript (lineReports last.registry last.input) ++ ⟨["--"], []⟩)⟩ := by
  subst same
  obtain ⟨⟨status, result⟩, world⟩ := poll_of_loaded found inputFound first goesOn second
  rw [watchOnce_eq found inputFound]
  simp only [result, world, changed, if_true]

end Round

section Agreement

variable [TomlDecoder] [DiagnosticRenderer] {files : Files} {templates input text : Text} {entries : List TemplateEntry}

theorem watchOnce_of_unread {error : LoadError} (found : (files.find templates).exists? = true)
    (inputFound : (files.find input).exists? = true)
    (unread : TemplateSet.load templates (files.find templates) = .error error) :
    watchOnce files templates input =
      ⟨1, .ofErrors [errorLine (WatchError.loadFailure templates error.message).message]⟩ := by
  have failed : (freshDesk files).loadTemplates templates = (.error (.failed error.message), freshDesk files) := by
    simp [WatchDesk.loadTemplates, freshDesk, unread]
  exact watchOnce_of_failed found inputFound failed

theorem watchOnce_of_compiled {registry : Registry} (found : (files.find templates).exists? = true)
    (inputFound : (files.find input).exists? = true) (readable : (files.find input).text = .ok text)
    (loaded : TemplateSet.load templates (files.find templates) = .ok entries)
    (compiled : TemplateSet.compile entries = .ok registry) :
    watchOnce files templates input = ⟨0, matchTranscript (lineReports registry text) ++ ⟨["--"], []⟩⟩ := by
  have first : (freshDesk files).loadTemplates templates = (.ok (), ⟨files, registry, [], true, []⟩) := by
    simp [WatchDesk.loadTemplates, freshDesk, loaded, compiled]
  have second : WatchDesk.loadInput input ⟨files, registry, [], true, []⟩ =
      (.ok (), ⟨files, registry, text, true, []⟩) := by
    simp [WatchDesk.loadInput, readable]
  rw [watchOnce_of_loaded found inputFound rfl first rfl second rfl, Transcript.ofErrors_nil_append]

theorem watchOnce_of_faulty {errors : List (Nat × TemplateError)} (found : (files.find templates).exists? = true)
    (inputFound : (files.find input).exists? = true) (readable : (files.find input).text = .ok text)
    (loaded : TemplateSet.load templates (files.find templates) = .ok entries)
    (faulty : TemplateSet.compile entries = .error errors) :
    watchOnce files templates input =
      ⟨0, .ofErrors (diagnosticLines templates entries errors) ++
        (matchTranscript (lineReports .empty text) ++ ⟨["--"], []⟩)⟩ := by
  have first : (freshDesk files).loadTemplates templates =
      (.error .declined, ⟨files, .empty, [], false, diagnosticLines templates entries errors⟩) := by
    simp [WatchDesk.loadTemplates, freshDesk, loaded, faulty]
  have second : WatchDesk.loadInput input ⟨files, .empty, [], false, diagnosticLines templates entries errors⟩ =
      (.ok (), ⟨files, .empty, text, true, diagnosticLines templates entries errors⟩) := by
    simp [WatchDesk.loadInput, readable]
  rw [watchOnce_of_loaded found inputFound rfl first rfl second rfl]

/-- Watching for one round agrees with the commands that read both files once: it prints the matches of `parse` and a
line that ends the round, those of no templates at all after the diagnostics of `check` if a template is faulty, and
one error if the template file cannot be loaded. -/
theorem watching_once_agrees (standardInput : ByteArray) (plain : Bool) (interval : Nat)
    (found : (files.find templates).exists? = true) (readable : (files.find input).text = .ok text) :
    let watched := perform files standardInput ⟨plain, .watch templates input interval true⟩
    let parsed := perform files standardInput ⟨plain, .parse templates (some input)⟩
    let checked := perform files standardInput ⟨plain, .check templates⟩
    let unmatched := matchTranscript (lineReports .empty text)
    (∀ entries, TemplateSet.load templates (files.find templates) = .ok entries →
      (∀ entry ∈ entries, ∃ template, Template.compile entry.name entry.source = .ok template) →
        watched.code = 0 ∧ watched.transcript.output = parsed.transcript.output ++ ["--"] ∧
          watched.transcript.errors = parsed.transcript.errors) ∧
    (∀ entries, TemplateSet.load templates (files.find templates) = .ok entries →
      (∃ entry ∈ entries, ∃ error, Template.compile entry.name entry.source = .error error) →
        watched.code = 0 ∧ watched.transcript.output = unmatched.output ++ ["--"] ∧
          watched.transcript.errors = checked.transcript.errors ++ unmatched.errors) ∧
    ∀ error, TemplateSet.load templates (files.find templates) = .error error →
      watched = ⟨1, ⟨[], [errorLine (WatchError.loadFailure templates error.message).message]⟩⟩ := by
  have inputFound := Found.exists?_of_text readable
  refine ⟨?compiled, ?faulty, ?unread⟩
  case compiled =>
    intro entries loaded whole
    obtain ⟨registry, compiled⟩ := TemplateSet.compile_eq_ok_iff_forall.mpr whole
    dsimp only [perform]
    rw [watchOnce_of_compiled found inputFound readable loaded compiled,
      parse_of_compiled (readInput_of_file readable) loaded compiled]
    simp
  case faulty =>
    rintro entries loaded ⟨entry, among, error, refused⟩
    cases compiled : TemplateSet.compile entries with
    | ok registry =>
      obtain ⟨template, accepted⟩ := TemplateSet.compile_eq_ok_iff_forall.mp ⟨registry, compiled⟩ entry among
      rw [refused] at accepted
      contradiction
    | error errors =>
      dsimp only [perform]
      rw [watchOnce_of_faulty found inputFound readable loaded compiled, check_of_faulty loaded compiled]
      simp [fails]
  case unread =>
    intro error unread
    exact watchOnce_of_unread found inputFound unread

end Agreement

def faultySet : String := "[[template]]\nname = \"n\"\nsyntax = \"$ident\"\n[[template]]\nname = \"m\"\nsyntax = \"[\"\n"

def faultyFiles : Files where
  find path := .file (.ok (if path = ['t'] then faultySet.toUTF8 else "a\n".toUTF8))
  modified _ := 0

theorem watching_once_agrees_beside_faulty_template :
    (faultyFiles.find ['t']).exists? = true ∧ (faultyFiles.find ['i']).text = .ok ['a', '\n'] ∧
      (perform faultyFiles .empty ⟨true, .watch ['t'] ['i'] 0 true⟩).code = 0 ∧
      (perform faultyFiles .empty ⟨true, .watch ['t'] ['i'] 0 true⟩).transcript.output = ["(no match) a", "--"] ∧
      (perform faultyFiles .empty ⟨true, .watch ['t'] ['i'] 0 true⟩).transcript.errors =
        (perform faultyFiles .empty ⟨true, .check ['t']⟩).transcript.errors := by
  have set : faultyFiles.find ['t'] = .file (.ok faultySet.toUTF8) := by simp [faultyFiles]
  have found : (faultyFiles.find ['t']).exists? = true := by simp only [set, Found.exists?]
  have text : (faultyFiles.find ['t']).text = .ok faultySet.toList := by
    rw [set, Found.text_file, decodeText_toUTF8]
  have readable : (faultyFiles.find ['i']).text = .ok ['a', '\n'] := by
    have input : faultyFiles.find ['i'] = .file (.ok "a\n".toUTF8) := by simp [faultyFiles]
    rw [input, Found.text_file, decodeText_toUTF8]
    rfl
  have read : (readToml TemplateEntry.listOfToml? faultySet.toList).toOption =
      some [⟨['n'], ['$', 'i', 'd', 'e', 'n', 't']⟩, ⟨['m'], ['[']⟩] := by decide +kernel
  have loaded : TemplateSet.load ['t'] (faultyFiles.find ['t']) =
      .ok [⟨['n'], ['$', 'i', 'd', 'e', 'n', 't']⟩, ⟨['m'], ['[']⟩] := load_of_text text read
  have refused : Template.compile ['m'] ['['] = .error ⟨['m'], .unclosed, ⟨0, 1⟩⟩ := by cbv
  have unmatched : matchTranscript (lineReports .empty ['a', '\n']) = ⟨["(no match) a"], []⟩ := by decide +kernel
  obtain ⟨_, faulty, _⟩ := watching_once_agrees .empty true 0 found readable
  obtain ⟨code, output, errors⟩ := faulty _ loaded ⟨⟨['m'], ['[']⟩, by simp, _, refused⟩
  rw [unmatched] at output errors
  rw [List.append_nil] at errors
  exact ⟨found, readable, code, output, errors⟩

end Program

end LineTemplates
