import LineTemplates.Proofs.Folder.Files
import LineTemplates.Proofs.Program.Transcript
import LineTemplates.Proofs.Registry.Entries

/-! Template sets that are taken as a whole or not at all. `check` and `parse` go by the registry of all entries; if some
of them do not compile, both print the diagnostic of each one that does not, in the order of the file, and fail. -/

namespace LineTemplates.Program

/-- A diagnostic shows the fault of an entry: under the name of the entry, at the bytes of the entry's own source. -/
structure Shows (path : Text) (entry : TemplateEntry) (error : TemplateError) (diagnostic : Diagnostic) : Prop where
  file_eq : diagnostic.file = path ++ ['['] ++ entry.name ++ [']']
  source_eq : diagnostic.source = entry.source
  headline_eq : diagnostic.headline = error.headline
  span_eq : diagnostic.span = error.span
  notes_eq : diagnostic.notes = error.notes

theorem shows_iff {path : Text} {entry : TemplateEntry} {error : TemplateError} {shown : Diagnostic} :
    Shows path entry error shown ↔ shown = diagnostic path entry error := by
  constructor
  · rintro ⟨file, source, headline, span, notes⟩
    cases shown
    subst file source headline span notes
    rfl
  · rintro rfl
    exact ⟨rfl, rfl, rfl, rfl, rfl⟩

/-- Every fault of an entry is shown, and nothing else. -/
theorem forall₂_diagnostics (path : Text) {entries : List TemplateEntry} {errors : List (Nat × TemplateError)}
    (placed : ∀ fault ∈ errors, ∃ entry, entries[fault.1]? = some entry) :
    List.Forall₂ (fun fault diagnostic => ∃ entry, entries[fault.1]? = some entry ∧ Shows path entry fault.2 diagnostic)
      errors (diagnostics path entries errors) := by
  induction errors with
  | nil => exact .nil
  | cons fault more step =>
    rw [List.forall_mem_cons] at placed
    obtain ⟨entry, here⟩ := placed.1
    have shown : diagnostics path entries (fault :: more) =
        diagnostic path entry fault.2 :: diagnostics path entries more := by
      simp [diagnostics, here]
    rw [shown]
    exact .cons ⟨entry, here, shows_iff.mpr rfl⟩ (step placed.2)

/-- A set compiles just if all of its entries do, and then to what they compile to, one for one. If not, the faults of
the entries are reported, in order and each under the number of its entry; `check` and `parse` then print one diagnostic
for each, at the entry's own source, whatever shows it, and fail. They go on only with the whole set. -/
theorem sets_are_taken_whole [TomlDecoder] [DiagnosticRenderer] (entries : List TemplateEntry) :
    ((∃ registry, TemplateSet.compile entries = .ok registry) ↔
      ∀ entry ∈ entries, ∃ template, Template.compile entry.name entry.source = .ok template) ∧
    (∀ registry, TemplateSet.compile entries = .ok registry →
      List.Forall₂ (fun entry template => Template.compile entry.name entry.source = .ok template) entries
        registry.templates ∧
      registry.size = entries.length ∧ registry.names = entries.map TemplateEntry.name ∧
      registry.templates.map Template.source = entries.map TemplateEntry.source) ∧
    (∀ errors, TemplateSet.compile entries = .error errors →
      (errors.map Prod.fst).Pairwise (· < ·) ∧
      ∀ place error, (place, error) ∈ errors ↔ ∃ entry, entries[place]? = some entry ∧
        Template.compile entry.name entry.source = .error error ∧ error.template = entry.name) ∧
    ∀ (files : Files) (standardInput : ByteArray) (plain : Bool) (templates : Text) (input : Option Text),
      TemplateSet.load templates (files.find templates) = .ok entries →
      let checked := perform files standardInput ⟨plain, .check templates⟩
      let parsed := perform files standardInput ⟨plain, .parse templates input⟩
      (∀ errors, TemplateSet.compile entries = .error errors → ∃ shown : List Diagnostic,
        List.Forall₂ (fun fault diagnostic => ∃ entry, entries[fault.1]? = some entry ∧
          Shows templates entry fault.2 diagnostic) errors shown ∧
        checked = ⟨1, .ofErrors (shown.flatMap DiagnosticRenderer.lines)⟩ ∧ parsed = checked) ∧
      ∀ registry, TemplateSet.compile entries = .ok registry →
        checked = ⟨0, .ofErrors [s!"ok: {entries.length} template(s) compiled from {templates.str}"]⟩ ∧
        parsed = match readInput files standardInput input with
          | .error message => fails [errorLine message]
          | .ok text =>
            let transcript := matchTranscript (lineReports registry text)
            ⟨if transcript.errors.isEmpty then 0 else 1, transcript⟩ := by
  have size {registry : Registry} (compiled : TemplateSet.compile entries = .ok registry) :
      registry.size = entries.length :=
    (TemplateSet.forall₂_of_compile compiled).length_eq.symm
  have faults {errors : List (Nat × TemplateError)} (faulty : TemplateSet.compile entries = .error errors)
      (place : Nat) (error : TemplateError) : (place, error) ∈ errors ↔ ∃ entry, entries[place]? = some entry ∧
        Template.compile entry.name entry.source = .error error ∧ error.template = entry.name := by
    obtain ⟨rfl, _⟩ := TemplateSet.compile_eq_error_iff.mp faulty
    rw [TemplateSet.mem_faultsFrom_iff]
    refine exists_congr fun entry => and_congr_right fun _ => ?_
    exact ⟨fun failed => ⟨failed, Template.template_of_compile_eq_error failed⟩, And.left⟩
  refine ⟨TemplateSet.compile_eq_ok_iff_forall, ?whole, ?ordered, ?commands⟩
  case whole =>
    intro registry compiled
    exact ⟨TemplateSet.forall₂_of_compile compiled, size compiled, TemplateSet.names_of_compile compiled,
      TemplateSet.sources_of_compile compiled⟩
  case ordered =>
    intro errors faulty
    refine ⟨?_, faults faulty⟩
    obtain ⟨rfl, _⟩ := TemplateSet.compile_eq_error_iff.mp faulty
    exact TemplateSet.pairwise_faultsFrom 0 entries
  case commands =>
    intro files standardInput plain templates input loaded
    constructor
    · intro errors faulty
      have placed : ∀ fault ∈ errors, ∃ entry, entries[fault.1]? = some entry := by
        intro fault among
        obtain ⟨entry, here, _⟩ := (faults faulty fault.1 fault.2).mp among
        exact ⟨entry, here⟩
      refine ⟨_, forall₂_diagnostics templates placed, ?_⟩
      dsimp only [perform]
      rw [check_of_faulty loaded faulty, parse_of_faulty loaded faulty]
      exact ⟨rfl, rfl⟩
    · intro registry compiled
      dsimp only [perform]
      rw [check_of_compiled loaded compiled, size compiled]
      refine ⟨rfl, ?_⟩
      cases read : readInput files standardInput input with
      | error message => exact parse_of_unread read loaded compiled
      | ok text => exact parse_of_compiled read loaded compiled

def mixedSet : String :=
  "[[template]]\nname = \"m\"\nsyntax = \"a\"\n[[template]]\nname = \"n\"\nsyntax = \"[\"\n" ++
    "[[template]]\nname = \"m\"\nsyntax = \"b\"\n[[template]]\nname = \"o\"\nsyntax = \"]\"\n"

def mixedEntries : List TemplateEntry := [⟨['m'], ['a']⟩, ⟨['n'], ['[']⟩, ⟨['m'], ['b']⟩, ⟨['o'], [']']⟩]

def mixedFiles : Files where
  find _ := .file (.ok mixedSet.toUTF8)
  modified _ := 0

def twoSnippets : List String := [
  "error: template `n`: group is never closed",
  "  ┌─ t[n]:1:1",
  "  │",
  "1 │ [",
  "  │ ^",
  "  │",
  "  = close `<` with `>` and `[` with `]`",
  "",
  "error: template `o`: unbalanced `]`: no group is open",
  "  ┌─ t[o]:1:1",
  "  │",
  "1 │ ]",
  "  │ ^",
  ""]

theorem sets_are_taken_whole_with_two_faults :
    let unclosed : TemplateError := ⟨['n'], .unclosed, ⟨0, 1⟩⟩
    let unopened : TemplateError := ⟨['o'], .unopened .optional, ⟨0, 1⟩⟩
    let checked := perform mixedFiles .empty ⟨true, .check ['t']⟩
    let parsed := perform mixedFiles .empty ⟨true, .parse ['t'] none⟩
    TemplateSet.load ['t'] (mixedFiles.find ['t']) = .ok mixedEntries ∧
      TemplateSet.compile mixedEntries = .error [(1, unclosed), (3, unopened)] ∧
      checked = ⟨1, .ofErrors twoSnippets⟩ ∧
      parsed = checked ∧
      ∃ registry, TemplateSet.compile [⟨['m'], ['a']⟩, ⟨['m'], ['b']⟩] = .ok registry ∧
        registry.names = [['m'], ['m']] := by
  intro unclosed unopened checked parsed
  have text : (mixedFiles.find ['t']).text = .ok mixedSet.toList := by
    rw [mixedFiles, Found.text_file, decodeText_toUTF8]
  have listed : (readToml TemplateEntry.listOfToml? mixedSet.toList).toOption = some mixedEntries := by decide +kernel
  have loaded : TemplateSet.load ['t'] (mixedFiles.find ['t']) = .ok mixedEntries := load_of_text text listed
  have first : TemplateEntry.fault? ⟨['m'], ['a']⟩ = none := by decide +kernel
  have second : TemplateEntry.fault? ⟨['n'], ['[']⟩ = some unclosed := by decide +kernel
  have third : TemplateEntry.fault? ⟨['m'], ['b']⟩ = none := by decide +kernel
  have fourth : TemplateEntry.fault? ⟨['o'], [']']⟩ = some unopened := by decide +kernel
  have faulty : TemplateSet.compile mixedEntries = .error [(1, unclosed), (3, unopened)] := by
    refine TemplateSet.compile_eq_error_iff.mpr ⟨?_, by simp⟩
    simp [mixedEntries, TemplateSet.faultsFrom, first, second, third, fourth]
  obtain ⟨_, _, _, commands⟩ := sets_are_taken_whole mixedEntries
  obtain ⟨shown, each, printed, same⟩ := (commands mixedFiles .empty true ['t'] none loaded).1 _ faulty
  have shown_eq : shown = [diagnostic ['t'] ⟨['n'], ['[']⟩ unclosed, diagnostic ['t'] ⟨['o'], [']']⟩ unopened] := by
    simpa [List.forall₂_cons_left_iff, shows_iff, mixedEntries] using each
  have lines : shown.flatMap DiagnosticRenderer.lines = twoSnippets := by
    rw [shown_eq]
    decide +kernel
  rw [lines] at printed
  obtain ⟨whole, taken, _⟩ := sets_are_taken_whole [⟨['m'], ['a']⟩, ⟨['m'], ['b']⟩]
  obtain ⟨registry, compiled⟩ := whole.mpr <| by
    simp only [← TemplateEntry.fault?_eq_none_iff]
    simp [first, third]
  exact ⟨loaded, faulty, printed, same, registry, compiled, (taken registry compiled).2.2.1⟩

end LineTemplates.Program
