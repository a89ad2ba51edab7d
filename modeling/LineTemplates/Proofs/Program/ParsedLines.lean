import LineTemplates.Proofs.Folder.Files
import LineTemplates.Proofs.LineMatch.Display
import LineTemplates.Proofs.Program.Transcript
import LineTemplates.Proofs.Registry.Choice
import LineTemplates.Proofs.Registry.Entries
import LineTemplates.Proofs.Segment.Quotes

/-! What `parse` says of each line of its input. Every line that is not empty is answered once, on the one output if
its quotes are in pairs and on the other if not, and no answer takes more than one line. -/

namespace LineTemplates

variable {registry : Registry} {line text : Text}

theorem LineError.feed_not_mem_message (error : LineError) : '\n' ∉ error.message.toList := by
  cases error with
  | empty =>
    have plain : '\n' ∉ "empty line".toList := by decide +kernel
    exact plain
  | unclosedQuote fault =>
    have digits := feed_not_mem_toString fault.span.start
    have message : (unclosedQuote fault).message =
      "malformed line: " ++ ("unterminated quoted string starting at byte " ++ toString fault.span.start) := rfl
    rw [message, String.toList_append, String.toList_append, List.mem_append, List.mem_append, not_or, not_or]
    exact ⟨by simp, by simp, digits⟩

namespace Registry

/-- A line that is not empty is refused just if its quotes are not in pairs. -/
theorem exists_parseLine_eq_ok_iff (filled : line ≠ []) :
    (∃ result, registry.parseLine line = .ok result) ↔ Even (line.count '"') := by
  rw [parseLine, if_neg filled, show '"' = Segment.quoteMark from rfl, ← Segment.exists_tokenize_eq_ok_iff]
  cases Segment.tokenize line <;> simp

theorem template_mem_names {found : LineMatch} (matched : registry.parseLine line = .ok (some found)) :
    found.template ∈ registry.names := by
  rcases parseLine_cases line with ⟨error, refused⟩ | ⟨segments, filled, tokenized⟩
  · rw [refused] at matched
    cases matched
  · rw [parseLine_of_tokenize filled tokenized, Except.ok.injEq, firstMatch?_eq_some_iff] at matched
    obtain ⟨template, arguments, chosen, _, rfl⟩ := matched
    exact List.mem_map_of_mem (List.mem_of_find?_eq_some chosen)

end Registry

namespace Program

def Answered (registry : Registry) (line shown : Text) : Prop :=
  (∃ found, registry.parseLine line = .ok (some found) ∧ shown = found.display) ∨
    registry.parseLine line = .ok none ∧ shown = "(no match) ".toList ++ line

def Refused (registry : Registry) (number : Nat) (line shown : Text) : Prop :=
  ∃ error, registry.parseLine line = .error error ∧ shown = s!"line {number}: {error.message}".toList

theorem forall₂_filterMap {α β : Type} {keep : α → Bool} {show? : α → Option β} {relates : α → β → Prop}
    {items : List α} (kept : ∀ item ∈ items, keep item = true → ∃ shown, show? item = some shown ∧ relates item shown)
    (hidden : ∀ item ∈ items, keep item = false → show? item = none) :
    List.Forall₂ relates (items.filter keep) (items.filterMap show?) := by
  induction items with
  | nil => exact .nil
  | cons item more step =>
    rw [List.forall_mem_cons] at kept hidden
    cases keeps : keep item with
    | true =>
      obtain ⟨shown, same, related⟩ := kept.1 keeps
      rw [List.filter_cons_of_pos keeps, List.filterMap_cons_some same]
      exact .cons related (step kept.2 hidden.2)
    | false =>
      rw [List.filter_cons_of_neg (by simp [keeps]), List.filterMap_cons_none (hidden.1 keeps)]
      exact step kept.2 hidden.2

section Reports

variable {registry : Registry} {number : Nat} {line : Text}

def reportOf (registry : Registry) (number : Nat) (line : Text) : LineReport := ⟨number, line, registry.parseLine line⟩

theorem answered_of_even (named : ∀ name ∈ registry.names, '\n' ∉ name) (filled : line ≠ []) (plain : '\n' ∉ line)
    (even : Even (line.count '"')) : (reportOf registry number line).error? = none ∧
      ∃ shown, (reportOf registry number line).output? = some shown ∧ '\n' ∉ shown.toList ∧
        Answered registry line shown.toList := by
  obtain ⟨result, accepted⟩ := (Registry.exists_parseLine_eq_ok_iff filled).mpr even
  unfold LineReport.error? LineReport.output? reportOf
  dsimp only
  rw [accepted]
  refine ⟨rfl, ?_⟩
  cases result with
  | none =>
    have shown : ("(no match) " ++ line.str).toList = "(no match) ".toList ++ line := by
      rw [String.toList_append, Text.toList_str]
    refine ⟨_, rfl, ?_, .inr ⟨accepted, shown⟩⟩
    have apart : '\n' ∉ "(no match) ".toList ++ line := List.not_mem_append (by decide +kernel) plain
    exact shown ▸ apart
  | some found =>
    have shown := Text.toList_str found.display
    refine ⟨_, rfl, ?_, .inl ⟨found, accepted, shown⟩⟩
    rw [shown]
    exact LineMatch.feed_not_mem_display (named _ (Registry.template_mem_names accepted))

theorem refused_of_odd (filled : line ≠ []) (odd : ¬ Even (line.count '"')) :
    (reportOf registry number line).output? = none ∧
      ∃ shown, (reportOf registry number line).error? = some shown ∧ '\n' ∉ shown.toList ∧
        Refused registry number line shown.toList := by
  cases refused : registry.parseLine line with
  | ok result => exact absurd ((Registry.exists_parseLine_eq_ok_iff filled).mp ⟨result, refused⟩) odd
  | error error =>
    unfold LineReport.error? LineReport.output? reportOf
    dsimp only
    rw [refused]
    refine ⟨rfl, _, rfl, ?_, error, refused, rfl⟩
    have shown : s!"line {number}: {error.message}" = "line " ++ toString number ++ ": " ++ error.message := rfl
    rw [shown, String.toList_append, String.toList_append, String.toList_append]
    have word : '\n' ∉ "line ".toList := by decide +kernel
    have colon : '\n' ∉ ": ".toList := by decide +kernel
    have front := List.not_mem_append (List.not_mem_append word (feed_not_mem_toString number)) colon
    exact List.not_mem_append front error.feed_not_mem_message

end Reports

variable {files : Files} {templates text : Text} {input : Option Text} {entries : List TemplateEntry}
  {registry : Registry}

/-- `parse` accounts for every line of its input that is not empty once its line end and the carriage returns before
that are taken off. The lines whose quotes are in pairs are answered on the output, one line each and in their order, with
the match or with the line itself; the others are refused on the other output, under their numbers. Each answer comes
from the line alone, and a refused line is all that makes the command fail. -/
theorem parse_accounts_for_lines [TomlDecoder] [DiagnosticRenderer] (standardInput : ByteArray) (plain : Bool)
    (loaded : TemplateSet.load templates (files.find templates) = .ok entries)
    (compiled : TemplateSet.compile entries = .ok registry) (named : ∀ entry ∈ entries, '\n' ∉ entry.name)
    (read : readInput files standardInput input = .ok text) :
    let outcome := perform files standardInput ⟨plain, .parse templates input⟩
    let lines := Text.numberedLines ((Text.split '\n' text).map (Text.trimEnd '\r'))
    let paired := lines.filter fun (_, line) => Even (line.count '"')
    let malformed := lines.filter fun (_, line) => Odd (line.count '"')
    (∃ shown, Text.split '\n' (Transcript.joined outcome.transcript.output).toList = shown ++ [[]] ∧
      List.Forall₂ (fun line => Answered registry line.2) paired shown) ∧
    (∃ shown, Text.split '\n' (Transcript.joined outcome.transcript.errors).toList = shown ++ [[]] ∧
      List.Forall₂ (fun line => Refused registry line.1 line.2) malformed shown) ∧
    outcome.code = if malformed = [] then 0 else 1 := by
  intro outcome lines paired malformed
  have namesPlain : ∀ name ∈ registry.names, '\n' ∉ name := by
    rw [TemplateSet.names_of_compile compiled]
    exact List.forall_mem_map.mpr named
  have lines_eq : inputLines text = lines := Text.numberedFrom_split 1 text
  have filled : ∀ item ∈ lines, item.2 ≠ [] ∧ '\n' ∉ item.2 := by
    rintro ⟨number, line⟩ inside
    obtain ⟨among, filled⟩ := Text.mem_of_mem_numberedFrom inside
    obtain ⟨piece, whole, rfl⟩ := List.mem_map.mp among
    have trimmed : Text.trimEnd '\r' piece <+: piece := List.rdropWhile_prefix _ _
    exact ⟨filled, fun here => Text.not_mem_of_mem_split '\n' text piece whole (trimmed.subset here)⟩
  have outcome_eq : outcome =
      let output := lines.filterMap fun (number, line) => (reportOf registry number line).output?
      let errors := lines.filterMap fun (number, line) => (reportOf registry number line).error?
      ⟨if errors.isEmpty then 0 else 1, ⟨output, errors⟩⟩ := by
    have parsed : outcome = _ := parse_of_compiled read loaded compiled
    rw [parsed, matchTranscript, lineReports, lines_eq]
    simp only [List.filterMap_map]
    rfl
  have output : List.Forall₂ (fun line shown => '\n' ∉ shown.toList ∧ Answered registry line.2 shown.toList) paired
      outcome.transcript.output := by
    rw [outcome_eq]
    apply forall₂_filterMap
    · rintro ⟨number, line⟩ inside even
      exact (answered_of_even namesPlain (filled _ inside).1 (filled _ inside).2 (by simpa using even)).2
    · rintro ⟨number, line⟩ inside odd
      exact (refused_of_odd (filled _ inside).1 (by simpa using odd)).1
  have errors : List.Forall₂ (fun line shown => '\n' ∉ shown.toList ∧
      Refused registry line.1 line.2 shown.toList) malformed outcome.transcript.errors := by
    rw [outcome_eq]
    apply forall₂_filterMap
    · rintro ⟨number, line⟩ inside odd
      exact (refused_of_odd (filled _ inside).1 (by simpa using odd)).2
    · rintro ⟨number, line⟩ inside even
      exact (answered_of_even namesPlain (filled _ inside).1 (filled _ inside).2 (by simpa using even)).1
  refine ⟨Transcript.exists_split_joined output, Transcript.exists_split_joined errors, ?_⟩
  have code : outcome.code = if outcome.transcript.errors.isEmpty then 0 else 1 := by rw [outcome_eq]
  have none : outcome.transcript.errors.isEmpty = true ↔ malformed = [] := by
    rw [List.isEmpty_iff, ← List.length_eq_zero_iff, ← errors.length_eq, List.length_eq_zero_iff]
  rw [code]
  simp only [none]

def fourLines : Text := ['a', '\r', '\n', '\n', '"', '\n', '+']

def nameSet : String := "[[template]]\nname = \"m\"\nsyntax = \"$ident\"\n"

def nameEntries : List TemplateEntry := [⟨['m'], ['$', 'i', 'd', 'e', 'n', 't']⟩]

def nameFiles : Files where
  find _ := .file (.ok nameSet.toUTF8)
  modified _ := 0

theorem parse_accounts_for_four_lines :
    let outcome := perform nameFiles fourLines.str.toUTF8 ⟨true, .parse ['t'] none⟩
    TemplateSet.load ['t'] (nameFiles.find ['t']) = .ok nameEntries ∧ (∀ entry ∈ nameEntries, '\n' ∉ entry.name) ∧
      readInput nameFiles fourLines.str.toUTF8 none = .ok fourLines ∧
      ∃ registry, TemplateSet.compile nameEntries = .ok registry ∧
        (∃ shown, Text.split '\n' (Transcript.joined outcome.transcript.output).toList = shown ++ [[]] ∧
          List.Forall₂ (fun line => Answered registry line.2) [(1, ['a']), (4, ['+'])] shown) ∧
        (∃ shown, Text.split '\n' (Transcript.joined outcome.transcript.errors).toList = shown ++ [[]] ∧
          List.Forall₂ (fun line => Refused registry line.1 line.2) [(3, ['"'])] shown) ∧
        outcome.code = 1 := by
  dsimp only
  have named : ∀ entry ∈ nameEntries, '\n' ∉ entry.name := by decide
  have text : (nameFiles.find ['t']).text = .ok nameSet.toList := by
    rw [nameFiles, Found.text_file, decodeText_toUTF8]
  have listed : (readToml TemplateEntry.listOfToml? nameSet.toList).toOption = some nameEntries := by decide +kernel
  have loaded : TemplateSet.load ['t'] (nameFiles.find ['t']) = .ok nameEntries := load_of_text text listed
  have read : readInput nameFiles fourLines.str.toUTF8 none = .ok fourLines := by
    rw [readInput, decodeText_toUTF8, Text.toList_str]
    rfl
  have sound : (TemplateSet.compile nameEntries).toOption.isSome = true := by decide +kernel
  cases compiled : TemplateSet.compile nameEntries with
  | error errors => simp [compiled, Except.toOption] at sound
  | ok registry =>
    have paired : ((Text.numberedLines ((Text.split '\n' fourLines).map (Text.trimEnd '\r'))).filter
        fun (_, line) => Even (line.count '"')) = [(1, ['a']), (4, ['+'])] := by decide +kernel
    have malformed : ((Text.numberedLines ((Text.split '\n' fourLines).map (Text.trimEnd '\r'))).filter
        fun (_, line) => Odd (line.count '"')) = [(3, ['"'])] := by decide +kernel
    obtain ⟨output, errors, code⟩ :=
      parse_accounts_for_lines fourLines.str.toUTF8 true loaded compiled named read
    rw [paired] at output
    rw [malformed] at errors code
    rw [if_neg (by simp)] at code
    exact ⟨loaded, named, read, registry, rfl, output, errors, code⟩

end Program

end LineTemplates
