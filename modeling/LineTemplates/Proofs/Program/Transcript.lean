import LineTemplates.Program
import LineTemplates.Proofs.Text.Lines
import LineTemplates.Proofs.Text.Quoted
import Mathlib.Data.List.Forall2

/-! What a command prints. An output is joined from texts; where none of them goes beyond a line, they are the lines of
the output. `check` and `parse` print the faults of the templates if they do not compile; if they do, `parse` prints what
the lines of its input come to. -/

namespace LineTemplates

theorem Text.toList_str (text : Text) : text.str.toList = text := String.toList_ofList

theorem feed_not_mem_toString (number : Nat) : '\n' ∉ (toString number).toList := by
  have digits : (toString number).toList = Nat.toDigits 10 number := Nat.toList_repr
  rw [digits]
  intro inside
  obtain ⟨digit, same⟩ := Digits.mem_toDigits (by decide) _ inside
  exact Nat.digitChar_ne '\n' rfl same.symm

namespace Transcript

@[simp] theorem output_append (first second : Transcript) :
    (first ++ second).output = first.output ++ second.output := rfl

@[simp] theorem errors_append (first second : Transcript) :
    (first ++ second).errors = first.errors ++ second.errors := rfl

@[simp] theorem output_ofErrors (errors : List String) : (ofErrors errors).output = [] := rfl

@[simp] theorem errors_ofErrors (errors : List String) : (ofErrors errors).errors = errors := rfl

theorem ofErrors_nil_append (transcript : Transcript) : ofErrors [] ++ transcript = transcript := rfl

theorem split_joined {strings : List String} (plain : ∀ string ∈ strings, '\n' ∉ string.toList) :
    Text.split '\n' (joined strings).toList = strings.map String.toList ++ [[]] := by
  have whole : (joined strings).toList = (strings.map String.toList).flatMap (· ++ ['\n']) := by
    rw [joined, String.toList_join, List.flatMap_map, List.flatMap_map]
    apply List.flatMap_congr
    intro string _
    exact String.toList_append
  rw [whole, Text.split_ended]
  intro text among
  obtain ⟨string, inside, rfl⟩ := List.mem_map.mp among
  exact plain string inside

/-- What holds between some items and the texts shown for them holds between the items and the lines of the output. -/
theorem exists_split_joined {α : Type} {items : List α} {strings : List String} {relates : α → Text → Prop}
    (shown : List.Forall₂ (fun item string => '\n' ∉ string.toList ∧ relates item string.toList) items strings) :
    ∃ lines, Text.split '\n' (joined strings).toList = lines ++ [[]] ∧ List.Forall₂ relates items lines := by
  have swapped : List.Forall₂ (fun string item => '\n' ∉ string.toList ∧ relates item string.toList) strings
      items := shown.flip
  refine ⟨strings.map String.toList, split_joined ?_, ?_⟩
  · exact ((List.forall₂_and_left strings items).mp swapped).1
  · exact List.forall₂_map_right_iff.mpr (shown.imp fun _ _ both => both.2)

end Transcript

namespace Program

variable {files : Files} {standardInput : ByteArray} {templates text : Text} {entries : List TemplateEntry}
  {registry : Registry}

theorem readInput_of_file {path : Text} (readable : (files.find path).text = .ok text) :
    readInput files standardInput (some path) = .ok text := by
  rw [readInput, readable]
  rfl

theorem load_of_text [TomlDecoder] (readable : (files.find templates).text = .ok text)
    (read : (readToml TemplateEntry.listOfToml? text).toOption = some entries) :
    TemplateSet.load templates (files.find templates) = .ok entries := by
  rw [TemplateSet.load, readable]
  cases answer : readToml TemplateEntry.listOfToml? text with
  | error error => simp [answer, Except.toOption] at read
  | ok found => simpa [answer, Except.toOption] using read

section Commands

variable [TomlDecoder] [DiagnosticRenderer]

theorem parse_of_compiled {input : Option Text} (read : readInput files standardInput input = .ok text)
    (loaded : TemplateSet.load templates (files.find templates) = .ok entries)
    (compiled : TemplateSet.compile entries = .ok registry) :
    parse files standardInput templates input =
      let transcript := matchTranscript (lineReports registry text)
      ⟨if transcript.errors.isEmpty then 0 else 1, transcript⟩ := by
  simp [parse, loadRegistry, loaded, compiled, read]

theorem parse_of_unread {input : Option Text} {message : String}
    (unread : readInput files standardInput input = .error message)
    (loaded : TemplateSet.load templates (files.find templates) = .ok entries)
    (compiled : TemplateSet.compile entries = .ok registry) :
    parse files standardInput templates input = fails [errorLine message] := by
  simp [parse, loadRegistry, loaded, compiled, unread]

theorem check_of_compiled (loaded : TemplateSet.load templates (files.find templates) = .ok entries)
    (compiled : TemplateSet.compile entries = .ok registry) :
    check files templates =
      ⟨0, .ofErrors [s!"ok: {registry.size} template(s) compiled from {templates.str}"]⟩ := by
  simp [check, loadRegistry, loaded, compiled]

section Faulty

variable {errors : List (Nat × TemplateError)}
  (loaded : TemplateSet.load templates (files.find templates) = .ok entries)
  (faulty : TemplateSet.compile entries = .error errors)
include loaded faulty

theorem check_of_faulty : check files templates = fails (diagnosticLines templates entries errors) := by
  simp [check, loadRegistry, loaded, faulty]

theorem parse_of_faulty (input : Option Text) :
    parse files standardInput templates input = fails (diagnosticLines templates entries errors) := by
  simp [parse, loadRegistry, loaded, faulty]

end Faulty

end Commands

end Program

end LineTemplates
