import LineTemplates.CaseFile
import LineTemplates.Proofs.Folder.Files
import LineTemplates.Proofs.Toml.LineEnds

/-! Line ends of a case file. Each part of a file, its delimiters, the document between them and the lines of its body,
is read the same whether its lines end with a line feed alone or with a carriage return before it. -/

namespace LineTemplates.CaseFile

open Text

variable {content frontmatter body : Text}

theorem noFeed_delimiter : '\n' ∉ delimiter := by decide

theorem noReturn_delimiter : '\r' ∉ delimiter := by decide

theorem afterLineEnd_suffix (content : Text) : afterLineEnd content <:+ content := by
  unfold afterLineEnd
  split
  · exact List.suffix_cons _ _
  · exact (List.suffix_cons _ _).trans (List.suffix_cons _ _)
  · exact List.suffix_rfl

theorem afterLineEnd_eq_self {char : Char} (notFeed : char ≠ '\n') (notReturn : char ≠ '\r') (rest : Text) :
    afterLineEnd (char :: rest) = char :: rest := by
  unfold afterLineEnd
  split
  · rename_i same
    exact absurd (List.cons.inj same).1 notFeed
  · rename_i same
    exact absurd (List.cons.inj same).1 notReturn
  · rfl

theorem afterLineEnd_withReturns (free : '\r' ∉ content) :
    afterLineEnd (withReturns content) = withReturns (afterLineEnd content) := by
  cases content with
  | nil => rfl
  | cons char rest =>
    rw [List.mem_cons, not_or] at free
    by_cases feed : char = '\n'
    · subst feed
      rfl
    · have other := Ne.symm free.1
      rw [withReturns_cons feed, afterLineEnd_eq_self feed other, afterLineEnd_eq_self feed other, withReturns_cons feed]

theorem trimEnd_withReturns_append (free : '\r' ∉ frontmatter) :
    trimEnd '\r' (withReturns frontmatter ++ ['\r']) = withReturns (trimEnd '\r' frontmatter) := by
  have kept : frontmatter.getLast? ≠ some '\r' := fun ends => free (List.mem_of_getLast? ends)
  have keptReturned : (withReturns frontmatter).getLast? ≠ some '\r' := by rwa [getLast?_withReturns]
  rw [trimEnd_eq_rdropWhile, List.rdropWhile_concat_pos _ _ _ (by simp), ← trimEnd_eq_rdropWhile,
    trimEnd_eq_self_iff.mpr kept, trimEnd_eq_self_iff.mpr keptReturned]

theorem free_of_opening {opened : Text} (free : '\r' ∉ content)
    (opening : withoutHead? delimiter (content.dropWhile (· = '\ufeff')) = some opened) : '\r' ∉ opened := by
  have inside : opened <:+ content := (suffix_of_withoutHead? opening).trans (List.dropWhile_suffix _)
  exact fun here => free (inside.subset here)

theorem free_of_split (free : '\r' ∉ content) (parts : split content = .ok (frontmatter, body)) :
    '\r' ∉ frontmatter ∧ '\r' ∉ body := by
  unfold split at parts
  split at parts
  · cases parts
  rename_i opened opening
  split at parts
  · cases parts
  rename_i before after closing
  cases parts
  have freeOpened : '\r' ∉ afterLineEnd opened := fun here =>
    free_of_opening free opening ((afterLineEnd_suffix opened).subset here)
  rw [eq_append_of_cutAt? closing, List.mem_append, List.mem_append, not_or, not_or] at freeOpened
  constructor
  · intro here
    rw [trimEnd_eq_rdropWhile] at here
    exact freeOpened.1.1 ((List.rdropWhile_prefix _ _).subset here)
  · intro here
    exact freeOpened.2 ((afterLineEnd_suffix after).subset here)

/-- The parts of a file with carriage returns are those of the file without them, with carriage returns. -/
theorem split_withReturns (free : '\r' ∉ content) :
    split (withReturns content) =
      (split content).map fun (frontmatter, body) => (withReturns frontmatter, withReturns body) := by
  have unmarked : (withReturns content).dropWhile (· = '\ufeff') = withReturns (content.dropWhile (· = '\ufeff')) :=
    dropWhile_withReturns rfl rfl content
  unfold split
  rw [unmarked, withoutHead?_withReturns noFeed_delimiter noReturn_delimiter]
  cases opening : withoutHead? delimiter (content.dropWhile (· = '\ufeff')) with
  | none => rfl
  | some opened =>
    have freeOpened := free_of_opening free opening
    dsimp only [Option.map_some]
    rw [afterLineEnd_withReturns freeOpened, cutAt?_withReturns noFeed_delimiter noReturn_delimiter]
    cases closing : cutAt? ('\n' :: delimiter) (afterLineEnd opened) with
    | none => rfl
    | some both =>
      obtain ⟨before, after⟩ := both
      have freeBoth : '\r' ∉ before ++ '\n' :: delimiter ++ after := by
        rw [← eq_append_of_cutAt? closing]
        exact fun here => freeOpened ((afterLineEnd_suffix opened).subset here)
      rw [List.mem_append, List.mem_append, not_or, not_or] at freeBoth
      dsimp only [Option.map_some, Except.map]
      rw [trimEnd_withReturns_append freeBoth.1.1, afterLineEnd_withReturns freeBoth.2]

theorem free_of_read [TomlDecoder] {header : CaseHeader} (free : '\r' ∉ content) (parts : read content = .ok (header, body)) :
    '\r' ∉ body := by
  unfold read at parts
  cases halves : split content with
  | error error =>
    rw [halves] at parts
    cases parts
  | ok both =>
    obtain ⟨frontmatter, rest⟩ := both
    rw [halves] at parts
    dsimp only [bind, Except.bind] at parts
    split at parts
    · cases parts
      exact (free_of_split free halves).2
    · cases parts

theorem read_withReturns [TomlDecoder] (free : '\r' ∉ content)
    (document : ∀ frontmatter body, split content = .ok (frontmatter, body) →
      TomlDecoder.table? (withReturns frontmatter) = TomlDecoder.table? frontmatter) :
    read (withReturns content) = (read content).map fun (header, body) => (header, withReturns body) := by
  unfold read
  rw [split_withReturns free]
  cases parts : split content with
  | error error => rfl
  | ok both =>
    obtain ⟨frontmatter, body⟩ := both
    have reread : readToml CaseHeader.ofToml? (withReturns frontmatter) = readToml CaseHeader.ofToml? frontmatter := by
      rw [readToml, document frontmatter body parts, readToml]
    dsimp only [Except.map, bind, Except.bind]
    rw [reread]
    cases readToml CaseHeader.ofToml? frontmatter with
    | error error => rfl
    | ok header => rfl

theorem failure?_withReturns (header : CaseHeader) (free : '\r' ∉ body) :
    failure? header (withReturns body) = failure? header body := by
  have same : bodyLines (withReturns body) = bodyLines body := by rw [bodyLines, lines_withReturns free, bodyLines]
  simp only [failure?, bodyFailure?, same]

/-- A case comes out the same, for the same reason, whether the lines of its file end with a line feed alone or with a
carriage return before it, if that makes no difference to the decoder of the document between its delimiters. -/
theorem run_withReturns [TomlDecoder] {found returned : Found} (free : '\r' ∉ content)
    (text : found.text = .ok content) (returnedText : returned.text = .ok (withReturns content))
    (document : ∀ frontmatter body, split content = .ok (frontmatter, body) →
      TomlDecoder.table? (withReturns frontmatter) = TomlDecoder.table? frontmatter) :
    run returned = run found := by
  unfold run
  rw [text, returnedText]
  dsimp only
  rw [read_withReturns free document]
  cases parts : read content with
  | error error => rfl
  | ok both =>
    obtain ⟨header, body⟩ := both
    have freeBody : '\r' ∉ body := free_of_read free parts
    dsimp only [Except.map]
    rw [failure?_withReturns header freeBody]

theorem run_withReturns_two_lines :
    let content : Text := "---\ndescription = \"d\"\n[[template]]\nname = \"m\"\nsyntax = \"a\"\n---\n\na\nb".toList
    let found := Found.file (.ok content.str.toUTF8)
    let returned := Found.file (.ok (withReturns content).str.toUTF8)
    '\r' ∉ content ∧ found.text = .ok content ∧ returned.text = .ok (withReturns content) ∧
      (∀ frontmatter body, split content = .ok (frontmatter, body) →
        Toml.read? (withReturns frontmatter) = Toml.read? frontmatter) ∧
      run found = ⟨some ['d'], some (.lineCount 2 0)⟩ ∧ run returned = ⟨some ['d'], some (.lineCount 2 0)⟩ := by
  intro content found returned
  have free : '\r' ∉ content := by decide +kernel
  have text : found.text = .ok content := by
    rw [Found.text_file, decodeText_toUTF8, str, String.toList_ofList]
  have returnedText : returned.text = .ok (withReturns content) := by
    rw [Found.text_file, decodeText_toUTF8, str, String.toList_ofList]
  have document : ∀ frontmatter body, split content = .ok (frontmatter, body) →
      Toml.read? (withReturns frontmatter) = Toml.read? frontmatter :=
    fun _ _ parts => Toml.read?_withReturns (free_of_split free parts).1
  have result : run found = ⟨some ['d'], some (.lineCount 2 0)⟩ := by
    rw [run, text]
    decide +kernel
  exact ⟨free, text, returnedText, document, result, (run_withReturns free text returnedText document).trans result⟩

end LineTemplates.CaseFile
