import LineTemplates.Proofs.CaseFile.LineEnds

/-! The layout of a case file. A document between two delimiters and a body behind them are found again whatever they hold,
as long as the document has no line that the closing delimiter could be; a content without either delimiter has neither. -/

namespace LineTemplates.CaseFile

open Text

def lineEnds : List Text := [['\n'], ['\r', '\n']]

def layout (marks : Nat) (lineEnd frontmatter body : Text) : Text :=
  List.replicate marks '\ufeff' ++ delimiter ++ lineEnd ++ frontmatter ++ lineEnd ++ delimiter ++ lineEnd ++ body

/-- Byte order marks and the opening delimiter with its line end, if it has one, stand in front of the text. -/
def Opens (content after : Text) : Prop :=
  ∃ marks lineEnd, content = List.replicate marks '\ufeff' ++ delimiter ++ lineEnd ++ after ∧
    (lineEnd ∈ lineEnds ∨ lineEnd = [] ∧ ∀ ending ∈ lineEnds, ¬ ending <+: after)

section LineEnds

variable {lineEnd text : Text}

theorem afterLineEnd_append (ends : lineEnd ∈ lineEnds) (rest : Text) : afterLineEnd (lineEnd ++ rest) = rest := by
  simp only [lineEnds, List.mem_cons, List.not_mem_nil, or_false] at ends
  rcases ends with rfl | rfl <;> rfl

theorem afterLineEnd_cases (text : Text) :
    ∃ lineEnd, text = lineEnd ++ afterLineEnd text ∧
      (lineEnd ∈ lineEnds ∨ lineEnd = [] ∧ ∀ ending ∈ lineEnds, ¬ ending <+: afterLineEnd text) := by
  unfold afterLineEnd
  split
  · exact ⟨['\n'], rfl, .inl (by decide)⟩
  · exact ⟨['\r', '\n'], rfl, .inl (by decide)⟩
  · rename_i noFeed noReturn
    refine ⟨[], rfl, .inr ⟨rfl, ?_⟩⟩
    intro ending among begins
    simp only [lineEnds, List.mem_cons, List.not_mem_nil, or_false] at among
    obtain ⟨rest, whole⟩ := begins
    rcases among with rfl | rfl
    · exact noFeed rest whole.symm
    · exact noReturn rest whole.symm

theorem afterLineEnd_of_none (none : ∀ ending ∈ lineEnds, ¬ ending <+: text) : afterLineEnd text = text := by
  obtain ⟨lineEnd, whole, ends | ⟨rfl, _⟩⟩ := afterLineEnd_cases text
  · exact absurd ⟨_, whole.symm⟩ (none lineEnd ends)
  · exact whole.symm

end LineEnds

section Split

variable {content after frontmatter body lineEnd : Text} {marks : Nat}

theorem opening_eq_some_iff {opened : Text} :
    withoutHead? delimiter (content.dropWhile (· = '\ufeff')) = some opened ↔
      ∃ marks, content = List.replicate marks '\ufeff' ++ delimiter ++ opened := by
  constructor
  · intro opening
    have marked : ∀ char ∈ content.takeWhile (· = '\ufeff'), char = '\ufeff' := by
      intro char inside
      simpa using List.mem_takeWhile_imp inside
    refine ⟨(content.takeWhile (· = '\ufeff')).length, ?_⟩
    rw [List.append_assoc, ← eq_append_of_withoutHead? opening, ← List.eq_replicate_length.mpr marked,
      List.takeWhile_append_dropWhile]
  · rintro ⟨marks, rfl⟩
    rw [List.append_assoc, List.dropWhile_append_of_pos (by simp)]
    exact withoutHead?_append delimiter opened

theorem opens_iff :
    Opens content after ↔
      ∃ opened, withoutHead? delimiter (content.dropWhile (· = '\ufeff')) = some opened ∧ afterLineEnd opened = after := by
  constructor
  · rintro ⟨marks, lineEnd, rfl, ends⟩
    refine ⟨lineEnd ++ after, opening_eq_some_iff.mpr ⟨marks, List.append_assoc ..⟩, ?_⟩
    rcases ends with ends | ⟨rfl, none⟩
    · exact afterLineEnd_append ends after
    · exact afterLineEnd_of_none none
  · rintro ⟨opened, opening, rfl⟩
    obtain ⟨marks, rfl⟩ := opening_eq_some_iff.mp opening
    obtain ⟨lineEnd, whole, ends⟩ := afterLineEnd_cases opened
    refine ⟨marks, lineEnd, ?_, ends⟩
    conv_lhs => rw [whole]
    exact (List.append_assoc ..).symm

theorem split_of_opens (opens : Opens content after)
    (closing : cutAt? ('\n' :: delimiter) after = some (frontmatter, body)) :
    split content = .ok (trimEnd '\r' frontmatter, afterLineEnd body) := by
  obtain ⟨opened, opening, rfl⟩ := opens_iff.mp opens
  simp only [split, opening, closing]

theorem split_eq_missingOpening_iff :
    split content = .error .missingOpening ↔
      ¬ ∃ marks rest, content = List.replicate marks '\ufeff' ++ delimiter ++ rest := by
  rw [exists_comm]
  simp only [← opening_eq_some_iff]
  unfold split
  split
  · rename_i absent
    simp [absent]
  · rename_i opened opening
    have here : ∃ opened, withoutHead? delimiter (content.dropWhile (· = '\ufeff')) = some opened := ⟨opened, opening⟩
    split <;> simp [here]

theorem split_eq_missingClosing_iff :
    split content = .error .missingClosing ↔ ∃ after, Opens content after ∧ ¬ '\n' :: delimiter <:+: after := by
  simp only [opens_iff, ← cutAt?_eq_none_iff]
  unfold split
  split
  · rename_i absent
    simp [absent]
  · rename_i opened opening
    split
    · rename_i absent
      simp [opening, absent]
    · rename_i closing
      simp [opening, closing]

/-- A text that holds no carriage return stands nowhere in a document with carriage returns behind it but in the document
itself. -/
theorem infix_append_returns_iff {piece returns : Text} (free : '\r' ∉ piece) (filled : piece ≠ [])
    (all : ∀ char ∈ returns, char = '\r') : piece <:+: frontmatter ++ returns ↔ piece <:+: frontmatter := by
  have outside {part : Text} (among : part ⊆ returns) (within : part ⊆ piece) : part = [] := by
    apply List.eq_nil_iff_forall_not_mem.mpr
    intro char inside
    exact free (all char (among inside) ▸ within inside)
  constructor
  · intro inside
    rcases List.infix_append_iff.mp inside with before | behind | ⟨first, second, rfl, ends, begins⟩
    · exact before
    · exact absurd (outside behind.subset (List.Subset.refl _)) filled
    · obtain rfl := outside begins.subset (List.subset_append_right first second)
      rw [List.append_nil]
      exact ends.isInfix
  · intro inside
    exact inside.trans (List.infix_append' [] frontmatter returns)

/-- Carriage returns behind a document are no part of it, and cannot begin the closing delimiter. -/
theorem split_layout (ends : lineEnd ∈ lineEnds) (unclosed : ¬ '\n' :: delimiter <:+: frontmatter) (marks : Nat)
    (body : Text) : split (layout marks lineEnd frontmatter body) = .ok (trimEnd '\r' frontmatter, body) := by
  have opens : Opens (layout marks lineEnd frontmatter body) (frontmatter ++ lineEnd ++ delimiter ++ lineEnd ++ body) :=
    ⟨marks, lineEnd, by simp [layout], .inl ends⟩
  obtain ⟨returns, rfl, all⟩ : ∃ returns, lineEnd = returns ++ ['\n'] ∧ ∀ char ∈ returns, char = '\r' := by
    simp only [lineEnds, List.mem_cons, List.not_mem_nil, or_false] at ends
    rcases ends with rfl | rfl
    · exact ⟨[], rfl, by simp⟩
    · exact ⟨['\r'], rfl, by simp⟩
  have elsewhere : ¬ '\n' :: delimiter <:+: frontmatter ++ returns := by
    rwa [infix_append_returns_iff (by decide) (by decide) all]
  have closing : cutAt? ('\n' :: delimiter)
      (frontmatter ++ (returns ++ ['\n']) ++ delimiter ++ (returns ++ ['\n']) ++ body) =
        some (frontmatter ++ returns, returns ++ ['\n'] ++ body) := by
    rw [← cutAt?_append noFeed_delimiter elsewhere]
    simp
  rw [split_of_opens opens closing, afterLineEnd_append ends, trimEnd_append all]

end Split

section Read

variable {content frontmatter body : Text} {error : FrontmatterError}

theorem read_of_split [TomlDecoder] (parts : split content = .ok (frontmatter, body)) :
    read content = ((readToml CaseHeader.ofToml? frontmatter).mapError .toml).map fun header => (header, body) := by
  rw [read, parts]
  dsimp only [bind, Except.bind]
  cases readToml CaseHeader.ofToml? frontmatter <;> rfl

theorem read_of_split_error [TomlDecoder] (refused : split content = .error error) : read content = .error error := by
  rw [read, refused]
  rfl

theorem run_of_read_error [TomlDecoder] {found : Found} (readable : found.text = .ok content)
    (refused : read content = .error error) : run found = ⟨none, some (.frontmatter error)⟩ := by
  rw [run, readable]
  dsimp only
  rw [refused]

/-- The parts that a content has been put together from are found again, the document without carriage returns at its end.
A content that does not open, or that nothing closes behind its opening, has a frontmatter error. -/
theorem split_inverts_layout [TomlDecoder] :
    (∀ lineEnd ∈ lineEnds, ∀ frontmatter, ¬ '\n' :: delimiter <:+: frontmatter → ∀ marks body,
      ∃ document returns, frontmatter = document ++ List.replicate returns '\r' ∧ document.getLast? ≠ some '\r' ∧
        split (layout marks lineEnd frontmatter body) = .ok (document, body) ∧
        read (layout marks lineEnd frontmatter body) =
          ((readToml CaseHeader.ofToml? document).mapError .toml).map fun header => (header, body)) ∧
    ∀ content,
      (split content = .error .missingOpening ↔
        ¬ ∃ marks rest, content = List.replicate marks '\ufeff' ++ delimiter ++ rest) ∧
      (split content = .error .missingClosing ↔ ∃ after, Opens content after ∧ ¬ '\n' :: delimiter <:+: after) ∧
      ∀ error, split content = .error error → read content = .error error ∧
        ∀ found : Found, found.text = .ok content → run found = ⟨none, some (.frontmatter error)⟩ := by
  constructor
  · intro lineEnd ends frontmatter unclosed marks body
    obtain ⟨returns, whole, last⟩ := exists_trimEnd '\r' frontmatter
    have parts := split_layout ends unclosed marks body
    exact ⟨trimEnd '\r' frontmatter, returns, whole, last, parts, read_of_split parts⟩
  · intro content
    refine ⟨split_eq_missingOpening_iff, split_eq_missingClosing_iff, ?_⟩
    intro error refused
    have unread := read_of_split_error refused
    exact ⟨unread, fun found readable => run_of_read_error readable unread⟩

theorem split_inverts_layout_of_delimiter_in_body :
    let frontmatter : Text := ['#', '\r']
    let body : Text := ['\r', '\n', '-', '-', '-', '\r', '\n']
    let unclosed : Text := ['-', '-', '-', '\n', '-', '-', '-', '\n']
    let found := Found.file (.ok unclosed.str.toUTF8)
    (['\r', '\n'] ∈ lineEnds ∧ ¬ '\n' :: delimiter <:+: frontmatter ∧
      ∃ document returns, frontmatter = document ++ List.replicate returns '\r' ∧ document.getLast? ≠ some '\r' ∧
        split (layout 2 ['\r', '\n'] frontmatter body) = .ok (document, body)) ∧
    split unclosed = .error .missingClosing ∧ found.text = .ok unclosed ∧
      run found = ⟨none, some (.frontmatter .missingClosing)⟩ := by
  intro frontmatter body unclosed found
  obtain ⟨inverts, refuses⟩ := split_inverts_layout
  have ends : ['\r', '\n'] ∈ lineEnds := by decide
  have absent : ¬ '\n' :: delimiter <:+: frontmatter := by decide
  obtain ⟨document, returns, whole, last, parts, _⟩ := inverts _ ends frontmatter absent 2 body
  obtain ⟨_, closing, failed⟩ := refuses unclosed
  have opens : Opens unclosed ['-', '-', '-', '\n'] := ⟨0, ['\n'], rfl, .inl (by decide)⟩
  have refused : split unclosed = .error .missingClosing := closing.mpr ⟨_, opens, by decide⟩
  have text : found.text = .ok unclosed := by
    rw [Found.text_file, decodeText_toUTF8, str, String.toList_ofList]
  exact ⟨⟨ends, absent, document, returns, whole, last, parts⟩, refused, text, (failed _ refused).2 found text⟩

end Read

end LineTemplates.CaseFile
