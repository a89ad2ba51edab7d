import LineTemplates.Proofs.Segment.Quotes
import LineTemplates.Registry

/-! Lines that are refused. A line is refused because it is empty, or because one of its quotes is never closed; that is
the last one, and the fault covers the line from there on. No registry has a part in it. -/

namespace LineTemplates

variable {registry : Registry} {line : Text} {fault : UnclosedQuote} {error : LineError}

namespace Segment

theorem exists_tokenize_eq_error_iff (line : Text) :
    (∃ fault, tokenize line = .error fault) ↔ Odd (line.count quoteMark) := by
  rw [← exists_leavesOpen_iff 0]
  exact exists_congr fun fault => tokenizeFrom_eq_error_iff 0 line fault

theorem span_of_tokenize (refused : tokenize line = .error fault) :
    ∃ before after, line = before ++ quoteMark :: after ∧ quoteMark ∉ after ∧
      fault.span = ⟨Text.utf8Size before, Text.utf8Size line⟩ := by
  obtain ⟨before, after, whole, last, _, rfl⟩ := (tokenizeFrom_eq_error_iff 0 line fault).mp refused
  refine ⟨before, after, whole, last, ?_⟩
  rw [Nat.zero_add, Nat.zero_add]

end Segment

namespace Registry

/-- What is wrong with a refused line is wrong with the line itself. -/
theorem parseLine_eq_error_iff :
    registry.parseLine line = .error error ↔
      line = [] ∧ error = .empty ∨ ∃ fault, Segment.tokenize line = .error fault ∧ error = .unclosedQuote fault := by
  by_cases empty : line = []
  · have tokenized : Segment.tokenize line = .ok [] := by
      rw [empty, Segment.tokenize, Segment.tokenizeFrom]
    rw [parseLine, if_pos empty, tokenized]
    simp [empty, eq_comm]
  · rw [parseLine, if_neg empty]
    cases tokenized : Segment.tokenize line with
    | error fault => simp [empty, eq_comm]
    | ok segments => simp [empty]

/-- Cutting a line fails just if the number of its quotes is odd, at the last of them. A registry refuses the lines for
which that is so and the empty one, and reports the same fault whatever its templates are. -/
theorem refuses_iff_empty_or_unclosed (line : Text) :
    ((∃ fault, Segment.tokenize line = .error fault) ↔ Odd (line.count '"')) ∧
    (∀ fault, Segment.tokenize line = .error fault → ∃ before after, line = before ++ '"' :: after ∧ '"' ∉ after ∧
      fault.span = ⟨Text.utf8Size before, Text.utf8Size line⟩) ∧
    ∀ (registry : Registry) error, registry.parseLine line = .error error ↔
      line = [] ∧ error = .empty ∨ ∃ fault, Segment.tokenize line = .error fault ∧ error = .unclosedQuote fault := by
  refine ⟨Segment.exists_tokenize_eq_error_iff line, ?span, ?registry⟩
  case span =>
    intro fault refused
    exact Segment.span_of_tokenize refused
  case registry =>
    intro registry error
    exact parseLine_eq_error_iff

theorem refuses_iff_empty_or_unclosed_behind_closed :
    let line := ['é', '"', '"', '"', 'a']
    Odd (line.count '"') ∧ Segment.tokenize line = .error ⟨⟨4, 6⟩⟩ ∧
      (∃ before after, line = before ++ '"' :: after ∧ '"' ∉ after ∧
        (⟨4, 6⟩ : Span) = ⟨Text.utf8Size before, Text.utf8Size line⟩) ∧
      Registry.empty.parseLine line = .error (.unclosedQuote ⟨⟨4, 6⟩⟩) := by
  intro line
  have odd : Odd (line.count '"') := by decide
  have unclosed : Segment.tokenize line = .error ⟨⟨4, 6⟩⟩ :=
    (Segment.tokenizeFrom_eq_error_iff 0 line _).mpr
      ⟨['é', '"', '"'], ['a'], rfl, by decide, by decide, by decide⟩
  obtain ⟨_, span, refuses⟩ := refuses_iff_empty_or_unclosed line
  refine ⟨odd, unclosed, span _ unclosed, ?_⟩
  exact (refuses Registry.empty _).mpr (.inr ⟨_, unclosed, rfl⟩)

end Registry

end LineTemplates
