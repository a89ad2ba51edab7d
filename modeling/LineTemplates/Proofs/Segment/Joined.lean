import LineTemplates.Proofs.Segment.Canonical
import LineTemplates.Proofs.Segment.Quotes

/-! Lines that are joined from two texts. Unless value characters meet where they are joined, the first text has no part
in how the second one is cut: its segments follow those of the first, and a quote that stays open in it is found as many
bytes later as the first text has. -/

namespace LineTemplates

def UnclosedQuote.behind (bytes : Nat) (fault : UnclosedQuote) : UnclosedQuote :=
  ⟨⟨bytes + fault.span.start, bytes + fault.span.stop⟩⟩

namespace Segment

variable {front back : List Segment} {line : Text} {fault : UnclosedQuote}

theorem renderAll_append (front back : List Segment) : renderAll (front ++ back) = renderAll front ++ renderAll back :=
  List.flatMap_append

theorem exists_valueChar_of_getLast? (canonical : Canonical front) {text : Text} (last : run text ∈ front.getLast?) :
    ∃ char ∈ (renderAll front).getLast?, ValueChar char := by
  obtain ⟨filled, _, values⟩ := canonical.wellFormed _ (List.mem_of_getLast? last)
  obtain ⟨before, rfl⟩ := List.getLast?_eq_some_iff.mp last
  have rendered : renderAll (before ++ [run text]) = renderAll before ++ text := by simp [renderAll_append]
  refine ⟨text.getLast filled, ?_, values _ (List.getLast_mem filled)⟩
  rw [rendered]
  exact List.mem_getLast?_append_of_mem_getLast? (List.getLast?_eq_getLast_of_ne_nil filled)

/-- Segments can be joined unless a run would go on that is not full, as it may where value characters meet. -/
theorem Canonical.append (first : Canonical front) (second : Canonical back)
    (apart : ∀ last ∈ (renderAll front).getLast?, ∀ next ∈ (renderAll back).head?,
      ¬ (ValueChar last ∧ ValueChar next)) :
    Canonical (front ++ back) := by
  refine ⟨List.forall_mem_append.mpr ⟨first.wellFormed, second.wellFormed⟩, ?_⟩
  refine List.isChain_append.mpr ⟨first.adjacent, second.adjacent, ?_⟩
  intro last ends next begins
  match last, next, ends, begins with
  | run _, run _, ends, begins =>
    obtain ⟨char, lastChar, value⟩ := exists_valueChar_of_getLast? first ends
    obtain ⟨other, firstChar, otherValue⟩ := (renderAll_begins_value_iff second).mpr ⟨_, begins⟩
    exact absurd ⟨value, otherValue⟩ (apart char lastChar other firstChar)
  | run _, quoted _, _, _ => trivial
  | run _, symbol _, _, _ => trivial
  | quoted _, _, _, _ => trivial
  | symbol _, _, _, _ => trivial

theorem LeavesOpen.behind (opened : LeavesOpen 0 line fault) (bytes : Nat) :
    LeavesOpen bytes line (fault.behind bytes) := by
  obtain ⟨before, after, whole, last, even, rfl⟩ := opened
  exact ⟨before, after, whole, last, even, by simp [UnclosedQuote.behind]⟩

/-- A text that is cut into segments has no part in how the text behind it is cut, unless value characters meet: the
line that is joined from both has the segments of both, or the open quote of the second one, so many bytes later. -/
theorem tokenize_joined {first second : Text} {segments : List Segment} (cut : tokenize first = .ok segments)
    (apart : ∀ last ∈ first.getLast?, ∀ next ∈ second.head?, ¬ (ValueChar last ∧ ValueChar next)) :
    tokenize (first ++ second) = match tokenize second with
      | .ok more => .ok (segments ++ more)
      | .error fault => .error (fault.behind (Text.utf8Size first)) := by
  obtain ⟨canonical, rendered⟩ := canonical_of_tokenizeFrom cut
  cases tokenized : tokenize second with
  | ok more =>
    obtain ⟨following, renderedMore⟩ := canonical_of_tokenizeFrom tokenized
    have joined : renderAll (segments ++ more) = first ++ second := by rw [renderAll_append, rendered, renderedMore]
    rw [← rendered, ← renderedMore] at apart
    exact tokenize_of_renderAll (canonical.append following apart) joined
  | error fault =>
    -- The quotes of the first text are in pairs, so that the one that stays open is that of the second.
    have paired : Even (first.count quoteMark) := (exists_tokenize_eq_ok_iff first).mp ⟨segments, cut⟩
    have opened : LeavesOpen 0 second fault := (tokenizeFrom_eq_error_iff 0 second fault).mp tokenized
    apply (tokenizeFrom_eq_error_iff 0 (first ++ second) _).mpr
    rw [leavesOpen_append_iff paired, Nat.zero_add]
    exact opened.behind (Text.utf8Size first)

theorem tokenize_joined_behind_quoted :
    let first : Text := ['a', '"', 'é', '"']
    let segments : List Segment := [.run ['a'], .quoted ['é']]
    tokenize first = .ok segments ∧ tokenize (first ++ ['b']) = .ok (segments ++ [.run ['b']]) ∧
      tokenize ['"', 'b'] = .error ⟨⟨0, 2⟩⟩ ∧ tokenize (first ++ ['"', 'b']) = .error ⟨⟨5, 7⟩⟩ := by
  intro first segments
  have cut : tokenize first = .ok segments := by
    refine tokenize_of_renderAll ?_ rfl
    simp [segments, canonical_cons, canonical_nil, WellFormed, MayPrecede, ValueChar]
  have run : tokenize ['b'] = .ok [.run ['b']] := by
    refine tokenize_of_renderAll ?_ rfl
    simp [canonical_cons, canonical_nil, WellFormed, ValueChar]
  have opened : tokenize ['"', 'b'] = .error ⟨⟨0, 2⟩⟩ :=
    (tokenizeFrom_eq_error_iff 0 _ _).mpr ⟨[], ['b'], rfl, by decide, by decide, rfl⟩
  have apart (second : Text) : ∀ last ∈ first.getLast?, ∀ next ∈ second.head?, ¬ (ValueChar last ∧ ValueChar next) := by
    rintro _ ⟨rfl⟩ _ _ ⟨value, _⟩
    exact not_valueChar_quoteMark value
  have whole := tokenize_joined cut (apart ['b'])
  have broken := tokenize_joined cut (apart ['"', 'b'])
  rw [run] at whole
  rw [opened] at broken
  exact ⟨cut, whole, opened, broken⟩

end Segment

end LineTemplates
