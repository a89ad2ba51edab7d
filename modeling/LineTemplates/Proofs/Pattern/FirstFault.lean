import LineTemplates.Proofs.Pattern.Malformed
import LineTemplates.Proofs.Pattern.Spelling

/-! The first fault of a source. In front of the first malformed item stand well-formed ones, among them the openers of the
groups that are open there; if no item is malformed the innermost group that is left open is at fault. -/

namespace LineTemplates

namespace Pattern

/-- The texts that are well-formed as far as they go: whole patterns, with the openers of groups that are left open between
them. The groups come with the places of their openers, the innermost one first. -/
inductive Unfinished : List OpenGroup → Text → Prop
  | outermost {pattern : Pattern} {text : Text} (spelled : Spelling pattern text) : Unfinished [] text
  | within {kind : GroupKind} {outer : List OpenGroup} {front inside : Text} {pattern : Pattern}
      (enclosing : Unfinished outer front) (spelled : Spelling pattern inside) :
      Unfinished (⟨kind, Text.utf8Size front⟩ :: outer) (front ++ kind.opener :: inside)

inductive Malformed : List OpenGroup → (text after : Text) → PatternFault → Prop
  | unopened {kind : GroupKind} {after : Text} : Malformed [] [kind.closer] after (.unopened kind)
  | mismatched {newest : OpenGroup} {outer : List OpenGroup} {kind : GroupKind} {after : Text}
      (other : newest.kind ≠ kind) :
      Malformed (newest :: outer) [kind.closer] after (.mismatched kind newest.offset)
  | placeholder {opened : List OpenGroup} {text after : Text} {fault : PatternFault}
      (malformed : Lexeme.Malformed text after fault) : Malformed opened text after fault

inductive FirstFault (source : Text) : PatternFault → Span → Prop
  | malformed {opened : List OpenGroup} {front text after : Text} {fault : PatternFault}
      (whole : source = front ++ (text ++ after)) (reads : Unfinished opened front)
      (malformed : Malformed opened text after fault) :
      FirstFault source fault ⟨Text.utf8Size front, Text.utf8Size front + Text.utf8Size text⟩
  | unclosed {newest : OpenGroup} {outer : List OpenGroup} (reads : Unfinished (newest :: outer) source) :
      FirstFault source .unclosed ⟨newest.offset, newest.offset + 1⟩

section Fault

variable {opened outer : List OpenGroup} {newest : OpenGroup} {kind : GroupKind} {pattern : Pattern}
  {front text after source : Text} {fault : PatternFault} {span : Span}

theorem Malformed.ne_nil (malformed : Malformed opened text after fault) : text ≠ [] := by
  cases malformed with
  | unopened => nofun
  | mismatched other => nofun
  | placeholder malformed => cases malformed <;> nofun

theorem Malformed.ends (malformed : Malformed opened text after fault) :
    ∀ char ∈ (text ++ after).head?, Segment.isNameChar char = false := by
  have mark : Segment.isNameChar '$' = false := rfl
  cases malformed with
  | unopened => simp
  | mismatched other => simp
  | placeholder malformed => cases malformed <;> simp [mark]

theorem Unfinished.append (reads : Unfinished opened front) (spelled : Spelling pattern text)
    (ends : ∀ char ∈ text.head?, Segment.isNameChar char = false) : Unfinished opened (front ++ text) := by
  cases reads with
  | outermost before => exact .outermost (before.append spelled ends)
  | within enclosing before =>
    rw [List.append_assoc, List.cons_append]
    exact .within enclosing (before.append spelled ends)

/-- A fault behind a well-formed text is the fault of the whole. -/
theorem Unfinished.nest_eq_error (reads : Unfinished opened front)
    (ends : ∀ char ∈ after.head?, Segment.isNameChar char = false)
    (failed : nest opened (Lexemes.readFrom (Text.utf8Size front) after) = .error (fault, span)) :
    nest [] (Lexemes.readFrom 0 (front ++ after)) = .error (fault, span) := by
  induction reads generalizing after with
  | outermost spelled =>
    rw [nest_append spelled [] 0 ends, Nat.zero_add]
    exact map_eq_error_iff.mpr failed
  | @within kind outer front inside pattern enclosing spelled step =>
    have size : Text.utf8Size (front ++ kind.opener :: inside) =
        Text.utf8Size front + 1 + Text.utf8Size inside := by
      simp [Text.utf8Size_append, Nat.add_assoc]
    rw [List.append_assoc, List.cons_append]
    apply step
    · simp
    · rw [nest_opener, nest_append spelled _ _ ends, ← size]
      exact map_eq_error_iff.mpr (map_eq_error_iff.mpr failed)

theorem nest_unopened (offset : Nat) (kind : GroupKind) (after : Text) :
    nest [] (Lexemes.readFrom offset (kind.closer :: after)) = .error (.unopened kind, ⟨offset, offset + 1⟩) := by
  rw [Lexemes.readFrom_closer, nest]

theorem nest_mismatched (outer : List OpenGroup) (offset : Nat) (after : Text) (other : newest.kind ≠ kind) :
    nest (newest :: outer) (Lexemes.readFrom offset (kind.closer :: after)) =
      .error (.mismatched kind newest.offset, ⟨offset, offset + 1⟩) := by
  rw [Lexemes.readFrom_closer, nest, if_neg other]

theorem nest_malformed (opened : List OpenGroup) (offset : Nat)
    (malformed : Lexeme.Malformed text after fault) :
    nest opened (Lexemes.readFrom offset (text ++ after)) =
      .error (fault, ⟨offset, offset + Text.utf8Size text⟩) := by
  obtain ⟨name, rfl⟩ : ∃ name, text = '$' :: name := by cases malformed <;> exact ⟨_, rfl⟩
  have read := Lexeme.placeholder_of_malformed malformed
  rw [List.cons_append, Lexemes.readFrom]
  split
  · rename_i fault' size failed
    rw [read] at failed
    cases failed
    rfl
  · rename_i found
    rw [read] at found
    cases found

theorem Malformed.nest_eq (malformed : Malformed opened text after fault) (offset : Nat) :
    nest opened (Lexemes.readFrom offset (text ++ after)) =
      .error (fault, ⟨offset, offset + Text.utf8Size text⟩) := by
  cases malformed with
  | unopened => simpa using nest_unopened offset _ after
  | mismatched other => simpa using nest_mismatched _ offset after other
  | placeholder malformed => exact nest_malformed _ _ malformed

theorem FirstFault.parse_eq (first : FirstFault source fault span) : parse source = .error (fault, span) := by
  have failed : nest [] (Lexemes.readFrom 0 source) = .error (fault, span) := by
    cases first with
    | malformed whole reads malformed =>
      rw [whole]
      exact reads.nest_eq_error malformed.ends (malformed.nest_eq _)
    | unclosed reads =>
      have nothing : ∀ char ∈ ([] : Text).head?, Segment.isNameChar char = false := nofun
      have ended := reads.nest_eq_error nothing (by rw [Lexemes.readFrom, nest])
      rwa [List.append_nil] at ended
  exact map_eq_error_iff.mpr failed

def ReadsOn (opened : List OpenGroup) (front source : Text) : Prop :=
  ∀ {pattern : Pattern} {text : Text}, text <+: source → Spelling pattern text → Unfinished opened (front ++ text)

namespace ReadsOn

theorem start (source : Text) : ReadsOn [] [] source := by
  intro pattern text _ spelled
  exact .outermost spelled

theorem unfinished (reads : ReadsOn opened front source) : Unfinished opened front := by
  have here := reads List.nil_prefix .done
  rwa [List.append_nil] at here

theorem addItem {item : Item} (reads : ReadsOn opened front (text ++ after))
    (spells : ∀ {next : Pattern} {rest : Text}, rest <+: after → Spelling next rest →
      Spelling (.item item next) (text ++ rest)) : ReadsOn opened (front ++ text) after := by
  intro next rest begins spelled
  rw [List.append_assoc]
  exact reads ((List.prefix_append_right_inj text).mpr begins) (spells begins spelled)

theorem openGroup (reads : ReadsOn opened front (kind.opener :: after)) :
    ReadsOn (⟨kind, Text.utf8Size front⟩ :: opened) (front ++ [kind.opener]) after := by
  intro pattern text _ spelled
  rw [List.append_assoc, List.singleton_append]
  exact .within reads.unfinished spelled

theorem closeGroup (reads : ReadsOn (newest :: outer) front (newest.kind.closer :: after)) :
    ReadsOn outer (front ++ [newest.kind.closer]) after := by
  intro next rest _ spelled
  cases reads.unfinished with
  | @within kind _ front inside body enclosing inner =>
    have group : Spelling (.group kind body next) (kind.opener :: (inside ++ kind.closer :: rest)) := .group inner spelled
    simpa using enclosing.append group (by simp)

end ReadsOn

def Blames (offset : Nat) (source : Text) (lexemes : Lexemes) : Prop :=
  ∀ (opened : List OpenGroup) (front : Text) (fault : PatternFault) (span : Span), offset = Text.utf8Size front →
    ReadsOn opened front source → nest opened lexemes = .error (fault, span) → FirstFault (front ++ source) fault span

section Blames

variable {offset : Nat} {lexemes : Lexemes}

theorem Blames.behind (later : Blames (offset + Text.utf8Size text) after lexemes)
    (place : offset = Text.utf8Size front) (reads : ReadsOn outer (front ++ text) after)
    (failed : nest outer lexemes = .error (fault, span)) : FirstFault (front ++ (text ++ after)) fault span := by
  have size : offset + Text.utf8Size text = Text.utf8Size (front ++ text) := by rw [Text.utf8Size_append, place]
  rw [← List.append_assoc]
  exact later outer (front ++ text) fault span size reads failed

theorem blames_item {item : Item} (text : Text)
    (spells : ∀ {next : Pattern} {rest : Text}, rest <+: after → Spelling next rest →
      Spelling (.item item next) (text ++ rest)) (later : Blames (offset + Text.utf8Size text) after lexemes) :
    Blames offset (text ++ after) (.lexeme offset (.item item) lexemes) := by
  intro opened front fault span place reads failed
  exact later.behind place (reads.addItem spells) (map_eq_error_iff.mp failed)

theorem blames_opener (kind : GroupKind) (later : Blames (offset + Text.utf8Size [kind.opener]) after lexemes) :
    Blames offset (kind.opener :: after) (.lexeme offset (.opener kind) lexemes) := by
  intro opened front fault span place reads failed
  subst place
  exact later.behind rfl reads.openGroup (map_eq_error_iff.mp failed)

theorem blames_closer (kind : GroupKind) (later : Blames (offset + Text.utf8Size [kind.closer]) after lexemes) :
    Blames offset (kind.closer :: after) (.lexeme offset (.closer kind) lexemes) := by
  intro opened front fault span place reads failed
  subst place
  have covers : Text.utf8Size front + 1 = Text.utf8Size front + Text.utf8Size [kind.closer] := by simp
  cases opened with
  | nil =>
    cases failed
    rw [covers]
    exact .malformed rfl reads.unfinished .unopened
  | cons newest outer =>
    by_cases same : newest.kind = kind
    · subst same
      rw [nest, if_pos rfl] at failed
      exact later.behind rfl reads.closeGroup (map_eq_error_iff.mp failed)
    · rw [nest, if_neg same] at failed
      cases failed
      rw [covers]
      exact .malformed rfl reads.unfinished (.mismatched same)

theorem blames_readFrom (offset : Nat) (source : Text) : Blames offset source (Lexemes.readFrom offset source) := by
  fun_induction Lexemes.readFrom offset source with
  | case1 offset =>
    intro opened front fault span place reads failed
    cases opened with
    | nil => cases failed
    | cons newest outer =>
      -- At the end of the source only a group that is still open can be at fault.
      cases failed
      rw [List.append_nil]
      exact .unclosed reads.unfinished
  | case2 offset rest step => exact blames_opener .repeatable step
  | case3 offset rest step => exact blames_closer .repeatable step
  | case4 offset rest step => exact blames_opener .optional step
  | case5 offset rest step => exact blames_closer .optional step
  | case6 offset rest step => exact blames_item ['_'] (fun _ spelled => .blanks spelled) step
  | case7 offset rest fault size failed =>
    intro opened front fault' span place reads read
    subst place
    cases read
    obtain ⟨text, after, rfl, rfl, malformed⟩ := Lexeme.placeholder_eq_error_iff.mp failed
    exact .malformed rfl reads.unfinished (.placeholder malformed)
  | case8 offset rest item after found step =>
    obtain ⟨text, rfl, spells⟩ := spelling_of_placeholder found
    have print : item.print = '$' :: text := by
      have alone := (spells List.nil_prefix .done).print_eq
      rwa [Pattern.print, Pattern.print, List.append_nil, List.append_nil] at alone
    rw [print] at step ⊢
    exact blames_item _ spells step
  | case9 offset char rest notLess notGreater notOpen notClose notBlank notDollar step =>
    have plain : char ∉ ['<', '>', '[', ']', '$', '_'] := by
      simp only [List.mem_cons, List.not_mem_nil, or_false, not_or]
      exact ⟨notLess, notGreater, notOpen, notClose, notDollar, notBlank⟩
    exact blames_item [char] (fun _ spelled => .literal plain spelled) step

end Blames

/-- A source fails to parse just at its first fault. -/
theorem parse_eq_error_iff : parse source = .error (fault, span) ↔ FirstFault source fault span := by
  constructor
  · intro failed
    exact blames_readFrom 0 source [] [] fault span rfl (ReadsOn.start source) (map_eq_error_iff.mp failed)
  · exact FirstFault.parse_eq

/-- A fault covers whole characters of the source, and at least one of them. -/
theorem FirstFault.covers (first : FirstFault source fault span) :
    ∃ before inside after, source = before ++ (inside ++ after) ∧ inside ≠ [] ∧
      span = ⟨Text.utf8Size before, Text.utf8Size before + Text.utf8Size inside⟩ := by
  cases first with
  | malformed whole reads malformed => exact ⟨_, _, _, whole, malformed.ne_nil, rfl⟩
  | unclosed reads =>
    cases reads with
    | @within kind _ front inside _ enclosing spelled =>
      refine ⟨front, [kind.opener], inside, rfl, nofun, ?_⟩
      simp

theorem FirstFault.mismatched {place : Nat} (first : FirstFault source (.mismatched kind place) span) :
    ∃ newest outer front after, source = front ++ kind.closer :: after ∧ Unfinished (newest :: outer) front ∧
      newest.kind ≠ kind ∧ newest.offset = place ∧ span = ⟨Text.utf8Size front, Text.utf8Size front + 1⟩ := by
  cases first with
  | malformed whole reads malformed =>
    cases malformed with
    | mismatched other =>
      refine ⟨_, _, _, _, whole, reads, other, rfl, ?_⟩
      simp
    | placeholder malformed => cases malformed

end Fault

end Pattern

end LineTemplates
