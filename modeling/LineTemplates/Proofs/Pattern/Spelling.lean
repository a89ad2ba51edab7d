import LineTemplates.Proofs.Pattern.Placeholder
import LineTemplates.Pattern.Nesting

/-! The texts that spell patterns, written as a grammar. A source parses just if the grammar derives it, and the
pattern it parses to is the one derived. -/

namespace LineTemplates

namespace GroupKind

@[simp]
theorem isNameChar_opener (kind : GroupKind) : Segment.isNameChar kind.opener = false := by
  cases kind <;> simp [opener, Segment.isNameChar]

@[simp]
theorem isNameChar_closer (kind : GroupKind) : Segment.isNameChar kind.closer = false := by
  cases kind <;> simp [closer, Segment.isNameChar]

@[simp]
theorem utf8Size_opener (kind : GroupKind) : kind.opener.utf8Size = 1 := by cases kind <;> rfl

@[simp]
theorem utf8Size_closer (kind : GroupKind) : kind.closer.utf8Size = 1 := by cases kind <;> rfl

end GroupKind

namespace Lexemes

theorem readFrom_opener (offset : Nat) (kind : GroupKind) (rest : Text) :
    readFrom offset (kind.opener :: rest) = .lexeme offset (.opener kind) (readFrom (offset + 1) rest) := by
  cases kind <;> rw [GroupKind.opener, readFrom]

theorem readFrom_closer (offset : Nat) (kind : GroupKind) (rest : Text) :
    readFrom offset (kind.closer :: rest) = .lexeme offset (.closer kind) (readFrom (offset + 1) rest) := by
  cases kind <;> rw [GroupKind.closer, readFrom]

end Lexemes

namespace Pattern

/-- The texts that spell a pattern, item by item. A placeholder's name is the longest run of letters and digits
after its mark. -/
inductive Spelling : Pattern → Text → Prop
  | done : Spelling .done []
  | literal {char : Char} {next : Pattern} {rest : Text} (plain : char ∉ ['<', '>', '[', ']', '$', '_'])
      (spelled : Spelling next rest) : Spelling (.item (.literal char) next) (char :: rest)
  | blanks {next : Pattern} {rest : Text} (spelled : Spelling next rest) :
      Spelling (.item .skipBlanks next) ('_' :: rest)
  | placeholder {name : Text} {item : Item} {next : Pattern} {rest : Text} (named : Item.Named name item)
      (ends : ∀ char ∈ rest.head?, Segment.isNameChar char = false) (spelled : Spelling next rest) :
      Spelling (.item item next) ('$' :: name ++ rest)
  | constant {text : Text} {next : Pattern} {rest : Text} (nonempty : text ≠ []) (closes : ')' ∉ text)
      (spelled : Spelling next rest) :
      Spelling (.item (.inject text) next) ('$' :: 'a' :: 'r' :: 'g' :: '(' :: text ++ ')' :: rest)
  | group {kind : GroupKind} {body next : Pattern} {inside rest : Text} (inner : Spelling body inside)
      (spelled : Spelling next rest) :
      Spelling (.group kind body next) (kind.opener :: inside ++ kind.closer :: rest)

/-- A text that spells a pattern is its print: no pattern has two spellings. -/
theorem Spelling.print_eq {pattern : Pattern} {text : Text} (spelled : Spelling pattern text) :
    pattern.print = text := by
  induction spelled with
  | done => rfl
  | literal plain spelled step => rw [print, Item.print_literal plain, step, List.singleton_append]
  | blanks spelled step =>
    rw [print, step]
    rfl
  | placeholder named ends spelled step =>
    rw [print, named.print_eq, step]
    rfl
  | constant nonempty closes spelled step =>
    rw [print, Item.print_inject, step]
    simp [Item.placeholderMark, Item.injectName]
  | group inner spelled innerStep step => rw [print, innerStep, step]

@[simp]
theorem append_done (pattern : Pattern) : pattern ++ done = pattern := by
  induction pattern with
  | done => rfl
  | item head next step => exact congrArg (item head) step
  | group kind body next _ step => exact congrArg (group kind body) step

section Append

variable {front back : Pattern}

theorem item_append (head : Item) (next back : Pattern) : item head next ++ back = item head (next ++ back) := rfl

theorem group_append (kind : GroupKind) (body next back : Pattern) :
    group kind body next ++ back = group kind body (next ++ back) := rfl

/-- Two spelled patterns are spelled side by side, unless a letter or a digit would lengthen a name. -/
theorem Spelling.append {text after : Text} (spelled : Spelling front text) (following : Spelling back after)
    (ends : ∀ char ∈ after.head?, Segment.isNameChar char = false) : Spelling (front ++ back) (text ++ after) := by
  induction spelled with
  | done => exact following
  | literal plain spelled step => exact .literal plain step
  | blanks spelled step => exact .blanks step
  | @placeholder name item next rest named nameEnds spelled step =>
    rw [List.append_assoc]
    exact .placeholder named (Text.head?_append_ends nameEnds ends) step
  | @constant text next rest nonempty closes spelled step =>
    have shape := Spelling.constant nonempty closes step
    simpa [item_append] using shape
  | @group kind body next inside rest inner spelled innerStep step =>
    rw [List.append_assoc, List.cons_append]
    exact .group inner step

end Append

end Pattern

namespace Nested

def prepend (front : Pattern) (nested : Nested) : Nested := ⟨front ++ nested.innermost, nested.enclosing⟩

theorem openGroup_prepend (kind : GroupKind) (body next : Pattern) (nested : Nested) :
    openGroup kind (prepend body (closeGroup (prepend next nested))) = prepend (.group kind body next) nested := by
  simp only [prepend, closeGroup, openGroup, Pattern.append_done]
  rfl

end Nested

namespace Pattern

section Reading

variable (opened : List OpenGroup) (offset : Nat)

theorem nest_literal {char : Char} (plain : char ∉ ['<', '>', '[', ']', '$', '_']) (rest : Text) :
    nest opened (Lexemes.readFrom offset (char :: rest)) =
      Nested.addItem (.literal char) <$> nest opened (Lexemes.readFrom (offset + char.utf8Size) rest) := by
  simp only [List.mem_cons, List.not_mem_nil, or_false, not_or] at plain
  obtain ⟨notLess, notGreater, notOpen, notClose, notDollar, notBlank⟩ := plain
  rw [Lexemes.readFrom.eq_8 offset char rest notLess notGreater notOpen notClose notBlank notDollar]
  rfl

theorem nest_blanks (rest : Text) :
    nest opened (Lexemes.readFrom offset ('_' :: rest)) =
      Nested.addItem .skipBlanks <$> nest opened (Lexemes.readFrom (offset + 1) rest) := by
  rw [Lexemes.readFrom, nest]

theorem nest_placeholder {source after : Text} {item : Item}
    (read : Lexeme.placeholder source = .ok (item, after)) :
    nest opened (Lexemes.readFrom offset ('$' :: source)) =
      Nested.addItem item <$> nest opened (Lexemes.readFrom (offset + Text.utf8Size item.print) after) := by
  rw [Lexemes.readFrom]
  split
  · rename_i fault
    rw [read] at fault
    cases fault
  · rename_i found
    rw [read] at found
    cases found
    rfl

theorem nest_opener (kind : GroupKind) (rest : Text) :
    nest opened (Lexemes.readFrom offset (kind.opener :: rest)) =
      Nested.openGroup kind <$> nest (⟨kind, offset⟩ :: opened) (Lexemes.readFrom (offset + 1) rest) := by
  rw [Lexemes.readFrom_opener, nest]

theorem nest_closer (newest : OpenGroup) (rest : Text) :
    nest (newest :: opened) (Lexemes.readFrom offset (newest.kind.closer :: rest)) =
      Nested.closeGroup <$> nest opened (Lexemes.readFrom (offset + 1) rest) := by
  rw [Lexemes.readFrom_closer, nest, if_pos rfl]

end Reading

/-- A spelling is read as its pattern, which then stands in front of what follows. -/
theorem nest_append {pattern : Pattern} {text : Text} (spelled : Spelling pattern text) (opened : List OpenGroup)
    (offset : Nat) {after : Text} (ends : ∀ char ∈ after.head?, Segment.isNameChar char = false) :
    nest opened (Lexemes.readFrom offset (text ++ after)) =
      Nested.prepend pattern <$> nest opened (Lexemes.readFrom (offset + Text.utf8Size text) after) := by
  induction spelled generalizing opened offset after with
  | done => exact (id_map _).symm
  | literal plain spelled step =>
    rw [List.cons_append, nest_literal _ _ plain, step _ _ ends, Functor.map_map, Text.utf8Size_cons, Nat.add_assoc]
    rfl
  | blanks spelled step =>
    rw [List.cons_append, nest_blanks, step _ _ ends, Functor.map_map, Text.utf8Size_cons, Nat.add_assoc]
    rfl
  | @placeholder name item next rest named nameEnds spelled step =>
    have read : Lexeme.placeholder (name ++ (rest ++ after)) = .ok (item, rest ++ after) :=
      Lexeme.placeholder_eq_ok_iff.mpr (.inl ⟨name, named, Text.head?_append_ends nameEnds ends, rfl⟩)
    rw [List.append_assoc, List.cons_append, nest_placeholder _ _ read, step _ _ ends, Functor.map_map,
      named.print_eq, Text.utf8Size_append, Nat.add_assoc]
    rfl
  | @constant text next rest nonempty closes spelled step =>
    have read : Lexeme.placeholder ('a' :: 'r' :: 'g' :: '(' :: text ++ ')' :: (rest ++ after)) =
        .ok (.inject text, rest ++ after) :=
      Lexeme.placeholder_eq_ok_iff.mpr (.inr ⟨text, nonempty, closes, rfl, rfl⟩)
    have size : Text.utf8Size ('$' :: 'a' :: 'r' :: 'g' :: '(' :: text ++ ')' :: rest) =
        Text.utf8Size (Item.inject text).print + Text.utf8Size rest := by
      rw [Item.print_inject, ← Text.utf8Size_append]
      simp [Item.placeholderMark, Item.injectName]
    rw [size, ← Nat.add_assoc]
    simp only [List.cons_append, List.append_assoc] at read ⊢
    rw [nest_placeholder _ _ read, step _ _ ends, Functor.map_map]
    rfl
  | @group kind body next inside rest inner spelled innerStep step =>
    have closerEnds : ∀ char ∈ (kind.closer :: (rest ++ after)).head?, Segment.isNameChar char = false := by simp
    have size : offset + 1 + Text.utf8Size inside + 1 + Text.utf8Size rest =
        offset + Text.utf8Size (kind.opener :: (inside ++ kind.closer :: rest)) := by
      simp only [Text.utf8Size_cons, Text.utf8Size_append, kind.utf8Size_opener, kind.utf8Size_closer]
      omega
    simp only [List.cons_append, List.append_assoc]
    rw [nest_opener, innerStep _ _ closerEnds, nest_closer _ _ ⟨kind, offset⟩, step _ _ ends]
    simp only [Functor.map_map, Nested.openGroup_prepend, size]

inductive Levels : List OpenGroup → Nested → Text → Prop
  | outermost {pattern : Pattern} {text : Text} (spelled : Spelling pattern text) : Levels [] ⟨pattern, []⟩ text
  | within {newest : OpenGroup} {outer : List OpenGroup} {body next : Pattern} {enclosing : List Pattern}
      {inside rest : Text} (inner : Spelling body inside) (levels : Levels outer ⟨next, enclosing⟩ rest) :
      Levels (newest :: outer) ⟨body, next :: enclosing⟩ (inside ++ newest.kind.closer :: rest)

namespace Levels

variable {opened : List OpenGroup} {nested : Nested} {source : Text} {kind : GroupKind}

theorem addItem {item : Item} (front : Text) (levels : Levels opened nested source)
    (spells : ∀ {next : Pattern} {rest : Text}, rest <+: source → Spelling next rest →
      Spelling (.item item next) (front ++ rest)) :
    Levels opened (nested.addItem item) (front ++ source) := by
  cases levels with
  | outermost spelled => exact .outermost (spells (List.prefix_refl _) spelled)
  | within inner levels =>
    rw [← List.append_assoc]
    exact .within (spells (List.prefix_append ..) inner) levels

theorem openGroup {offset : Nat} (levels : Levels (⟨kind, offset⟩ :: opened) nested source) :
    Levels opened (nested.openGroup kind) (kind.opener :: source) := by
  cases levels with
  | @within _ _ _ _ _ inside _ inner levels =>
    cases levels with
    | outermost spelled => exact .outermost (.group inner spelled)
    | @within newest _ _ _ _ middle rest spelled levels =>
      have joined : kind.opener :: (inside ++ kind.closer :: (middle ++ newest.kind.closer :: rest)) =
          (kind.opener :: inside ++ kind.closer :: middle) ++ newest.kind.closer :: rest := by simp
      rw [joined]
      exact .within (.group inner spelled) levels

theorem closeGroup {newest : OpenGroup} (levels : Levels opened nested source) (same : newest.kind = kind) :
    Levels (newest :: opened) nested.closeGroup (kind.closer :: source) := by
  subst same
  exact .within .done levels

end Levels

theorem spelling_of_placeholder {source after : Text} {item : Item}
    (read : Lexeme.placeholder source = .ok (item, after)) :
    ∃ front, source = front ++ after ∧ ∀ {next : Pattern} {rest : Text}, rest <+: after → Spelling next rest →
      Spelling (.item item next) ('$' :: front ++ rest) := by
  rcases Lexeme.placeholder_eq_ok_iff.mp read with ⟨name, named, ends, rfl⟩ | ⟨text, nonempty, closes, rfl, rfl⟩
  · refine ⟨name, rfl, fun begins spelled => .placeholder named ?_ spelled⟩
    obtain ⟨more, rfl⟩ := begins
    intro char first
    obtain ⟨tail, rfl⟩ := List.head?_eq_some_iff.mp first
    exact ends char rfl
  · refine ⟨Item.injectName ++ '(' :: text ++ [')'], by simp, fun _ spelled => ?_⟩
    have shape := Spelling.constant nonempty closes spelled
    simpa [Item.injectName] using shape

theorem levels_of_closer {kind : GroupKind} {offset : Nat} {lexemes : Lexemes} {source : Text}
    (step : ∀ {opened : List OpenGroup} {nested : Nested},
      nest opened lexemes = .ok nested → Levels opened nested source)
    {opened : List OpenGroup} {nested : Nested}
    (read : nest opened (.lexeme offset (.closer kind) lexemes) = .ok nested) :
    Levels opened nested (kind.closer :: source) := by
  cases opened with
  | nil => cases read
  | cons newest outer =>
    by_cases same : newest.kind = kind
    · rw [nest, if_pos same] at read
      obtain ⟨inner, following, rfl⟩ := map_eq_ok_iff.mp read
      exact (step following).closeGroup same
    · rw [nest, if_neg same] at read
      cases read

theorem levels_of_nest {opened : List OpenGroup} {offset : Nat} {source : Text} {nested : Nested}
    (read : nest opened (Lexemes.readFrom offset source) = .ok nested) : Levels opened nested source := by
  fun_induction Lexemes.readFrom offset source generalizing opened nested with
  | case1 offset =>
    cases opened with
    | nil =>
      cases read
      exact .outermost .done
    | cons newest outer => cases read
  | case2 offset rest step =>
    obtain ⟨inner, following, rfl⟩ := map_eq_ok_iff.mp read
    exact (step following).openGroup
  | case3 offset rest step => exact levels_of_closer step read
  | case4 offset rest step =>
    obtain ⟨inner, following, rfl⟩ := map_eq_ok_iff.mp read
    exact (step following).openGroup
  | case5 offset rest step => exact levels_of_closer step read
  | case6 offset rest step =>
    obtain ⟨inner, following, rfl⟩ := map_eq_ok_iff.mp read
    exact (step following).addItem ['_'] fun _ spelled => .blanks spelled
  | case7 offset rest fault size malformed => cases read
  | case8 offset rest item after found step =>
    obtain ⟨inner, following, rfl⟩ := map_eq_ok_iff.mp read
    obtain ⟨front, rfl, spells⟩ := spelling_of_placeholder found
    exact (step following).addItem ('$' :: front) spells
  | case9 offset char rest notLess notGreater notOpen notClose notBlank notDollar step =>
    obtain ⟨inner, following, rfl⟩ := map_eq_ok_iff.mp read
    refine (step following).addItem [char] fun _ spelled => .literal ?_ spelled
    simp only [List.mem_cons, List.not_mem_nil, or_false, not_or]
    exact ⟨notLess, notGreater, notOpen, notClose, notDollar, notBlank⟩

/-- A source parses to a pattern just if it spells the pattern. -/
theorem parse_eq_ok_iff {source : Text} {pattern : Pattern} :
    parse source = .ok pattern ↔ Spelling pattern source := by
  constructor
  · intro read
    obtain ⟨nested, levels, rfl⟩ := map_eq_ok_iff.mp read
    cases levels_of_nest levels with
    | outermost spelled => exact spelled
  · intro spelled
    have ended : ∀ char ∈ ([] : Text).head?, Segment.isNameChar char = false := nofun
    have read := nest_append spelled [] 0 ended
    rw [List.append_nil] at read
    rw [parse, ofLexemes, Lexemes.read, read, Lexemes.readFrom, nest]
    exact congrArg Except.ok (append_done pattern)

end Pattern

end LineTemplates
