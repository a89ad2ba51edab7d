import LineTemplates.Proofs.Toml.Alike

/-! Line ends of a document. No word of a document holds a line feed, and between words a line feed and a carriage
return before it are read as one; so a document says the same with carriage returns before its line feeds. -/

namespace LineTemplates.Toml

open Text Reader

namespace Alike

variable {size limit longer : Nat}

section Lines

theorem blanks : Alike size blanks blanks := (many (by decide)).map _

theorem comment : Alike size comment comment :=
  accept_bind (by decide) (fun _ _ => (many (by decide)).map _) (.pure ())

theorem gaps : size < limit → size < longer → Alike size (gaps limit) (gaps longer) :=
  turns fun _ _ rest => blanks.bind fun _ => comment.bind fun _ => newline_bind rest (.pure ())

theorem space : size < limit → size < longer → Alike size (space limit) (space longer) :=
  turns fun _ _ rest => blanks.bind fun _ => newline_bind rest (.pure ())

end Lines

section Strings

variable {mark : Char}

theorem codePoint (digits : Nat) : Alike size (codePoint digits) (codePoint digits) :=
  (exactly digits (by decide)).bind fun _ => .ite (fun _ => .pure _) (fun _ => .failure)

theorem escape : Alike size escape escape := by
  refine oneOf_bind (fun char _ _ less _ => ?_) (fun _ => rfl) (fun _ => rfl)
  split
  case h_8 => exact codePoint 4
  case h_9 => exact codePoint 8
  case h_10 => exact .failure
  all_goals exact .pure _

theorem stringRest (basic : Bool) (mark : Char) :
    size < limit → size < longer → Alike size (stringRest basic mark limit) (stringRest basic mark longer) := by
  apply turns
  intro size limit longer _ _ rest
  refine oneOf_bind (fun char _ _ less fewer => ?_) (fun passes => absurd passes (by decide))
    (fun passes => absurd passes (by decide))
  have later (meant : Char) : Alike less (do return meant :: (← Toml.stringRest basic mark limit))
      (do return meant :: (← Toml.stringRest basic mark longer)) :=
    (rest less fewer).bind fun text => .pure (meant :: text)
  refine .ite (fun _ => .pure []) fun _ => .ite (fun _ => escape.bind later) fun _ => ?_
  exact (Alike.pure char).bind later

theorem longStringRest (basic : Bool) (noFeed : mark ≠ '\n') (noReturn : mark ≠ '\r') :
    size < limit → size < longer → Alike size (longStringRest basic mark limit) (longStringRest basic mark longer) := by
  apply turns
  intro size limit longer enough more rest
  have later {less : Nat} (fewer : less < size) (meant : Char) :
      Alike less (do return meant :: (← Toml.longStringRest basic mark limit))
        (do return meant :: (← Toml.longStringRest basic mark longer)) :=
    (rest less fewer).bind fun text => .pure (meant :: text)
  refine accept_bind (by simp [Inline, noFeed.symm, noReturn.symm]) (fun _ _ => ?_) ?_
  · refine (many (by simp [Within, noFeed.symm, noReturn.symm])).bind fun marks => ?_
    exact .ite (fun _ => .pure marks) (fun _ => .failure)
  refine newline_bind (fun less fewer => later fewer '\n') ?_
  refine oneOf_bind (fun char _ _ less fewer => ?_) (fun passes => absurd passes (by decide))
    (fun passes => absurd passes (by decide))
  refine .ite (fun _ => ?_) (fun _ => later fewer char)
  have lineEnds : Alike less (do Toml.blanks; unless ← Toml.newline do failure)
      (do Toml.blanks; unless ← Toml.newline do failure) :=
    blanks.bind fun _ => newline_bind (fun _ _ => .pure ()) .failure
  refine lineEnds.optional.bind fun found => ?_
  cases found with
  | some _ => exact (space (by omega) (by omega)).bind fun _ => rest less fewer
  | none => exact escape.bind (later fewer)

theorem string (basic : Bool) (noFeed : mark ≠ '\n') (noReturn : mark ≠ '\r') :
    Alike size (string basic mark) (string basic mark) := by
  refine get_bind fun text _ _ => ?_
  have long := length_le_withReturns text
  refine accept_bind (by simp [Inline, noFeed.symm, noReturn.symm]) (fun less fewer => ?_) ?_
  · exact (newline.map _).bind fun _ => longStringRest basic noFeed noReturn (by omega) (by omega)
  · refine (expect (by simp [Inline, noFeed.symm, noReturn.symm])).bind fun _ => ?_
    exact stringRest basic mark (by omega) (by omega)

end Strings

section Keys

theorem simpleKey : Alike size simpleKey simpleKey := by
  have bare : Alike size (do let key ← Reader.many isBareKey; if key = [] then failure else return key)
      (do let key ← Reader.many isBareKey; if key = [] then failure else return key) :=
    (many (by decide)).bind fun key => .ite (fun _ => .failure) (fun _ => .pure key)
  refine peek_bind (fun char _ => ?_) bare
  split
  · refine get_bind fun text _ _ => ?_
    have long := length_le_withReturns text
    refine (expect (by decide)).bind fun _ => ?_
    exact stringRest true '"' (by omega) (by omega)
  · refine get_bind fun text _ _ => ?_
    have long := length_le_withReturns text
    refine (expect (by decide)).bind fun _ => ?_
    exact stringRest false '\'' (by omega) (by omega)
  · exact bare

theorem moreKeys : size < limit → size < longer → Alike size (moreKeys limit) (moreKeys longer) := by
  apply turns
  intro size limit longer _ _ rest
  refine blanks.bind fun _ => accept_bind (by decide) (fun less fewer => ?_) (.pure [])
  exact blanks.bind fun _ => simpleKey.bind fun key => (rest less fewer).bind fun keys => .pure (key :: keys)

theorem dottedKey : Alike size dottedKey dottedKey := by
  refine get_bind fun text _ _ => ?_
  have long := length_le_withReturns text
  refine simpleKey.bind fun first => (moreKeys (by omega) (by omega)).bind fun keys => ?_
  exact .ite (fun _ => .failure) (fun _ => .pure _)

end Keys

section Numbers

variable {test : Char → Bool}

theorem groupedDigits (within : Within test) :
    size < limit → size < longer → Alike size (groupedDigits test limit) (groupedDigits test longer) := by
  apply turns
  intro size limit longer _ _ rest
  refine (many within).bind fun digits => ?_
  refine passing (accept_bind (by decide) (fun less fewer => ?_) (.pure digits))
  exact (rest less fewer).bind fun more => .pure (digits ++ more)

theorem digitGroups (within : Within test) :
    Alike size (digitGroups test) (digitGroups test) := by
  refine get_bind fun text _ _ => ?_
  have long := length_le_withReturns text
  exact groupedDigits within (by omega) (by omega)

theorem basedInteger : Alike size basedInteger basedInteger := by
  have based {less base : Nat} {test : Char → Bool} (within : Within test) :
      let digits : Reader Value := do
        let value := Digits.natural base (← Toml.digitGroups test)
        if value < integerLimit then return .integer value else failure
      Alike less digits digits :=
    (digitGroups within).bind fun _ => .ite (fun _ => .pure _) (fun _ => .failure)
  refine (expect (by decide)).bind fun _ => ?_
  refine oneOf_bind (fun char _ _ less _ => ?_) (fun _ => rfl) (fun _ => rfl)
  split
  · exact based (by decide)
  · exact based (by decide)
  · exact based (by decide)
  · exact .failure

theorem sign : Alike size sign sign := by
  refine accept_bind (by decide) (fun _ _ => .pure true) ?_
  exact ((accept (by decide)).map _).bind fun _ => .pure false

theorem wholeDigits : Alike size wholeDigits wholeDigits :=
  (digitGroups (by decide)).bind fun _ => .ite (fun _ => .failure) (fun _ => .pure _)

theorem fraction : Alike size fraction fraction :=
  (expect (by decide)).bind fun _ => digitGroups (by decide)

theorem exponent : Alike size exponent exponent := by
  refine ((oneOf (by decide)).map _).bind fun _ => sign.bind fun negative => ?_
  exact (digitGroups (by decide)).bind fun _ => .pure _

theorem number : Alike size number number := by
  refine sign.bind fun negative => ?_
  refine accept_bind (by decide) (fun _ _ => .pure _) ?_
  refine accept_bind (by decide) (fun _ _ => .pure _) ?_
  refine wholeDigits.bind fun whole => fraction.optional.bind fun places => exponent.optional.bind fun power => ?_
  split
  · exact .ite (fun _ => .pure _) (fun _ => .failure)
  · split
    exact passing (.pure _)

end Numbers

section Times

theorem boundedDigits (count least greatest : Nat) :
    Alike size (boundedDigits count least greatest) (boundedDigits count least greatest) :=
  (exactly count (by decide)).bind fun _ => .ite (fun _ => .pure _) (fun _ => .failure)

theorem date : Alike size date date := by
  refine (exactly 4 (by decide)).bind fun year => (expect (by decide)).bind fun _ => ?_
  refine (boundedDigits _ _ _).bind fun month => (expect (by decide)).bind fun _ => ?_
  exact (boundedDigits _ _ _).bind fun day => .pure _

theorem time : Alike size time time := by
  refine (boundedDigits _ _ _).bind fun hour => (expect (by decide)).bind fun _ => ?_
  refine (boundedDigits _ _ _).bind fun minute => (expect (by decide)).bind fun _ => ?_
  refine (boundedDigits _ _ _).bind fun second => ?_
  refine (Alike.optional ?_).bind fun places => .pure _
  refine (expect (by decide)).bind fun _ => (many (by decide)).bind fun digits => ?_
  exact .ite (fun _ => .failure) (fun _ => .pure _)

theorem offset : Alike size offset offset := by
  refine (oneOf (by decide)).bind fun mark => .ite (fun _ => .pure _) fun _ => ?_
  refine (boundedDigits _ _ _).bind fun hour => (expect (by decide)).bind fun _ => ?_
  exact (boundedDigits _ _ _).bind fun minute => .pure _

theorem dateTime : Alike size dateTime dateTime := by
  refine date.bind fun day => (Alike.optional ?_).bind fun clock => .pure _
  exact (oneOf (by decide)).bind fun mark => time.bind fun clock => offset.optional.bind fun _ => .pure _

theorem moment : Alike size moment moment := (dateTime.orElse time).map _

end Times

section Values

theorem scalar : Alike size scalar scalar := by
  have other : Alike size (Toml.moment <|> Toml.basedInteger <|> Toml.number)
      (Toml.moment <|> Toml.basedInteger <|> Toml.number) :=
    moment.orElse (basedInteger.orElse number)
  refine peek_bind (fun char _ => ?_) other
  split
  · exact (string true (by decide) (by decide)).map _
  · exact (string false (by decide) (by decide)).map _
  · exact (expect (by decide)).bind fun _ => .pure _
  · exact (expect (by decide)).bind fun _ => .pure _
  · exact other

protected theorem orFail {α : Type} (found : Option α) : Alike size (orFail found) (orFail found) := by
  cases found with
  | none => exact .failure
  | some value => exact .pure value

variable {item : Reader Value}

theorem items (each : ∀ {size}, Alike size item item) :
    size < limit → size < longer → Alike size (items item limit) (items item longer) := by
  apply turns
  intro size limit longer enough more rest
  refine accept_bind (by decide) (fun _ _ => .pure []) ?_
  refine each.bind fun first => (gaps (by omega) (by omega)).bind fun _ => ?_
  refine accept_bind (by decide) (fun less fewer => ?_) ?_
  · refine (gaps (by omega) (by omega)).bind fun _ => ?_
    exact (rest less fewer).bind fun later => .pure (first :: later)
  · exact (expect (by decide)).bind fun _ => .pure [first]

theorem pairs (each : ∀ {size}, Alike size item item) :
    size < limit → size < longer → ∀ table, Alike size (pairs item limit table) (pairs item longer table) := by
  apply turnsFrom
  intro size limit longer _ _ rest table
  refine blanks.bind fun _ => dottedKey.bind fun whole => blanks.bind fun _ => ?_
  refine (expect (by decide)).bind fun _ => blanks.bind fun _ => each.bind fun content => ?_
  refine (Alike.orFail _).bind fun grown => blanks.bind fun _ => ?_
  refine accept_bind (by decide) (fun less fewer => rest less fewer grown) ?_
  exact (expect (by decide)).bind fun _ => .pure grown

theorem valueOver (each : ∀ {size}, Alike size item item) : Alike size (valueOver item) (valueOver item) := by
  refine get_bind fun text _ _ => ?_
  have long := length_le_withReturns text
  refine peek_bind (fun char _ => ?_) scalar
  split
  · refine (expect (by decide)).bind fun _ => (gaps (by omega) (by omega)).bind fun _ => ?_
    exact (items each (by omega) (by omega)).map _
  · refine (expect (by decide)).bind fun _ => blanks.bind fun _ => ?_
    refine accept_bind (by decide) (fun _ _ => .pure _) ?_
    exact (pairs each (by omega) (by omega) []).map _
  · exact scalar

theorem value (depth : Nat) : Alike size (value depth) (value depth) := by
  induction depth generalizing size with
  | zero => exact scalar
  | succ depth step => exact valueOver step

end Values

section Documents

theorem headerPath : Alike size headerPath headerPath :=
  blanks.bind fun _ => dottedKey.bind fun path => blanks.bind fun _ => .pure path

theorem line (document : Document) : Alike size (line document) (line document) := by
  refine blanks.bind fun _ => peek_bind (fun char _ => ?_) (.pure document)
  split
  · refine (expect (by decide)).bind fun _ => ?_
    refine accept_bind (by decide) (fun _ _ => ?_) ?_
    · refine headerPath.bind fun whole => (expect (by decide)).bind fun _ => ?_
      exact (Alike.orFail _).bind fun _ => .pure _
    · refine headerPath.bind fun whole => (expect (by decide)).bind fun _ => ?_
      exact (Alike.orFail _).bind fun _ => .pure _
  · refine .ite (fun _ => .pure document) fun _ => dottedKey.bind fun whole => blanks.bind fun _ => ?_
    refine (expect (by decide)).bind fun _ => blanks.bind fun _ => ?_
    exact (value greatestDepth).bind fun content => (Alike.orFail _).bind fun _ => .pure _
  · exact .pure document

/-- A line that does not end the text has a line feed at its end, so that every turn but the last has something to
read. -/
theorem lines :
    size < limit → size < longer → ∀ document, Alike size (lines limit document) (lines longer document) := by
  apply turnsFrom
  intro size limit longer _ _ rest document
  refine (line document).bind fun grown => ?_
  simp only [lineEnd, bind_assoc]
  refine blanks.bind fun _ => comment.bind fun _ => atEnd_bind ?_ fun _ => ?_
  · simp only [reduceIte, pure_bind]
    exact atEnd_bind (.pure grown) (fun filled => absurd filled (Nat.lt_irrefl 0))
  · simp only [reduceIte, Bool.false_eq_true, bind_assoc]
    refine newline_bind (fun less fewer => ?_) .failure
    simp only [reduceIte, pure_bind]
    exact atEnd_bind (.pure grown) (fun _ => rest less fewer grown)

end Documents

end Alike

theorem Agrees.map_eq {α β : Type} {text : Text} {plain returned : Option (α × Text)} (f : α → β)
    (agrees : Agrees text plain returned) :
    returned.map (fun read => f read.1) = plain.map fun read => f read.1 := by
  cases agrees with
  | failed => rfl
  | took value left => rfl

theorem read?_of_unmarked {text : Text} (unmarked : text.head? ≠ some '\ufeff') :
    read? text = ((lines (text.length + 1) ⟨[], []⟩).run text).map fun read => read.1.root := by
  rw [read?, if_neg unmarked]

/-- A document says the same with carriage returns before its line feeds. -/
theorem read?_withReturns {text : Text} (free : '\r' ∉ text) : read? (withReturns text) = read? text := by
  have reread {content : Text} (free : '\r' ∉ content) :
      ((lines ((withReturns content).length + 1) ⟨[], []⟩).run (withReturns content)).map (fun read => read.1.root) =
        ((lines (content.length + 1) ⟨[], []⟩).run content).map fun read => read.1.root := by
    have long := length_le_withReturns content
    have alike : Alike content.length (lines (content.length + 1) ⟨[], []⟩)
        (lines ((withReturns content).length + 1) ⟨[], []⟩) :=
      Alike.lines (by omega) (by omega) _
    exact (alike content free le_rfl).map_eq Document.root
  by_cases marked : text.head? = some '\ufeff'
  · obtain ⟨rest, rfl⟩ := List.head?_eq_some_iff.mp marked
    exact reread fun inside => free (List.mem_cons_of_mem _ inside)
  · have unmarked : (withReturns text).head? ≠ some '\ufeff' := by
      rw [head?_withReturns]
      intro same
      obtain ⟨char, first, changed⟩ := Option.map_eq_some_iff.mp same
      by_cases feed : char = '\n'
      · rw [if_pos feed] at changed
        cases changed
      · rw [if_neg feed] at changed
        exact marked (changed ▸ first)
    rw [read?_of_unmarked marked, read?_of_unmarked unmarked, reread free]

end LineTemplates.Toml
