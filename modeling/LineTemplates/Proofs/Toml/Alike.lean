import LineTemplates.Proofs.Text.Returns
import LineTemplates.Toml.Document

/-! Readers that make the same of a text and of the text with carriage returns. Each of them fails on both, or takes the
same value from both and leaves the same rest, but for the returns in it. -/

namespace LineTemplates.Toml

open Text Reader

section Runs

@[simp] theorem failure_eq_none {α : Type} : (failure : Option α) = none := rfl

@[simp] theorem run_accept (mark text : Text) :
    (accept mark).run text = some (if mark <+: text then (true, text.drop mark.length) else (false, text)) := by
  by_cases front : mark <+: text <;> simp [accept, front]

@[simp] theorem run_oneOf_cons (test : Char → Bool) (char : Char) (rest : Text) :
    (oneOf test).run (char :: rest) = if test char then some (char, rest) else none := by
  by_cases passes : test char <;> simp [oneOf, passes]

@[simp] theorem run_many (test : Char → Bool) (text : Text) :
    (many test).run text = some (text.takeWhile test, text.drop (text.takeWhile test).length) := by
  simp [many]

theorem run_exactly_eq_some_iff {count : Nat} {test : Char → Bool} {text piece rest : Text} :
    (exactly count test).run text = some (piece, rest) ↔
      text = piece ++ rest ∧ piece.length = count ∧ piece.all test = true := by
  have unfolded : (exactly count test).run text =
      if (text.take count).length = count ∧ (text.take count).all test then some (text.take count, text.drop count)
      else none := by
    change (if _ then _ else _ : Reader Text).run text = _
    split <;> rfl
  rw [unfolded]
  constructor
  · intro read
    split at read
    · cases read
      exact ⟨(List.take_append_drop count text).symm, ‹_›⟩
    · cases read
  · rintro ⟨rfl, rfl, passes⟩
    simpa using passes

@[simp] theorem run_newline (text : Text) :
    newline.run text =
      some (if ['\n'] <+: text then (true, text.drop 1)
        else if ['\r', '\n'] <+: text then (true, text.drop 2) else (false, text)) := by
  by_cases feed : ['\n'] <+: text <;> simp [newline, feed]

end Runs

variable {α β : Type}

def Inline (mark : Text) : Prop := mark ≠ [] ∧ '\n' ∉ mark ∧ '\r' ∉ mark

instance (mark : Text) : Decidable (Inline mark) := inferInstanceAs (Decidable (_ ∧ _ ∧ _))

def Within (test : Char → Bool) : Prop := test '\n' = false ∧ test '\r' = false

instance (test : Char → Bool) : Decidable (Within test) := inferInstanceAs (Decidable (_ ∧ _))

inductive Agrees (text : Text) : Option (α × Text) → Option (α × Text) → Prop
  | failed : Agrees text none none
  | took (value : α) {rest : Text} (left : rest <:+ text) :
    Agrees text (some (value, rest)) (some (value, withReturns rest))

/-- Two readers agree on every text of no more than `size` characters. -/
def Alike (size : Nat) (plain returned : Reader α) : Prop :=
  ∀ text, '\r' ∉ text → text.length ≤ size → Agrees text (plain.run text) (returned.run (withReturns text))

theorem Agrees.behind {text rest : Text} {plain returned : Option (α × Text)} (agrees : Agrees rest plain returned)
    (left : rest <:+ text) : Agrees text plain returned := by
  cases agrees with
  | failed => exact .failed
  | took value inner => exact .took value (inner.trans left)

namespace Alike

variable {size : Nat} {plain returned : Reader α} {next following : α → Reader β}

protected theorem pure (value : α) : Alike size (pure value) (pure value) := fun _ _ _ => .took value List.suffix_rfl

protected theorem failure : Alike size (failure : Reader α) failure := fun _ _ _ => .failed

protected theorem bind (first : Alike size plain returned) (later : ∀ value, Alike size (next value) (following value)) :
    Alike size (plain >>= next) (returned >>= following) := by
  intro text free short
  have agrees := first text free short
  rw [StateT.run_bind, StateT.run_bind]
  generalize plain.run text = read, returned.run (withReturns text) = reread at agrees
  cases agrees with
  | failed => exact .failed
  | took value left =>
    exact (later value _ (fun inside => free (left.subset inside)) (left.length_le.trans short)).behind left

protected theorem map (f : α → β) (alike : Alike size plain returned) : Alike size (f <$> plain) (f <$> returned) := by
  rw [map_eq_pure_bind, map_eq_pure_bind]
  exact alike.bind fun value => .pure (f value)

protected theorem orElse {other another : Reader α} (first : Alike size plain returned)
    (second : Alike size other another) :
    Alike size (plain <|> other) (returned <|> another) := by
  intro text free short
  have agrees := first text free short
  change Agrees text (plain.run text <|> other.run text) (returned.run _ <|> another.run _)
  generalize plain.run text = read, returned.run (withReturns text) = reread at agrees
  cases agrees with
  | failed => exact second text free short
  | took value left => exact .took value left

protected theorem optional (alike : Alike size plain returned) : Alike size (optional plain) (optional returned) :=
  (alike.map some).orElse (.pure none)

protected theorem ite {condition : Prop} [Decidable condition] {other another : Reader α}
    (holds : condition → Alike size plain returned) (fails : ¬ condition → Alike size other another) :
    Alike size (if condition then plain else other) (if condition then returned else another) := by
  split
  · exact holds ‹_›
  · exact fails ‹_›

theorem passing {condition : Prop} [Decidable condition] {next following : Unit → Reader β}
    (later : Alike size (next ()) (following ())) :
    Alike size (if condition then failure >>= next else next ())
      (if condition then failure >>= following else following ()) :=
  .ite (fun _ => .failure) (fun _ => later)

theorem get_bind {next following : Text → Reader β}
    (later : ∀ text, '\r' ∉ text → text.length ≤ size → Alike text.length (next text) (following (withReturns text))) :
    Alike size (get >>= next) (get >>= following) :=
  fun text free short => later text free short text free le_rfl

theorem peek_bind {next following : Option Char → Reader β}
    (later : ∀ char, char ≠ some '\n' → Alike size (next char) (following char))
    (feed : Alike size (next (some '\n')) (following (some '\r'))) :
    Alike size (peek? >>= next) (peek? >>= following) := by
  intro text free short
  change Agrees text ((next text.head?).run text) ((following (withReturns text).head?).run (withReturns text))
  rw [head?_withReturns]
  by_cases ends : text.head? = some '\n'
  · rw [ends]
    exact feed text free short
  · have same : text.head?.map (fun char => if char = '\n' then '\r' else char) = text.head? := by
      cases first : text.head? with
      | none => rfl
      | some char =>
        rw [first, Option.some.injEq] at ends
        simp [ends]
    rw [same]
    exact later _ ends text free short

section Words

variable {mark : Text}

theorem accept_bind {next following : Bool → Reader β} (inline : Inline mark)
    (found : ∀ less < size, Alike less (next true) (following true))
    (missed : Alike size (next false) (following false)) :
    Alike size (accept mark >>= next) (accept mark >>= following) := by
  intro text free short
  obtain ⟨filled, noFeed, noReturn⟩ := inline
  have same : mark <+: withReturns text ↔ mark <+: text := prefix_withReturns_iff noFeed noReturn
  by_cases front : mark <+: text
  · obtain ⟨rest, rfl⟩ := front
    have fewer : rest.length < size := by
      have some := List.length_pos_iff.mpr filled
      rw [List.length_append] at short
      omega
    have agrees := found _ fewer rest (fun inside => free (List.mem_append_right _ inside)) le_rfl
    simpa [withReturns_piece_append noFeed] using agrees.behind (List.suffix_append mark rest)
  · simpa [same, front] using missed text free short

theorem accept (inline : Inline mark) : Alike size (accept mark) (accept mark) := by
  rw [← bind_pure (Reader.accept mark)]
  exact accept_bind inline (fun _ _ => .pure true) (.pure false)

theorem expect (inline : Inline mark) : Alike size (expect mark) (expect mark) :=
  accept_bind inline (fun _ _ => .pure ()) .failure

variable {test : Char → Bool}

/-- What follows a single character has fewer characters to read. A line feed and a carriage return are either not of
the kind that is asked for, or nothing goes on from there. -/
theorem oneOf_bind {next following : Char → Reader β}
    (later : ∀ char, char ≠ '\n' → char ≠ '\r' → ∀ less < size, Alike less (next char) (following char))
    (feed : test '\n' = true → next '\n' = failure) (back : test '\r' = true → following '\r' = failure) :
    Alike size (oneOf test >>= next) (oneOf test >>= following) := by
  intro text free short
  cases text with
  | nil => exact .failed
  | cons char rest =>
    rw [List.mem_cons, not_or] at free
    by_cases isFeed : char = '\n'
    · subst isFeed
      have ends : (oneOf test >>= next).run ('\n' :: rest) = none := by
        by_cases passes : test '\n' = true
        · simp [passes, feed passes]
        · simp [passes]
      have endsToo : (oneOf test >>= following).run (withReturns ('\n' :: rest)) = none := by
        by_cases passes : test '\r' = true
        · simp [passes, back passes]
        · simp [passes]
      rw [ends, endsToo]
      exact .failed
    · have fewer : rest.length < size := by
        rw [List.length_cons] at short
        omega
      have agrees := later char isFeed (Ne.symm free.1) _ fewer rest free.2 le_rfl
      rw [withReturns_cons isFeed]
      by_cases passes : test char = true
      · simpa [passes] using agrees.behind (List.suffix_cons char rest)
      · simpa [passes] using Agrees.failed

theorem oneOf (within : Within test) : Alike size (oneOf test) (oneOf test) := by
  rw [← bind_pure (Reader.oneOf test)]
  exact oneOf_bind (fun char _ _ _ _ => .pure char) (by simp [within.1]) (by simp [within.2])

theorem many (within : Within test) : Alike size (many test) (many test) := by
  intro text free short
  obtain ⟨noFeed, noReturn⟩ := within
  have whole := takeWhile_append_drop test text
  have piece : '\n' ∉ text.takeWhile test := by
    intro inside
    have passes := List.mem_takeWhile_imp inside
    simp [noFeed] at passes
  have left : (withReturns text).drop (text.takeWhile test).length =
      withReturns (text.drop (text.takeWhile test).length) := by
    have split := congrArg withReturns whole
    rw [withReturns_piece_append piece] at split
    rw [← split, List.drop_left]
  simpa [takeWhile_withReturns noFeed noReturn, left] using Agrees.took _ (List.drop_suffix _ _)

theorem exactly (count : Nat) (within : Within test) : Alike size (exactly count test) (exactly count test) := by
  intro text free short
  obtain ⟨noFeed, noReturn⟩ := within
  have outside {piece : Text} (passes : piece.all test = true) : '\n' ∉ piece ∧ '\r' ∉ piece := by
    rw [List.all_eq_true] at passes
    constructor
    · intro inside
      exact absurd (passes _ inside) (by simp [noFeed])
    · intro inside
      exact absurd (passes _ inside) (by simp [noReturn])
  cases read : (Reader.exactly count test).run text with
  | some pair =>
    obtain ⟨piece, rest⟩ := pair
    obtain ⟨rfl, full, passes⟩ := run_exactly_eq_some_iff.mp read
    have reread := run_exactly_eq_some_iff.mpr
      ⟨withReturns_piece_append (outside passes).1 rest, full, passes⟩
    rw [reread]
    exact .took piece (List.suffix_append piece rest)
  | none =>
    cases reread : (Reader.exactly count test).run (withReturns text) with
    | none => exact .failed
    | some pair =>
      obtain ⟨piece, rest⟩ := pair
      obtain ⟨whole, full, passes⟩ := run_exactly_eq_some_iff.mp reread
      obtain ⟨noFeed, noReturn⟩ := outside passes
      obtain ⟨left, rfl⟩ := (prefix_withReturns_iff noFeed noReturn).mp ⟨rest, whole.symm⟩
      rw [run_exactly_eq_some_iff.mpr ⟨rfl, full, passes⟩] at read
      cases read

end Words

section Lines

theorem newline_bind {next following : Bool → Reader β}
    (found : ∀ less < size, Alike less (next true) (following true))
    (missed : Alike size (next false) (following false)) :
    Alike size (newline >>= next) (newline >>= following) := by
  intro text free short
  cases text with
  | nil => simpa using missed [] free short
  | cons char rest =>
    have absent := free
    rw [List.mem_cons, not_or] at absent
    by_cases feed : char = '\n'
    · subst feed
      have agrees := found rest.length short rest absent.2 le_rfl
      simpa using agrees.behind (List.suffix_cons '\n' rest)
    · simpa [withReturns_cons feed, Ne.symm feed, absent.1] using missed _ free short

theorem newline : Alike size newline newline := by
  rw [← bind_pure Toml.newline]
  exact newline_bind (fun _ _ => .pure true) (.pure false)

theorem atEnd_bind {next following : Bool → Reader β} (ended : Alike 0 (next true) (following true))
    (more : 0 < size → Alike size (next false) (following false)) :
    Alike size (atEnd >>= next) (atEnd >>= following) := by
  intro text free short
  change Agrees text ((next text.isEmpty).run text) ((following (withReturns text).isEmpty).run (withReturns text))
  have same : (withReturns text).isEmpty = text.isEmpty := by
    rw [Bool.eq_iff_iff, List.isEmpty_iff, List.isEmpty_iff, withReturns_eq_nil_iff]
  rw [same]
  cases text with
  | nil => exact ended [] free le_rfl
  | cons char rest => exact more (Nat.zero_lt_of_lt short) _ free short

end Lines

/-- A reader that counts its turns, each of them for one character at least, takes the same with any two numbers of them
that are greater than the text is long, whatever it hands on from turn to turn. -/
theorem turnsFrom {σ : Type} (reader : Nat → σ → Reader α)
    (turn : ∀ {size limit longer}, size ≤ limit → size ≤ longer →
      (∀ less < size, ∀ state, Alike less (reader limit state) (reader longer state)) →
        ∀ state, Alike size (reader (limit + 1) state) (reader (longer + 1) state))
    {limit longer : Nat} (enough : size < limit) (more : size < longer) (state : σ) :
    Alike size (reader limit state) (reader longer state) := by
  induction limit generalizing size longer state with
  | zero => contradiction
  | succ limit step =>
    obtain ⟨longer, rfl⟩ := Nat.exists_eq_add_one_of_ne_zero (Nat.ne_zero_of_lt more)
    exact turn (Nat.le_of_lt_succ enough) (Nat.le_of_lt_succ more) (fun less fewer => step (by omega) (by omega)) state

theorem turns {reader : Nat → Reader α}
    (turn : ∀ {size limit longer}, size ≤ limit → size ≤ longer →
      (∀ less < size, Alike less (reader limit) (reader longer)) →
        Alike size (reader (limit + 1)) (reader (longer + 1)))
    {limit longer : Nat} (enough : size < limit) (more : size < longer) : Alike size (reader limit) (reader longer) :=
  turnsFrom (fun limit (_ : Unit) => reader limit)
    (fun few fewer rest _ => turn few fewer fun less short => rest less short ()) enough more ()

end Alike

end LineTemplates.Toml
