import LineTemplates.Proofs.Text.Lines

/-! Texts with a carriage return before every line feed. A piece of a text that holds neither character stands in both
texts at the same place, and both have the same lines. -/

namespace LineTemplates.Text

def withReturns (text : Text) : Text := text.flatMap fun char => if char = '\n' then ['\r', '\n'] else [char]

variable {char : Char} {piece rest text : Text}

@[simp] theorem withReturns_nil : withReturns [] = [] := rfl

@[simp] theorem withReturns_append (front back : Text) :
    withReturns (front ++ back) = withReturns front ++ withReturns back := List.flatMap_append

@[simp] theorem withReturns_feed (rest : Text) : withReturns ('\n' :: rest) = '\r' :: '\n' :: withReturns rest := rfl

theorem withReturns_cons (notFeed : char ≠ '\n') (rest : Text) :
    withReturns (char :: rest) = char :: withReturns rest := by
  simp [withReturns, notFeed]

theorem withReturns_piece (absent : '\n' ∉ piece) : withReturns piece = piece := by
  induction piece with
  | nil => rfl
  | cons char rest step =>
    rw [List.mem_cons, not_or] at absent
    rw [withReturns_cons (Ne.symm absent.1), step absent.2]

theorem withReturns_piece_append (absent : '\n' ∉ piece) (rest : Text) :
    withReturns (piece ++ rest) = piece ++ withReturns rest := by
  rw [withReturns_append, withReturns_piece absent]

@[simp] theorem withReturns_eq_nil_iff : withReturns text = [] ↔ text = [] := by
  cases text with
  | nil => simp
  | cons char rest => by_cases feed : char = '\n' <;> simp [withReturns, feed]

theorem length_le_withReturns (text : Text) : text.length ≤ (withReturns text).length := by
  induction text with
  | nil => simp
  | cons char rest step =>
    by_cases feed : char = '\n'
    · subst feed
      simp only [withReturns_feed, List.length_cons]
      omega
    · simpa [withReturns_cons feed] using step

theorem head?_withReturns (text : Text) :
    (withReturns text).head? = text.head?.map fun char => if char = '\n' then '\r' else char := by
  cases text with
  | nil => rfl
  | cons char rest => by_cases feed : char = '\n' <;> simp [withReturns, feed]

theorem prefix_withReturns_iff (noFeed : '\n' ∉ piece) (noReturn : '\r' ∉ piece) :
    piece <+: withReturns text ↔ piece <+: text := by
  constructor
  · intro front
    induction piece generalizing text with
    | nil => exact List.nil_prefix
    | cons first more step =>
      rw [List.mem_cons, not_or] at noFeed noReturn
      cases text with
      | nil => simp at front
      | cons char rest =>
        by_cases feed : char = '\n'
        · subst feed
          rw [withReturns_feed, List.cons_prefix_cons] at front
          exact absurd front.1.symm noReturn.1
        · rw [withReturns_cons feed, List.cons_prefix_cons] at front
          exact List.cons_prefix_cons.mpr ⟨front.1, step noFeed.2 noReturn.2 front.2⟩
  · rintro ⟨rest, rfl⟩
    rw [withReturns_piece_append noFeed]
    exact List.prefix_append _ _

theorem takeWhile_withReturns {test : Char → Bool} (noFeed : test '\n' = false) (noReturn : test '\r' = false)
    (text : Text) : (withReturns text).takeWhile test = text.takeWhile test := by
  induction text with
  | nil => rfl
  | cons char rest step =>
    by_cases feed : char = '\n'
    · subst feed
      rw [withReturns_feed, List.takeWhile_cons_of_neg (by simp [noReturn]),
        List.takeWhile_cons_of_neg (by simp [noFeed])]
    · rw [withReturns_cons feed, List.takeWhile_cons, List.takeWhile_cons, step]

theorem dropWhile_withReturns {test : Char → Bool} (noFeed : test '\n' = false) (noReturn : test '\r' = false)
    (text : Text) : (withReturns text).dropWhile test = withReturns (text.dropWhile test) := by
  induction text with
  | nil => rfl
  | cons char rest step =>
    by_cases feed : char = '\n'
    · subst feed
      rw [withReturns_feed, List.dropWhile_cons_of_neg (by simp [noReturn]),
        List.dropWhile_cons_of_neg (by simp [noFeed]), withReturns_feed]
    · rw [withReturns_cons feed, List.dropWhile_cons, List.dropWhile_cons, step]
      split
      · rfl
      · rw [withReturns_cons feed]

theorem getLast?_withReturns (text : Text) : (withReturns text).getLast? = text.getLast? := by
  cases text using List.reverseRecOn with
  | nil => rfl
  | append_singleton front last => by_cases feed : last = '\n' <;> simp [withReturns, feed]

theorem withoutHead?_withReturns (noFeed : '\n' ∉ piece) (noReturn : '\r' ∉ piece) (text : Text) :
    withoutHead? piece (withReturns text) = (withoutHead? piece text).map withReturns := by
  by_cases front : piece <+: text
  · obtain ⟨rest, rfl⟩ := front
    rw [withReturns_piece_append noFeed]
    simp [withoutHead?]
  · simp [withoutHead?, prefix_withReturns_iff noFeed noReturn, front]

theorem withoutHead?_append (piece rest : Text) : withoutHead? piece (piece ++ rest) = some rest := by
  simp [withoutHead?]

theorem eq_append_of_withoutHead? (found : withoutHead? piece text = some rest) : text = piece ++ rest := by
  unfold withoutHead? at found
  split at found
  · rename_i begins
    obtain ⟨behind, rfl⟩ := List.isPrefixOf_iff_prefix.mp begins
    rw [List.drop_left, Option.some.injEq] at found
    rw [found]
  · cases found

theorem suffix_of_withoutHead? (found : withoutHead? piece text = some rest) : rest <:+ text :=
  ⟨piece, (eq_append_of_withoutHead? found).symm⟩

theorem cutAt?_mark (char : Char) (mark after : Text) :
    cutAt? (char :: mark) (char :: mark ++ after) = some ([], after) := by
  simp [cutAt?]

theorem cutAt?_cons {mark : Text} (elsewhere : ¬ mark <+: char :: rest) :
    cutAt? mark (char :: rest) = (cutAt? mark rest).map fun (before, after) => (char :: before, after) := by
  rw [cutAt?, if_neg (by simpa using elsewhere)]

theorem eq_append_of_cutAt? {mark before after : Text} (found : cutAt? mark text = some (before, after)) :
    text = before ++ mark ++ after := by
  induction text generalizing before with
  | nil =>
    rw [cutAt?] at found
    split at found <;> simp_all
  | cons char rest step =>
    by_cases front : mark <+: char :: rest
    · obtain ⟨more, whole⟩ := front
      simp only [cutAt?, ← whole, List.isPrefixOf_iff_prefix, List.prefix_append, if_true, List.drop_left,
        Option.some.injEq, Prod.mk.injEq] at found
      obtain ⟨rfl, rfl⟩ := found
      exact whole.symm
    · rw [cutAt?_cons front, Option.map_eq_some_iff] at found
      obtain ⟨⟨inner, _⟩, inside, same⟩ := found
      cases same
      rw [step inside, List.cons_append, List.cons_append]

theorem cutAt?_eq_none_iff {mark : Text} : cutAt? mark text = none ↔ ¬ mark <:+: text := by
  induction text with
  | nil =>
    rw [cutAt?, List.infix_nil]
    split <;> simp_all
  | cons char rest step =>
    rw [List.infix_cons_iff, not_or]
    by_cases front : mark <+: char :: rest
    · simp [cutAt?, front]
    · rw [cutAt?_cons front, Option.map_eq_none_iff, step]
      exact (and_iff_right front).symm

theorem prefix_of_prefix_feed {after : Text} (noFeed : '\n' ∉ piece) (within : piece <+: rest ++ '\n' :: after) :
    piece <+: rest := by
  induction piece generalizing rest with
  | nil => exact List.nil_prefix
  | cons char piece step =>
    rw [List.mem_cons, not_or] at noFeed
    cases rest with
    | nil => exact absurd (List.cons_prefix_cons.mp within).1.symm noFeed.1
    | cons first rest =>
      obtain ⟨rfl, further⟩ := List.cons_prefix_cons.mp within
      exact List.cons_prefix_cons.mpr ⟨rfl, step noFeed.2 further⟩

/-- A mark that begins a line is found where it has been put behind a text without it. -/
theorem cutAt?_append (noFeed : '\n' ∉ piece) {front : Text} (elsewhere : ¬ '\n' :: piece <:+: front) (after : Text) :
    cutAt? ('\n' :: piece) (front ++ '\n' :: piece ++ after) = some (front, after) := by
  induction front with
  | nil => exact cutAt?_mark '\n' piece after
  | cons char rest step =>
    rw [List.infix_cons_iff, not_or] at elsewhere
    have later : ¬ '\n' :: piece <+: char :: (rest ++ '\n' :: piece ++ after) := by
      intro begins
      obtain ⟨rfl, within⟩ := List.cons_prefix_cons.mp begins
      rw [List.append_assoc, List.cons_append] at within
      exact elsewhere.1 (List.cons_prefix_cons.mpr ⟨rfl, prefix_of_prefix_feed noFeed within⟩)
    rw [List.cons_append, List.cons_append, cutAt?_cons later, step elsewhere.2]
    rfl

/-- A mark that begins a line is found at the same place; before it stands one carriage return more. -/
theorem cutAt?_withReturns (noFeed : '\n' ∉ piece) (noReturn : '\r' ∉ piece) (text : Text) :
    cutAt? ('\n' :: piece) (withReturns text) =
      (cutAt? ('\n' :: piece) text).map fun (before, after) => (withReturns before ++ ['\r'], withReturns after) := by
  induction text with
  | nil => rfl
  | cons char rest step =>
    by_cases feed : char = '\n'
    · subst feed
      rw [withReturns_feed, cutAt?_cons (by simp)]
      by_cases front : piece <+: rest
      · obtain ⟨after, rfl⟩ := front
        rw [withReturns_piece_append noFeed, ← List.cons_append, ← List.cons_append, cutAt?_mark, cutAt?_mark]
        rfl
      · have elsewhere : ¬ piece <+: withReturns rest := by rwa [prefix_withReturns_iff noFeed noReturn]
        rw [cutAt?_cons (by simpa using elsewhere), cutAt?_cons (by simpa using front), step]
        simp only [Option.map_map]
        rfl
    · have elsewhere (more : Text) : ¬ '\n' :: piece <+: char :: more := by simp [Ne.symm feed]
      rw [withReturns_cons feed, cutAt?_cons (elsewhere _), cutAt?_cons (elsewhere _), step]
      simp only [Option.map_map]
      congr 1
      funext (before, after)
      simp [withReturns_cons feed]

/-- Both texts have the same lines. -/
theorem lines_withReturns (free : '\r' ∉ text) : lines (withReturns text) = lines text := by
  induction text using line_induction with
  | last piece absent => rw [withReturns_piece absent]
  | ended line rest absent step =>
    rw [List.mem_append, List.mem_cons, not_or, not_or] at free
    have kept : line.getLast? ≠ some '\r' := fun ends => free.1 (List.mem_of_getLast? ends)
    have ended : withReturns (line ++ '\n' :: rest) = (line ++ ['\r']) ++ '\n' :: withReturns rest := by
      rw [withReturns_piece_append absent, withReturns_feed, List.append_assoc, List.singleton_append]
    rw [ended, lines_append (by simp [absent]), lines_append absent, withoutReturn_append_return,
      withoutReturn_eq_self kept, step free.2.2]

end LineTemplates.Text
