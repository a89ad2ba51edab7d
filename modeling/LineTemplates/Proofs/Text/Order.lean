import LineTemplates.Text.Order
import Mathlib.Data.Char
import Mathlib.Data.List.Lex
import Mathlib.Order.Lattice

/-! Texts and paths in their order. The order of texts goes by the code points of their characters, the order of paths
by the texts in them; a row of names sorted by it has no name twice once its repetitions are left out. -/

namespace LineTemplates.Text

/-- Lists in order are ordered lexicographically, if their members are told apart by the order of members. -/
theorem inOrder_iff {α : Type} [LinearOrder α] [DecidableEq α] {lower : α → α → Bool}
    (agrees : ∀ first second, first ≠ second → (lower first second = true ↔ first < second)) (firsts seconds : List α) :
    inOrder lower firsts seconds = true ↔ ¬ seconds < firsts := by
  induction firsts generalizing seconds with
  | nil => simp [inOrder]
  | cons first more step =>
    cases seconds with
    | nil => simp [inOrder]
    | cons second others =>
      rw [inOrder, List.cons_lt_cons_iff]
      by_cases same : first = second
      · subst same
        simp [step]
      · rw [if_neg same, agrees first second same, ← Ne.le_iff_lt same, ← not_lt]
        simp [Ne.symm same]

theorem notAfter_iff (first second : Text) : notAfter first second = true ↔ first ≤ second := by
  have chars (first second : Char) : lowerChar first second = true ↔ first < second := by
    simp [lowerChar, Char.lt_def, UInt32.lt_iff_toNat_lt]
  exact (inOrder_iff (fun first second _ => chars first second) first second).trans not_lt

theorem pathNotAfter_iff (first second : List Text) : pathNotAfter first second = true ↔ first ≤ second := by
  have texts (first second : Text) (different : first ≠ second) : notAfter first second = true ↔ first < second := by
    rw [notAfter_iff]
    exact different.le_iff_lt
  exact (inOrder_iff texts first second).trans not_lt

section Sorted

variable {α : Type} [LinearOrder α]

/-- What is sorted by a test of keys has its keys in order. -/
theorem pairwise_mergeSort_le {β : Type} (key : β → α) {test : β → β → Bool}
    (tests : ∀ first second, test first second = true ↔ key first ≤ key second) (items : List β) :
    (items.mergeSort test).Pairwise (key · ≤ key ·) := by
  have trans (first second third : β) (lower : test first second = true) (higher : test second third = true) :
      test first third = true := by
    rw [tests] at lower higher ⊢
    exact lower.trans higher
  have total (first second : β) : (test first second || test second first) = true := by
    rw [Bool.or_eq_true, tests, tests]
    exact le_total _ _
  exact (List.pairwise_mergeSort trans total items).imp fun here => (tests _ _).mp here

theorem pairwise_lt_eraseDups [BEq α] [LawfulBEq α] (items : List α) (sorted : items.Pairwise (· ≤ ·)) :
    items.eraseDups.Pairwise (· < ·) := by
  match items, sorted with
  | [], _ => simp
  | item :: more, sorted =>
    rw [List.pairwise_cons] at sorted
    have shorter : (more.filter (!· == item)).length < more.length + 1 := by
      have := List.length_filter_le (!· == item) more
      omega
    rw [List.eraseDups_cons, List.pairwise_cons]
    constructor
    · intro other later
      rw [List.mem_eraseDups, List.mem_filter] at later
      have different : other ≠ item := by simpa using later.2
      exact lt_of_le_of_ne (sorted.1 other later.1) different.symm
    · exact pairwise_lt_eraseDups _ (sorted.2.filter _)
termination_by items.length

theorem lt_of_concat_lt {front : List α} {first second : α} (lower : front ++ [first] < front ++ [second]) :
    first < second := by
  rcases lt_trichotomy first second with before | same | after
  · exact before
  · rw [same] at lower
    exact absurd lower (lt_irrefl _)
  · have higher : [second] < [first] := List.cons_lt_cons_iff.mpr (.inl after)
    exact absurd lower (lt_asymm (List.append_left_lt higher))

end Sorted

end LineTemplates.Text
