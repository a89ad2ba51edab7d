import LineTemplates.Proofs.Text.Lines
import LineTemplates.Segment
import Mathlib.Algebra.Ring.Parity

/-! Quotes of a line. They are taken in pairs from left to right, so that one of them stays open just if their number
is odd, and the open one is then the last. -/

namespace LineTemplates

namespace Segment

variable {offset : Nat} {line front rest : Text} {fault : UnclosedQuote}

/-- The last quote of a line, with an even number of quotes before it, is the one that stays open. -/
def LeavesOpen (offset : Nat) (line : Text) (fault : UnclosedQuote) : Prop :=
  ∃ before after, line = before ++ quoteMark :: after ∧ quoteMark ∉ after ∧ Even (before.count quoteMark) ∧
    fault = ⟨⟨offset + Text.utf8Size before, offset + Text.utf8Size line⟩⟩

/-- What has an even number of quotes leaves none of them open. -/
theorem leavesOpen_append_iff (paired : Even (front.count quoteMark)) :
    LeavesOpen offset (front ++ rest) fault ↔ LeavesOpen (offset + Text.utf8Size front) rest fault := by
  constructor
  · rintro ⟨before, after, whole, last, even, rfl⟩
    rcases List.append_eq_append_iff.mp whole with ⟨between, rfl, behind⟩ | ⟨between, inside, split⟩
    · refine ⟨between, after, behind, last, ?_, ?_⟩
      · rw [List.count_append, Nat.even_add] at even
        exact even.mp paired
      · simp [Nat.add_assoc]
    · cases between with
      | nil =>
        rw [List.append_nil] at inside
        subst inside
        exact ⟨[], after, split.symm, last, by simp, by simp [Nat.add_assoc]⟩
      | cons first more =>
        -- Then the last quote stands in `front`, behind an even number of others.
        obtain ⟨rfl, rfl⟩ := List.cons.inj split
        have none : more.count quoteMark = 0 :=
          List.count_eq_zero.mpr fun here => last (List.mem_append_left _ here)
        rw [inside, List.count_append, List.count_cons_self, none, Nat.even_add_one] at paired
        exact absurd even paired
  · rintro ⟨before, after, rfl, last, even, rfl⟩
    refine ⟨front ++ before, after, by simp, last, ?_, by simp [Nat.add_assoc]⟩
    rw [List.count_append]
    exact paired.add even

/-- A line is not cut into segments just if a quote stays open, and that one is reported. -/
theorem tokenizeFrom_eq_error_iff (offset : Nat) (line : Text) (fault : UnclosedQuote) :
    tokenizeFrom offset line = .error fault ↔ LeavesOpen offset line fault := by
  fun_induction tokenizeFrom offset line with
  | case1 offset => simp [LeavesOpen]
  | case2 offset char rest value more size step =>
    have absent : quoteMark ∉ char :: more := by
      intro here
      have marked : isValueChar quoteMark = true := by
        rcases List.mem_cons.mp here with rfl | here
        · exact value
        · exact List.all_eq_true.mp List.all_takeWhile _ here
      exact absurd marked (by decide)
    have paired : Even ((char :: more).count quoteMark) := by
      rw [List.count_eq_zero.mpr absent]
      exact Even.zero
    have line_eq : char :: rest = (char :: more) ++ rest.drop more.length :=
      congrArg (char :: ·) (Text.takeWhile_take_append_drop isValueChar (longestRun - 1) rest).symm
    rw [map_eq_error_iff, step]
    conv_rhs => rw [line_eq, leavesOpen_append_iff paired]
  | case3 offset rest absent plain =>
    have last : quoteMark ∉ rest := Text.cut?_eq_none_iff.mp absent
    constructor
    · intro same
      exact ⟨[], rest, rfl, last, by simp, (Except.error.inj same).symm⟩
    · rintro ⟨before, after, whole, _, even, rfl⟩
      cases before with
      | nil => rfl
      | cons first more =>
        obtain ⟨_, rfl⟩ := List.cons.inj whole
        simp at last
  | case4 offset rest body after found size plain step =>
    obtain ⟨rfl, absent⟩ := Text.eq_append_of_cut? found
    have paired : Even ((quoted body).render.count quoteMark) := by
      have two : (quoted body).render.count quoteMark = 2 := by
        simp [List.count_append, List.count_eq_zero.mpr absent]
      rw [two]
      exact even_two
    have line_eq : quoteMark :: (body ++ quoteMark :: after) = (quoted body).render ++ after := by simp
    rw [map_eq_error_iff, step, line_eq, leavesOpen_append_iff paired]
  | case5 offset char rest plain other step =>
    have paired : Even ([char].count quoteMark) := by simp [other]
    have line_eq : char :: rest = [char] ++ rest := rfl
    rw [map_eq_error_iff, step, line_eq, leavesOpen_append_iff paired]
    simp

theorem exists_leavesOpen_iff (offset : Nat) (line : Text) :
    (∃ fault, LeavesOpen offset line fault) ↔ Odd (line.count quoteMark) := by
  constructor
  · rintro ⟨_, before, after, rfl, last, even, _⟩
    rw [List.count_append, List.count_cons_self, List.count_eq_zero.mpr last, Nat.zero_add]
    exact even.add_one
  · intro odd
    have here : quoteMark ∈ line.reverse := by
      rw [List.mem_reverse]
      by_contra absent
      rw [List.count_eq_zero.mpr absent] at odd
      exact Nat.not_odd_zero odd
    obtain ⟨after, before, whole, last⟩ := List.eq_append_cons_of_mem here
    have line_eq : line = before.reverse ++ quoteMark :: after.reverse := by
      rw [← line.reverse_reverse, whole]
      simp
    have absent : quoteMark ∉ after.reverse := by rwa [List.mem_reverse]
    rw [line_eq, List.count_append, List.count_cons_self, List.count_eq_zero.mpr absent, Nat.odd_add_one,
      Nat.not_odd_iff_even] at odd
    exact ⟨_, before.reverse, after.reverse, line_eq, absent, odd, rfl⟩

theorem exists_tokenize_eq_ok_iff (line : Text) :
    (∃ segments, tokenize line = .ok segments) ↔ Even (line.count quoteMark) := by
  rw [← Nat.not_odd_iff_even, ← exists_leavesOpen_iff 0]
  simp only [← tokenizeFrom_eq_error_iff]
  rw [tokenize]
  cases tokenizeFrom 0 line <;> simp

end Segment

end LineTemplates
