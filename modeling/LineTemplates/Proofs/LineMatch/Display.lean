import LineTemplates.LineMatch
import LineTemplates.Proofs.Text.Lines
import LineTemplates.Proofs.Text.Quoted
import Mathlib.Data.List.Induction

/-! Displayed matches. The name of a template stands as it is in front of the arguments, whatever is in it; still the
arguments are found from the end of the line on, and what is left in front of them is the name. -/

namespace LineTemplates

namespace Text

theorem commaSeparated_concat (texts : List Text) (last : Text) :
    commaSeparated (texts ++ [last]) = texts.flatMap (· ++ [',', ' ']) ++ last := by
  unfold commaSeparated join
  induction texts with
  | nil => exact List.intercalate_singleton
  | cons first more step =>
    rw [List.cons_append, List.intercalate_cons_of_ne_nil (by simp), step, List.flatMap_cons, List.append_assoc _ _ last]

end Text

namespace LineMatch

open Text

def opened (name : Text) (arguments : List Text) : Text :=
  name ++ '(' :: arguments.flatMap fun argument => quoted argument ++ [',', ' ']

section Display

variable {name otherName : Text} {arguments otherArguments : List Text}

theorem opened_nil (name : Text) : opened name [] = name ++ ['('] := rfl

theorem opened_concat (name : Text) (arguments : List Text) (last : Text) :
    opened name (arguments ++ [last]) = opened name arguments ++ quoted last ++ [',', ' '] := by
  simp [opened]

theorem getLast?_opened (name : Text) (arguments : List Text) :
    (opened name arguments).getLast? = some (if arguments = [] then '(' else ' ') := by
  induction arguments using List.reverseRecOn with
  | nil => simp [opened_nil]
  | append_singleton arguments last => simp [opened_concat]

theorem backslash_not_mem_getLast?_opened (name : Text) (arguments : List Text) :
    '\\' ∉ (opened name arguments).getLast? := by
  rw [getLast?_opened, Option.mem_some_iff]
  split <;> decide

-- The induction takes the last argument away from both sides; nothing is asked of the names.
theorem opened_inj (same : opened name arguments = opened otherName otherArguments) :
    name = otherName ∧ arguments = otherArguments := by
  induction arguments using List.reverseRecOn generalizing otherArguments with
  | nil =>
    have ends := congrArg List.getLast? same
    cases otherArguments using List.reverseRecOn with
    | nil => exact ⟨List.append_cancel_right same, rfl⟩
    | append_singleton more last => simp [getLast?_opened] at ends
  | append_singleton arguments last step =>
    have ends := congrArg List.getLast? same
    cases otherArguments using List.reverseRecOn with
    | nil => simp [getLast?_opened] at ends
    | append_singleton more otherLast =>
      rw [opened_concat, opened_concat] at same
      obtain ⟨fronts, rfl⟩ := append_quoted_inj (backslash_not_mem_getLast?_opened name arguments)
        (backslash_not_mem_getLast?_opened otherName more) (List.append_cancel_right same)
      obtain ⟨rfl, rfl⟩ := step fronts
      exact ⟨rfl, rfl⟩

/-- In front of its closing parenthesis a displayed match ends with the parenthesis that was opened or with a quote, and
is short of no more than a comma and a blank. -/
theorem display_eq_append (name : Text) (arguments : List Text) : ∃ body, display ⟨name, arguments⟩ = body ++ [')'] ∧
    body.getLast? = some (if arguments = [] then '(' else '"') ∧
      opened name arguments = body ++ if arguments = [] then [] else [',', ' '] := by
  cases arguments using List.reverseRecOn with
  | nil => exact ⟨name ++ ['('], by simp [display, commaSeparated, join], by simp, by simp [opened_nil]⟩
  | append_singleton arguments last =>
    refine ⟨opened name arguments ++ quoted last, ?_, ?_, ?_⟩
    · rw [display, List.map_append, List.map_singleton, commaSeparated_concat, List.flatMap_map]
      simp [opened]
    · rw [quoted, ← List.append_assoc, List.getLast?_concat]
      simp
    · simp [opened_concat]

theorem feed_not_mem_display {found : LineMatch} (plain : '\n' ∉ found.template) : '\n' ∉ found.display := by
  have inside : '\n' ∉ commaSeparated (found.arguments.map quoted) :=
    not_mem_join (by decide) (List.forall_mem_map.mpr fun argument _ => feed_not_mem_quoted argument)
  simp [display, plain, inside]

/-- No two matches are displayed alike, whatever stands in the names and in the arguments. -/
theorem display_eq_iff (found other : LineMatch) :
    found.display = other.display ↔ found.template = other.template ∧ found.arguments = other.arguments := by
  obtain ⟨name, arguments⟩ := found
  obtain ⟨otherName, others⟩ := other
  constructor
  · intro same
    obtain ⟨body, shown, ends, place⟩ := display_eq_append name arguments
    obtain ⟨otherBody, otherShown, otherEnds, otherPlace⟩ := display_eq_append otherName others
    rw [shown, otherShown] at same
    obtain rfl := List.append_cancel_right same
    have alike : arguments = [] ↔ others = [] := by
      rw [ends, Option.some.injEq] at otherEnds
      by_cases none : arguments = [] <;> by_cases noOther : others = [] <;> simp_all
    have places : opened name arguments = opened otherName others := by
      rw [place, otherPlace]
      simp only [alike]
    exact opened_inj places
  · rintro ⟨rfl, rfl⟩
    rfl

end Display

end LineMatch

end LineTemplates
