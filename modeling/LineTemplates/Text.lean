/-! Texts and places in them. A text is a list of characters, and a place in a text is counted in bytes of
its UTF-8 form, so that a reported position means the same to every tool that reads the file. -/

namespace LineTemplates

abbrev Text := List Char

/-- The bytes from `start` up to, but not including, `stop`. -/
structure Span where
  start : Nat
  stop : Nat
deriving DecidableEq, Repr

namespace Text

def str (text : Text) : String := String.ofList text

def utf8Size : Text → Nat
  | [] => 0
  | char :: rest => char.utf8Size + utf8Size rest

@[simp]
theorem utf8Size_nil : utf8Size [] = 0 := rfl

@[simp]
theorem utf8Size_cons (char : Char) (rest : Text) :
    utf8Size (char :: rest) = char.utf8Size + utf8Size rest := rfl

@[simp]
theorem utf8Size_append (before after : Text) :
    utf8Size (before ++ after) = utf8Size before + utf8Size after := by
  induction before with
  | nil => simp
  | cons char rest step =>
    simp only [List.cons_append, utf8Size_cons, step]
    omega

def cut? (mark : Char) : Text → Option (Text × Text)
  | [] => none
  | char :: rest =>
    if char = mark then some ([], rest)
    else (cut? mark rest).map fun (before, after) => (char :: before, after)

theorem eq_append_of_cut? {mark : Char} {text before after : Text}
    (found : cut? mark text = some (before, after)) :
    text = before ++ mark :: after ∧ mark ∉ before := by
  induction text generalizing before with
  | nil => simp [cut?] at found
  | cons char rest step =>
    by_cases same : char = mark
    · simp only [cut?, same, if_true, Option.some.injEq, Prod.mk.injEq] at found
      obtain ⟨rfl, rfl⟩ := found
      simp [same]
    · simp only [cut?, same, if_false, Option.map_eq_some_iff, Prod.mk.injEq, Prod.exists] at found
      obtain ⟨inner, _, inside, rfl, rfl⟩ := found
      obtain ⟨rfl, absent⟩ := step inside
      exact ⟨rfl, by simp [absent, Ne.symm same]⟩

theorem length_lt_of_cut? {mark : Char} {text before after : Text}
    (found : cut? mark text = some (before, after)) : after.length < text.length := by
  rw [(eq_append_of_cut? found).1]
  simp
  omega

def cutAt? (mark : Text) : Text → Option (Text × Text)
  | [] => if mark = [] then some ([], []) else none
  | char :: rest =>
    if mark.isPrefixOf (char :: rest) then some ([], (char :: rest).drop mark.length)
    else (cutAt? mark rest).map fun (before, after) => (char :: before, after)

def withoutHead? (head text : Text) : Option Text :=
  if head.isPrefixOf text then some (text.drop head.length) else none

def split (mark : Char) : Text → List Text
  | [] => [[]]
  | char :: rest =>
    match split mark rest with
    | [] => []
    | piece :: more => if char = mark then [] :: piece :: more else (char :: piece) :: more

def withoutEnding (tail text : Text) : Text :=
  if tail.isSuffixOf text then text.take (text.length - tail.length) else text

def trimEnd (mark : Char) (text : Text) : Text := (text.reverse.dropWhile (· = mark)).reverse

def trim (mark : Char) (text : Text) : Text := trimEnd mark (text.dropWhile (· = mark))

def join (separator : Text) (texts : List Text) : Text := separator.intercalate texts

end Text

end LineTemplates
