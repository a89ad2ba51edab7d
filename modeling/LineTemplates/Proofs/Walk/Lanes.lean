import LineTemplates.Proofs.Template.Growth
import LineTemplates.Proofs.Walk.Reached
import Mathlib.Data.Set.Card
import Mathlib.Order.Interval.Finset.Nat

/-! The lanes of a walk. There is one for each group around the current node, and what they keep lies in order along the
line. So a failure inside a group always has a lane and a carrier to go back to, and no turn looks for anything that is
not there. -/

namespace LineTemplates

namespace Template

section Depth

noncomputable def depth (template : Template) (index : Nat) : Nat :=
  {owner | template.Encloses owner index}.ncard

variable {template : Template} {index owner : Nat}

theorem depth_eq_succ (tree : template.Tree)
    (around : ∀ carrier, template.Encloses carrier index ↔ carrier = owner ∨ template.Encloses carrier owner) :
    template.depth index = template.depth owner + 1 := by
  have split : {carrier | template.Encloses carrier index} =
      insert owner {carrier | template.Encloses carrier owner} := by
    ext carrier
    exact around carrier
  have apart : owner ∉ {carrier | template.Encloses carrier owner} := by
    intro inside
    exact absurd (tree.lt_of_encloses inside) (Nat.lt_irrefl _)
  have finite : {carrier | template.Encloses carrier owner}.Finite := by
    apply (Set.finite_Iio owner).subset
    intro carrier inside
    exact tree.lt_of_encloses inside
  unfold depth
  rw [split, Set.ncard_insert_of_notMem apart finite]

theorem depth_eq_zero (outside : ∀ carrier, ¬ template.Encloses carrier index) : template.depth index = 0 := by
  have nothing : {carrier | template.Encloses carrier index} = ∅ := by
    ext carrier
    simp [outside carrier]
  rw [depth, nothing, Set.ncard_empty]

theorem depth_follower (tree : template.Tree) (points : template.Points .next owner index) :
    template.depth index = template.depth owner := by
  unfold depth
  congr 1
  ext carrier
  simp [tree.encloses_target points]

theorem depth_head (tree : template.Tree) (points : template.Points .group owner index) :
    template.depth index = template.depth owner + 1 := by
  apply depth_eq_succ tree
  intro carrier
  simp [tree.encloses_target points]

/-- A node with a group around it has an owner, which lies outside that group. -/
theorem exists_owner (tree : template.Tree) (inside : index < template.nodes.size) (deep : template.depth index ≠ 0) :
    ∃ owner, template.branchOwner index = some owner ∧ owner < template.nodes.size ∧
      template.depth index = template.depth owner + 1 := by
  cases owned : template.branchOwner index with
  | none =>
    apply absurd _ deep
    apply depth_eq_zero
    intro carrier
    simp [tree.encloses_iff inside, owned]
  | some owner =>
    have before := tree.lt_of_encloses (tree.encloses_of_branchOwner inside owned)
    refine ⟨owner, rfl, before.trans inside, ?_⟩
    apply depth_eq_succ tree
    intro carrier
    simp [tree.encloses_iff inside, owned]

end Depth

end Template

open Template

structure Lane.Before (first second : Lane) : Prop where
  cursor_le : first.cursor ≤ second.cursor
  count_le : first.argumentCount ≤ second.argumentCount

namespace Walk

def lane (walk : Walk) : Lane := ⟨walk.cursor, walk.matched, walk.arguments.length⟩

/-- What holds of a walk before each of its turns. -/
structure Orderly (template : Template) (line : List Segment) (walk : Walk) : Prop where
  inside : walk.current < template.nodes.size
  matched : walk.matched = true
  depth : walk.lanes.length = template.depth walk.current
  ordered : walk.lanes.Pairwise fun inner outer => outer.Before inner
  behind : ∀ lane ∈ walk.lanes, lane.Before walk.lane
  lanes_matched : ∀ lane ∈ walk.lanes, lane.matched = true
  lanes_valid : ∀ lane ∈ walk.lanes, lane.cursor.Valid line
  valid : walk.cursor.Valid line

def Turn.Keeps (template : Template) (line : List Segment) (lanes : List Lane) : Turn → Prop
  | goesOn next => Orderly template line next
  | stops result => result = none → lanes = []

namespace Orderly

variable {template : Template} {line : List Segment} {walk : Walk}

theorem start (tree : template.Tree) (line : List Segment) : Orderly template line .start where
  inside := tree.root_inside
  matched := rfl
  depth := (depth_eq_zero fun _ => tree.not_encloses_root).symm
  ordered := .nil
  behind := nofun
  lanes_matched := nofun
  lanes_valid := nofun
  valid := Cursor.valid_start line

theorem enter (orderly : Orderly template line walk) (tree : template.Tree) {head : Nat}
    (points : template.Points .group walk.current head) : Orderly template line (walk.enter head) where
  inside := (tree.target .group walk.current head points).2
  matched := orderly.matched
  depth := by
    have deeper := depth_head tree points
    rw [← orderly.depth] at deeper
    exact deeper.symm
  ordered := List.pairwise_cons.mpr ⟨orderly.behind, orderly.ordered⟩
  behind := List.forall_mem_cons.mpr ⟨⟨Cursor.le_refl _, Nat.le_refl _⟩, orderly.behind⟩
  lanes_matched := List.forall_mem_cons.mpr ⟨orderly.matched, orderly.lanes_matched⟩
  lanes_valid := List.forall_mem_cons.mpr ⟨orderly.valid, orderly.lanes_valid⟩
  valid := orderly.valid

theorem follow (orderly : Orderly template line walk) (tree : template.Tree) {next : Nat}
    (points : template.Points .next walk.current next) :
    Orderly template line { walk with current := next, blocked := false } where
  inside := (tree.target .next walk.current next points).2
  matched := orderly.matched
  depth := orderly.depth.trans (depth_follower tree points).symm
  ordered := orderly.ordered
  behind := orderly.behind
  lanes_matched := orderly.lanes_matched
  lanes_valid := orderly.lanes_valid
  valid := orderly.valid

theorem advance (orderly : Orderly template line walk) {item : Item} {tail : Option Text} {place : Cursor}
    {given : List Text} (taken : item.take line tail walk.cursor = some (place, given)) :
    Orderly template line { walk with cursor := place, arguments := walk.arguments ++ given } where
  inside := orderly.inside
  matched := orderly.matched
  depth := orderly.depth
  ordered := orderly.ordered
  behind := by
    intro lane kept
    obtain ⟨cursor_le, count_le⟩ := orderly.behind lane kept
    have further := Cursor.le_trans cursor_le (Cursor.le_of_take orderly.valid taken)
    refine ⟨further, count_le.trans ?_⟩
    show walk.arguments.length ≤ (walk.arguments ++ given).length
    rw [List.length_append]
    exact Nat.le_add_right ..
  lanes_matched := orderly.lanes_matched
  lanes_valid := orderly.lanes_valid
  valid := (Cursor.onward_of_take orderly.valid taken).valid

theorem exists_owner (orderly : Orderly template line walk) (tree : template.Tree) {lane : Lane} {outer : List Lane}
    (lanes : walk.lanes = lane :: outer) :
    ∃ owner, template.branchOwner walk.current = some owner ∧ owner < template.nodes.size ∧
      outer.length = template.depth owner := by
  have depth := orderly.depth
  rw [lanes, List.length_cons] at depth
  obtain ⟨owner, owned, inside, deeper⟩ := Template.exists_owner tree orderly.inside (by omega)
  refine ⟨owner, owned, inside, ?_⟩
  omega

theorem leave (orderly : Orderly template line walk) (tree : template.Tree) :
    (leave template line walk).Keeps template line walk.lanes := by
  unfold Walk.leave
  cases lanes : walk.lanes with
  | nil => exact fun _ => rfl
  | cons lane outer =>
    obtain ⟨owner, owned, inside, depth⟩ := orderly.exists_owner tree lanes
    obtain ⟨_, matched, _, ordered, behind, lanes_matched, lanes_valid, valid⟩ := orderly
    rw [lanes] at ordered behind lanes_matched lanes_valid
    rw [owned]
    constructor
    case inside => exact inside
    case matched => exact matched
    case depth => exact depth
    case ordered => exact (List.pairwise_cons.mp ordered).2
    case behind => exact (List.forall_mem_cons.mp behind).2
    case lanes_matched => exact (List.forall_mem_cons.mp lanes_matched).2
    case lanes_valid => exact (List.forall_mem_cons.mp lanes_valid).2
    case valid => exact valid

/-- Going back restores what the innermost lane kept, and cuts the arguments to the number it kept. -/
theorem retreat (orderly : Orderly template line walk) (tree : template.Tree) :
    (retreat template { walk with matched := false }).Keeps template line walk.lanes := by
  unfold Walk.retreat
  dsimp only
  cases lanes : walk.lanes with
  | nil => exact fun _ => rfl
  | cons lane outer =>
    obtain ⟨owner, owned, inside, depth⟩ := orderly.exists_owner tree lanes
    obtain ⟨_, _, _, ordered, behind, lanes_matched, lanes_valid, _⟩ := orderly
    rw [lanes] at ordered behind lanes_matched lanes_valid
    obtain ⟨outside, ordered⟩ := List.pairwise_cons.mp ordered
    have shorter : lane.argumentCount ≤ walk.arguments.length := (List.forall_mem_cons.mp behind).1.count_le
    rw [owned]
    constructor
    case inside => exact inside
    case matched => exact (List.forall_mem_cons.mp lanes_matched).1
    case depth => exact depth
    case ordered => exact ordered
    case behind =>
      intro other kept
      obtain ⟨cursor_le, count_le⟩ := outside other kept
      refine ⟨cursor_le, ?_⟩
      show other.argumentCount ≤ (walk.arguments.take lane.argumentCount).length
      rw [List.length_take_of_le shorter]
      exact count_le
    case lanes_matched => exact (List.forall_mem_cons.mp lanes_matched).2
    case lanes_valid => exact (List.forall_mem_cons.mp lanes_valid).2
    case valid => exact (List.forall_mem_cons.mp lanes_valid).1

theorem visit (orderly : Orderly template line walk) (tree : template.Tree) :
    (visit template line walk).Keeps template line walk.lanes := by
  unfold Walk.visit
  split
  · rw [if_pos orderly.matched]
    exact orderly
  · dsimp only
    split
    · exact orderly.retreat tree
    · rename_i place given taken
      split
      · nofun
      · rw [if_pos orderly.matched]
        exact orderly.advance taken

/-- Each turn keeps a walk in order. -/
theorem step (orderly : Orderly template line walk) (tree : template.Tree) :
    (step template line walk).Keeps template line walk.lanes := by
  unfold Walk.step
  dsimp only
  split
  · rename_i head next link
    split
    · exact orderly.enter tree link
    · split
      · rename_i next follower
        exact (orderly.follow tree follower).visit tree
      · exact orderly.leave tree
  · rename_i next bare follower
    exact (orderly.follow tree follower).visit tree
  · exact orderly.leave tree

theorem of_reached {count : Nat} (tree : template.Tree) (reached : Reached template line count walk) :
    Orderly template line walk := by
  induction reached with
  | start => exact start tree line
  | goesOn _ turns orderly =>
    have keeps := orderly.step tree
    rw [turns] at keeps
    exact keeps

end Orderly

/-- Whatever the next turn looks up is there: nodes and their links, what is left of the line, what is left of a run
from a character on, as many arguments as a lane kept, and a carrier to go back to as long as there are lanes. -/
structure Provided (template : Template) (segments : List Segment) (walk : Walk) : Prop where
  node : walk.current < template.nodes.size
  target : ∀ link index target, template.Points link index target → target < template.nodes.size
  parent : ∀ index parent, (template.node index).parent = some parent → parent < template.nodes.size
  segment : walk.cursor.segment ≤ segments.length
  slice : ∀ text, segments[walk.cursor.segment]? = some (Segment.run text) →
    Text.utf8Size text = text.length ∧ Text.dropBytes? walk.cursor.offset text = some (text.drop walk.cursor.offset)
  ending : ∀ tail, tail <:+ walk.cursor.remaining segments →
    Text.utf8Size (Text.withoutEnding tail (walk.cursor.remaining segments)) + Text.utf8Size tail =
      Text.utf8Size (walk.cursor.remaining segments)
  arguments : ∀ lane ∈ walk.lanes, lane.argumentCount ≤ walk.arguments.length
  owner : walk.lanes ≠ [] → ∀ index, index = walk.current ∨ template.Points .next walk.current index →
    ∃ owner, template.branchOwner index = some owner ∧ owner < template.nodes.size
  stops : step template segments walk = .stops none → walk.lanes = []

namespace Orderly

variable {template : Template} {segments : List Segment} {walk : Walk}

theorem dropBytes?_offset (orderly : Orderly template segments walk) (canonical : Segment.Canonical segments) {text : Text}
    (here : segments[walk.cursor.segment]? = some (Segment.run text)) :
    Text.utf8Size text = text.length ∧
      Text.dropBytes? walk.cursor.offset text = some (text.drop walk.cursor.offset) := by
  have values := (canonical.wellFormed _ (List.mem_of_getElem? here)).2.2
  refine ⟨Segment.utf8Size_of_valueChars values, ?_⟩
  have short : walk.cursor.offset ≤ text.length := by
    by_cases whole : walk.cursor.offset = 0
    · omega
    · obtain ⟨other, same, shorter⟩ := orderly.valid.inside whole
      cases here.symm.trans same
      exact shorter.le
  have size : Text.utf8Size (text.take walk.cursor.offset) = walk.cursor.offset := by
    rw [Segment.utf8Size_of_valueChars fun char inside => values char (List.mem_of_mem_take inside)]
    exact List.length_take_of_le short
  calc Text.dropBytes? walk.cursor.offset text
      = Text.dropBytes? (Text.utf8Size (text.take walk.cursor.offset))
          (text.take walk.cursor.offset ++ text.drop walk.cursor.offset) := by rw [size, List.take_append_drop]
    _ = some (text.drop walk.cursor.offset) := Text.dropBytes?_append ..

theorem provided (orderly : Orderly template segments walk) (tree : template.Tree)
    (canonical : Segment.Canonical segments) : Provided template segments walk where
  node := orderly.inside
  target link index target points := (tree.target link index target points).2
  parent index parent up := by
    obtain ⟨link, points⟩ := tree.points_of_parent up
    exact tree.inside_of_points points
  segment := orderly.valid.segment_le
  slice text here := orderly.dropBytes?_offset canonical here
  ending tail trailing := by
    obtain ⟨front, whole⟩ := trailing
    rw [← whole, Text.withoutEnding, if_pos (List.isSuffixOf_iff_suffix.mpr (List.suffix_append ..))]
    simp
  arguments lane kept := (orderly.behind lane kept).count_le
  owner lanes := by
    obtain ⟨lane, outer, shape⟩ := List.exists_cons_of_ne_nil lanes
    obtain ⟨owner, owned, inside, _⟩ := orderly.exists_owner tree shape
    rintro index (rfl | follows)
    · exact ⟨owner, owned, inside⟩
    · exact ⟨owner, (tree.branchOwner_follower follows).trans owned, inside⟩
  stops stopped := by
    have keeps := orderly.step tree
    rw [stopped] at keeps
    exact keeps rfl

end Orderly

end Walk

namespace Template

open Pattern (Spelling)

/-- Before each of its turns the walk of a compiled template along a line is in order, and all that the turn looks up
is there. -/
theorem walk_in_order {name source line : Text} {template : Template} {segments : List Segment} {count : Nat}
    {walk : Walk} (compiled : compile name source = .ok template) (tokenized : Segment.tokenize line = .ok segments)
    (reached : Walk.Reached template segments count walk) :
    walk.Orderly template segments ∧ walk.Provided template segments := by
  have tree := tree_of_compile compiled
  have orderly := Walk.Orderly.of_reached tree reached
  have canonical := (Segment.canonical_of_tokenizeFrom tokenized).1
  exact ⟨orderly, orderly.provided tree canonical⟩

theorem walk_in_order_in_nested_groups :
    let source : Text := ['<', 'a', '[', 'b', '_', ']', '>']
    let nested : Pattern := .group .optional (.item (.literal 'b') (.item .skipBlanks .done)) .done
    let template := ofPattern [] source (.group .repeatable (.item (.literal 'a') nested) .done)
    let line : Text := ['a', 'b', ' ', 'c']
    let segments : List Segment := [.run ['a', 'b'], .symbol ' ', .run ['c']]
    let walk : Walk := ⟨3, false, ⟨0, 1⟩, true, [], [⟨⟨0, 1⟩, true, 0⟩, ⟨⟨0, 0⟩, true, 0⟩]⟩
    compile [] source = .ok template ∧ Segment.tokenize line = .ok segments ∧
      Walk.Reached template segments 3 walk ∧ walk.Orderly template segments ∧ walk.Provided template segments := by
  intro source nested template line segments walk
  have spelled : Spelling (.group .repeatable (.item (.literal 'a') nested) .done) source := by
    have optional : Spelling nested ['[', 'b', '_', ']'] := .group (.literal (by decide) (.blanks .done)) .done
    have inside : Spelling (.item (.literal 'a') nested) ['a', '[', 'b', '_', ']'] := .literal (by decide) optional
    exact .group inside .done
  have compiled : compile [] source = .ok template := compile_of_spelling [] spelled
  have canonical : Segment.Canonical segments := by
    simp [segments, Segment.canonical_cons, Segment.canonical_nil, Segment.WellFormed, Segment.MayPrecede,
      Segment.ValueChar]
  have tokenized : Segment.tokenize line = .ok segments := Segment.tokenizeFrom_renderAll canonical 0
  have reached : Walk.Reached template segments 3 walk := .goesOn (.goesOn (.goesOn .start rfl) rfl) rfl
  exact ⟨compiled, tokenized, reached, walk_in_order compiled tokenized reached⟩

end Template

end LineTemplates
