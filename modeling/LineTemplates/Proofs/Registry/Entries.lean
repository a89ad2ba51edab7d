import LineTemplates.Proofs.Template.Drafting
import LineTemplates.TemplateSet
import Mathlib.Data.List.Forall2

/-! The registry of a template set. Its templates are those that the entries compile to, one for each entry and in the
same order; if some entries have faults there is no registry, and all of their faults are reported. -/

namespace LineTemplates

theorem Template.name_of_compile {name source : Text} {template : Template}
    (compiled : compile name source = .ok template) : template.name = name := by
  obtain ⟨pattern, _, rfl⟩ := compile_eq_ok_iff.mp compiled
  rfl

theorem Template.source_of_compile {name source : Text} {template : Template}
    (compiled : compile name source = .ok template) : template.source = source := by
  obtain ⟨pattern, _, rfl⟩ := compile_eq_ok_iff.mp compiled
  rfl

theorem Template.template_of_compile_eq_error {name source : Text} {error : TemplateError}
    (failed : compile name source = .error error) : error.template = name := by
  rw [compile_eq] at failed
  split at failed <;> cases failed
  rfl

def TemplateEntry.fault? (entry : TemplateEntry) : Option TemplateError :=
  match Template.compile entry.name entry.source with
  | .ok _ => none
  | .error error => some error

theorem TemplateEntry.fault?_eq_none_iff {entry : TemplateEntry} :
    entry.fault? = none ↔ ∃ template, Template.compile entry.name entry.source = .ok template := by
  rw [fault?]
  cases Template.compile entry.name entry.source <;> simp

theorem TemplateEntry.fault?_eq_some_iff {entry : TemplateEntry} {error : TemplateError} :
    entry.fault? = some error ↔ Template.compile entry.name entry.source = .error error := by
  rw [fault?]
  cases Template.compile entry.name entry.source <;> simp

namespace TemplateSet

def faultsFrom (number : Nat) (entries : List TemplateEntry) : List (Nat × TemplateError) :=
  (entries.zipIdx number).filterMap fun placed => placed.1.fault?.map (placed.2, ·)

theorem faultsFrom_cons (number : Nat) (entry : TemplateEntry) (more : List TemplateEntry) :
    faultsFrom number (entry :: more) =
      (entry.fault?.map (number, ·)).toList ++ faultsFrom (number + 1) more := by
  rw [faultsFrom, List.zipIdx_cons, List.filterMap_cons]
  dsimp only
  cases entry.fault? <;> rfl

theorem errors_registerAll (number : Nat) (registry : Registry) (entries : List TemplateEntry) :
    (registerAll number registry entries).2 = faultsFrom number entries := by
  induction entries generalizing number registry with
  | nil => rfl
  | cons entry more step =>
    rw [registerAll, Registry.register, faultsFrom_cons, TemplateEntry.fault?]
    cases Template.compile entry.name entry.source with
    | ok template => exact step (number + 1) (registry.push template)
    | error error => exact congrArg ((number, error) :: ·) (step (number + 1) registry)

theorem faultsFrom_eq_nil_iff (number : Nat) (entries : List TemplateEntry) :
    faultsFrom number entries = [] ↔
      ∀ entry ∈ entries, ∃ template, Template.compile entry.name entry.source = .ok template := by
  induction entries generalizing number with
  | nil => simp [faultsFrom]
  | cons entry more step =>
    rw [faultsFrom_cons, List.append_eq_nil_iff, step, List.forall_mem_cons, ← TemplateEntry.fault?_eq_none_iff]
    simp

theorem compile_eq_ok_iff_forall {entries : List TemplateEntry} :
    (∃ registry, compile entries = .ok registry) ↔
      ∀ entry ∈ entries, ∃ template, Template.compile entry.name entry.source = .ok template := by
  rw [← faultsFrom_eq_nil_iff 0 entries, ← errors_registerAll 0 .empty entries, compile]
  split
  · rename_i whole
    simp [whole]
  · rename_i errors faulty whole
    rw [whole]
    simpa using faulty

theorem templates_of_registerAll {number : Nat} {registry grown : Registry} {entries : List TemplateEntry}
    (whole : registerAll number registry entries = (grown, [])) :
    ∃ added, grown.templates = registry.templates ++ added ∧
      List.Forall₂ (fun entry template => Template.compile entry.name entry.source = .ok template) entries added := by
  induction entries generalizing number registry with
  | nil =>
    cases whole
    exact ⟨[], (List.append_nil _).symm, .nil⟩
  | cons entry more step =>
    rw [registerAll, Registry.register] at whole
    cases compiled : Template.compile entry.name entry.source with
    | error error => simp [compiled, Functor.map, Except.map] at whole
    | ok template =>
      simp only [compiled, Functor.map, Except.map] at whole
      obtain ⟨added, same, pairs⟩ := step whole
      refine ⟨template :: added, ?_, .cons compiled pairs⟩
      rw [same, Registry.push, List.append_assoc, List.singleton_append]

theorem forall₂_of_compile {entries : List TemplateEntry} {registry : Registry}
    (compiled : compile entries = .ok registry) :
    List.Forall₂ (fun entry template => Template.compile entry.name entry.source = .ok template) entries
      registry.templates := by
  unfold compile at compiled
  split at compiled
  · rename_i whole
    cases compiled
    obtain ⟨added, same, pairs⟩ := templates_of_registerAll whole
    rw [same]
    exact pairs
  · cases compiled

theorem registerAll_of_forall₂ {entries : List TemplateEntry} {added : List Template}
    (pairs : List.Forall₂ (fun entry template => Template.compile entry.name entry.source = .ok template) entries added)
    (number : Nat) (registry : Registry) :
    registerAll number registry entries = (⟨registry.templates ++ added⟩, []) := by
  induction pairs generalizing number registry with
  | nil => rw [registerAll, List.append_nil]
  | cons compiled _ step =>
    rw [registerAll, Registry.register, compiled]
    dsimp only [Functor.map, Except.map]
    rw [step, Registry.push, List.append_assoc, List.singleton_append]

theorem compile_eq_ok_iff_forall₂ {entries : List TemplateEntry} {registry : Registry} :
    compile entries = .ok registry ↔
      List.Forall₂ (fun entry template => Template.compile entry.name entry.source = .ok template) entries
        registry.templates := by
  refine ⟨forall₂_of_compile, fun pairs => ?_⟩
  rw [compile, registerAll_of_forall₂ pairs]
  rfl

theorem map_of_compile {α : Type} {part : Template → α} {given : TemplateEntry → α}
    (kept : ∀ {entry : TemplateEntry} {template : Template},
      Template.compile entry.name entry.source = .ok template → part template = given entry)
    {entries : List TemplateEntry} {registry : Registry} (compiled : compile entries = .ok registry) :
    registry.templates.map part = entries.map given := by
  have same : List.Forall₂ (fun entry template => given entry = part template) entries registry.templates :=
    (forall₂_of_compile compiled).imp fun _ _ built => (kept built).symm
  have pairs := List.forall₂_map_right_iff.mpr (List.forall₂_map_left_iff.mpr same)
  rw [List.forall₂_eq_eq_eq] at pairs
  exact pairs.symm

theorem names_of_compile {entries : List TemplateEntry} {registry : Registry}
    (compiled : compile entries = .ok registry) : registry.names = entries.map TemplateEntry.name :=
  map_of_compile Template.name_of_compile compiled

theorem sources_of_compile {entries : List TemplateEntry} {registry : Registry}
    (compiled : compile entries = .ok registry) :
    registry.templates.map Template.source = entries.map TemplateEntry.source :=
  map_of_compile Template.source_of_compile compiled

section Faults

variable {entries : List TemplateEntry} {errors : List (Nat × TemplateError)}

/-- A set that does not compile is refused for the faults of all its entries. -/
theorem compile_eq_error_iff : compile entries = .error errors ↔ errors = faultsFrom 0 entries ∧ errors ≠ [] := by
  rw [← errors_registerAll 0 .empty entries, compile]
  split
  · rename_i whole
    simp +contextual [whole]
  · rename_i found faulty whole
    rw [whole, Except.error.injEq, eq_comm]
    exact ⟨fun same => ⟨same, same ▸ faulty⟩, And.left⟩

theorem mem_faultsFrom_iff {place : Nat} {error : TemplateError} :
    (place, error) ∈ faultsFrom 0 entries ↔
      ∃ entry, entries[place]? = some entry ∧ Template.compile entry.name entry.source = .error error := by
  simp only [faultsFrom, List.mem_filterMap, Prod.exists, List.mk_mem_zipIdx_iff_getElem?, Option.map_eq_some_iff,
    Prod.mk.injEq, TemplateEntry.fault?_eq_some_iff]
  constructor
  · rintro ⟨entry, _, inside, _, failed, rfl, rfl⟩
    exact ⟨entry, inside, failed⟩
  · rintro ⟨entry, inside, failed⟩
    exact ⟨entry, place, inside, error, failed, rfl, rfl⟩

theorem pairwise_faultsFrom (number : Nat) (entries : List TemplateEntry) :
    ((faultsFrom number entries).map Prod.fst).Pairwise (· < ·) := by
  have ascending : (entries.zipIdx number).Pairwise (·.2 < ·.2) := by
    rw [← List.pairwise_map (f := Prod.snd) (R := (· < ·)), List.zipIdx_map_snd]
    exact List.pairwise_lt_range'
  rw [List.pairwise_map, faultsFrom, List.pairwise_filterMap]
  refine ascending.imp fun lower fault reported other otherReported => ?_
  obtain ⟨_, _, rfl⟩ := Option.map_eq_some_iff.mp reported
  obtain ⟨_, _, rfl⟩ := Option.map_eq_some_iff.mp otherReported
  exact lower

end Faults

end TemplateSet

end LineTemplates
