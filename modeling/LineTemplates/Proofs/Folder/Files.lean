import LineTemplates.Folder
import Mathlib.Data.List.Nodup

/-! Files of a folder: the text that a file holds, and the place where it stands. Every file stands at the end of a path
of names, and where no folder has two entries of one name a path leads to one file at the most. -/

namespace LineTemplates

theorem decodeText_toUTF8 (string : String) : decodeText string.toUTF8 = .ok string.toList := by
  have valid : string.toUTF8.IsValidUTF8 := string.isValidUTF8
  simp only [decodeText, String.fromUTF8?, dif_pos valid]
  rfl

namespace Found

theorem exists?_of_text {found : Found} {text : Text} (readable : found.text = .ok text) : found.exists? = true := by
  cases found with
  | nothing error => simp [Found.text] at readable
  | file content => rfl
  | folder inner => rfl

@[simp] theorem text_file (bytes : ByteArray) : (file (.ok bytes)).text = decodeText bytes := rfl

end Found

namespace Folder

def names : Folder → List Text
  | empty => []
  | file name _ next => name :: next.names
  | folder name _ next => name :: next.names

def files : Folder → List (List Text × FileContent)
  | empty => []
  | file name content next => ([name], content) :: next.files
  | folder name inner next => inner.files.map (fun (path, content) => (name :: path, content)) ++ next.files

def paths : Folder → List (List Text)
  | empty => []
  | file name _ next => [name] :: next.paths
  | folder name inner next => [name] :: inner.paths.map (name :: ·) ++ next.paths

structure Plain (name : Text) : Prop where
  filled : name ≠ []
  noSlash : '/' ∉ name
  noBackslash : '\\' ∉ name

def Tidy : Folder → Prop
  | empty => True
  | file name _ next => Plain name ∧ name ∉ next.names ∧ next.Tidy
  | folder name inner next => Plain name ∧ name ∉ next.names ∧ inner.Tidy ∧ next.Tidy

variable {folder : Folder} {path : List Text} {content : FileContent}

theorem mem_files_folder {name : Text} {inner next : Folder} :
    (path, content) ∈ (Folder.folder name inner next).files ↔
      (∃ rest, (rest, content) ∈ inner.files ∧ name :: rest = path) ∨ (path, content) ∈ next.files := by
  simp only [files, List.mem_append, List.mem_map, Prod.exists, Prod.mk.injEq]
  constructor
  · rintro (⟨rest, _, inside, rfl, rfl⟩ | later)
    · exact .inl ⟨rest, inside, rfl⟩
    · exact .inr later
  · rintro (⟨rest, inside, rfl⟩ | later)
    · exact .inl ⟨rest, content, inside, rfl, rfl⟩
    · exact .inr later

theorem exists_name_of_mem_files (inside : (path, content) ∈ folder.files) :
    ∃ name ∈ folder.names, ∃ rest, path = name :: rest := by
  induction folder with
  | empty => cases inside
  | file name other next step =>
    rw [files, List.mem_cons] at inside
    rcases inside with same | later
    · cases same
      exact ⟨name, List.mem_cons_self, [], rfl⟩
    · obtain ⟨first, among, rest, rfl⟩ := step later
      exact ⟨first, List.mem_cons_of_mem _ among, rest, rfl⟩
  | folder name inner next _ step =>
    rcases mem_files_folder.mp inside with ⟨rest, _, rfl⟩ | later
    · exact ⟨name, List.mem_cons_self, rest, rfl⟩
    · obtain ⟨first, among, rest, rfl⟩ := step later
      exact ⟨first, List.mem_cons_of_mem _ among, rest, rfl⟩

theorem ne_nil_of_mem_files (inside : (path, content) ∈ folder.files) : path ≠ [] := by
  obtain ⟨name, _, rest, rfl⟩ := exists_name_of_mem_files inside
  exact List.cons_ne_nil _ _

theorem Tidy.plain (tidy : folder.Tidy) (inside : (path, content) ∈ folder.files) : ∀ name ∈ path, Plain name := by
  induction folder generalizing path with
  | empty => cases inside
  | file name other next step =>
    obtain ⟨plain, _, rest⟩ := tidy
    rw [files, List.mem_cons] at inside
    rcases inside with same | later
    · cases same
      simpa using plain
    · exact step rest later
  | folder name inner next stepInner step =>
    obtain ⟨plain, _, within, rest⟩ := tidy
    rcases mem_files_folder.mp inside with ⟨more, below, rfl⟩ | later
    · exact List.forall_mem_cons.mpr ⟨plain, stepInner within below⟩
    · exact step rest later

theorem Tidy.nodup (tidy : folder.Tidy) : (folder.files.map Prod.fst).Nodup := by
  -- A path that begins with a name leads to none of the entries after that name.
  have apart {name : Text} {next : Folder} (fresh : name ∉ next.names) (rest : List Text) :
      name :: rest ∉ next.files.map Prod.fst := by
    intro inside
    obtain ⟨⟨_, content⟩, among, rfl⟩ := List.mem_map.mp inside
    obtain ⟨first, listed, more, same⟩ := exists_name_of_mem_files among
    obtain ⟨rfl, _⟩ := List.cons.inj same
    exact fresh listed
  induction folder with
  | empty => exact List.nodup_nil
  | file name content next step =>
    obtain ⟨_, fresh, rest⟩ := tidy
    exact List.nodup_cons.mpr ⟨apart fresh [], step rest⟩
  | folder name inner next stepInner step =>
    obtain ⟨_, fresh, within, rest⟩ := tidy
    have below : (inner.files.map fun file => (name :: file.1, file.2)).map Prod.fst =
        (inner.files.map Prod.fst).map (name :: ·) := by
      rw [List.map_map, List.map_map]
      rfl
    rw [files, List.map_append, below, List.nodup_append']
    refine ⟨(stepInner within).map (List.cons_injective), step rest, ?_⟩
    intro path first second
    obtain ⟨more, _, rfl⟩ := List.mem_map.mp first
    exact apart fresh more second

end Folder

end LineTemplates
