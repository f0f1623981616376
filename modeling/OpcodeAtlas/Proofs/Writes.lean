import OpcodeAtlas.Proofs.Workspace

/-!
Files written one after the other. Each write that succeeds changes one file, and a write that is
refused changes none, even where folders were added for it before it was refused.
-/

namespace OpcodeAtlas

open FileTree (Free parentName)

namespace Workspace

variable {folder reached : Workspace} {path : FilePath} {content : Text}

/-- There is room for a file: file operations accept its path, no file is in the way, and no folder
    is in its place. -/
structure Room (folder : Workspace) (path : FilePath) : Prop where
  accepted : path.Accepted
  way_free : folder.tree.Free path.names.dropLast
  place_free : ∀ entries, folder.tree.at? path.names ≠ some (.folder entries)

/-- What a folder becomes by a write that succeeds: the file at the path has the content, every
    other file is as it was, and the folders on the way to the path are there. -/
structure Stores (folder : Workspace) (path : FilePath) (content : Text) (written : Workspace) :
    Prop where
  content?_eq : ∀ other, written.tree.content? other =
    if other = path.names then some content else folder.tree.content? other
  folders : ∀ above, above <+: path.names → above ≠ path.names →
    ∃ entries, written.tree.at? above = some (.folder entries)

/-- What a folder becomes by a write that is refused: every file is as it was. -/
def Keeps (folder kept : Workspace) : Prop :=
  ∀ other, kept.tree.content? other = folder.tree.content? other

/-- The path of a file has a name. -/
theorem Room.exists_concat (hroom : Room folder path) :
    ∃ above name, path = ⟨path.full, above ++ [name]⟩ := by
  obtain ⟨full, names⟩ := path
  obtain rfl | ⟨above, name, rfl⟩ := List.eq_nil_or_concat' names
  · exact absurd (FileTree.at?_nil folder.tree) (hroom.place_free _)
  · exact ⟨above, name, rfl⟩

/-- Where there is room a write succeeds. -/
theorem Room.write (hroom : Room folder path) (content : Text) :
    ∃ written, folder.write path content = (written, .ok ()) ∧ Stores folder path content written := by
  obtain ⟨above, name, hpath⟩ := hroom.exists_concat
  obtain ⟨full, names⟩ := path
  cases hpath
  obtain ⟨haccepted, hway, hplace⟩ := hroom
  rw [List.dropLast_concat] at hway
  obtain ⟨tree, hwrite, hcontent, -⟩ := write_of_free haccepted hway hplace content
  refine ⟨{ folder with tree }, hwrite, hcontent, fun before hbefore hproper => ?_⟩
  obtain ⟨rest, hrest⟩ := hbefore
  have hfile : tree.at? (before ++ rest) = some (.file content) := by
    rw [← FileTree.content?_eq_some_iff, hcontent, if_pos hrest]
  refine FileTree.exists_folder_of_at? (fun hnil => hproper ?_) hfile
  rwa [hnil, List.append_nil] at hrest

end Workspace

end OpcodeAtlas
