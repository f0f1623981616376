import OpcodeAtlas.Workspace
import OpcodeAtlas.Proofs.FileTree
import OpcodeAtlas.Proofs.Text.Pieces

namespace OpcodeAtlas

open FileTree (Accepts Free)

/-- A path that file operations accept. -/
structure FilePath.Accepted (path : FilePath) : Prop where
  names : ∀ name ∈ path.names, Accepts name
  fits : Workspace.fits path = true

/-- The folders on the way to an accepted path are accepted. -/
theorem FilePath.Accepted.above {full : Bool} {above rest : List Text}
    (hpath : FilePath.Accepted ⟨full, above ++ rest⟩) : FilePath.Accepted ⟨full, above⟩ := by
  refine ⟨fun name hname => hpath.names name (List.mem_append_left _ hname), ?_⟩
  have hfits := of_decide_eq_true hpath.fits
  obtain ⟨tail, htail⟩ := Text.join_isPrefix_append ['/'] above rest
  rw [← htail, Text.byteLength_append] at hfits
  exact decide_eq_true (Nat.le_trans (Nat.le_add_right _ _) hfits)

namespace Workspace

variable {folder : Workspace} {full : Bool}

theorem addFolders_cons_of_folder {name : Text} {above : List Text}
    (hpath : FilePath.Accepted ⟨full, above.reverse ++ [name]⟩) {entries : FileTree}
    (hfolder : folder.tree.at? above.reverse = some (.folder entries)) :
    folder.addFolders full (name :: above) =
      match folder.tree.at? (above.reverse ++ [name]) with
      | none =>
        ({ folder with tree := folder.tree.set (.folder []) (above.reverse ++ [name]) }, .ok ())
      | some (.folder _) => (folder, .ok ())
      | some (.file _) => (folder, .error (.alreadyExists, ⟨full, above.reverse ++ [name]⟩)) := by
  have hname : Accepts name := hpath.names name (by simp)
  simp only [addFolders, List.reverse_cons, hpath.fits,
    FileTree.addFolder_of_folder hpath.above.names hfolder hname]
  cases hat : folder.tree.at? (above.reverse ++ [name]) with
  | none => rfl
  | some entry =>
    cases entry with
    | file content => simp [FileTree.isFolder_of_file hpath.names hat, Except.map]
    | folder entries => simp [FileTree.isFolder_of_folder hpath.names hat, Except.map]

/-- Once the folder above is there, adding goes on as if it had been there from the beginning. -/
theorem addFolders_cons_of_none {name : Text} {above : List Text}
    (hpath : FilePath.Accepted ⟨full, above.reverse ++ [name]⟩)
    (hmissing : folder.tree.follow [] above.reverse = .error .notFound) {added : Workspace}
    (hadded : folder.addFolders full above = (added, .ok ())) {entries : FileTree}
    (hfolder : added.tree.at? above.reverse = some (.folder entries)) :
    folder.addFolders full (name :: above) = added.addFolders full (name :: above) := by
  have hname : Accepts name := hpath.names name (by simp)
  simp only [addFolders, List.reverse_cons, hpath.fits, FileTree.addFolder_of_error hmissing, hadded,
    FileTree.addFolder_of_folder hpath.above.names hfolder hname]
  cases added.tree.at? (above.reverse ++ [name]) <;> rfl

/-- A tree after the folder at a path was added: no file changed, and the folder is the one that was
    there, or an empty one where nothing was. -/
structure Adds (tree : FileTree) (path : List Text) (added : FileTree) : Prop where
  content?_eq : ∀ other, added.content? other = tree.content? other
  there : (∃ entries, tree.at? path = some (.folder entries) ∧ added = tree) ∨
    tree.at? path = none ∧ added.at? path = some (.folder [])

theorem Adds.exists_folder {tree added : FileTree} {path : List Text} (hadds : Adds tree path added) :
    ∃ entries, added.at? path = some (.folder entries) := by
  obtain ⟨entries, hfolder, rfl⟩ | ⟨-, hempty⟩ := hadds.there
  · exact ⟨entries, hfolder⟩
  · exact ⟨[], hempty⟩

/-- Where anything was at the path, it was the folder, and nothing changed. -/
theorem Adds.eq_of_at? {tree added : FileTree} {path : List Text} (hadds : Adds tree path added)
    {entry : FileEntry} (hat : tree.at? path = some entry) : added = tree := by
  obtain ⟨-, -, heq⟩ | ⟨hnone, -⟩ := hadds.there
  · exact heq
  · rw [hnone] at hat
    cases hat

/-- Below the folder there is what was there before. -/
theorem Adds.at?_append {tree added : FileTree} {path rest : List Text} (hadds : Adds tree path added)
    (hrest : rest ≠ []) : added.at? (path ++ rest) = tree.at? (path ++ rest) := by
  obtain ⟨entries, -, rfl⟩ | ⟨hnone, hempty⟩ := hadds.there
  · rfl
  · rw [FileTree.at?_append, FileTree.at?_append, hnone, hempty]
    cases rest with
    | nil => exact absurd rfl hrest
    | cons name rest => rfl

theorem exists_adds_of_folder (folder : Workspace) {name : Text} {above : List Text}
    (hpath : FilePath.Accepted ⟨full, above.reverse ++ [name]⟩) {entries : FileTree}
    (hfolder : folder.tree.at? above.reverse = some (.folder entries))
    (hplace : folder.tree.content? (above.reverse ++ [name]) = none) :
    ∃ tree, folder.addFolders full (name :: above) = ({ folder with tree }, .ok ()) ∧
      Adds folder.tree (above.reverse ++ [name]) tree := by
  rw [addFolders_cons_of_folder hpath hfolder]
  have hne : above.reverse ++ [name] ≠ [] := by simp
  have houter : folder.tree.at? (above.reverse ++ [name]).dropLast = some (.folder entries) := by
    rwa [List.dropLast_concat]
  cases hat : folder.tree.at? (above.reverse ++ [name]) with
  | none =>
    exact ⟨_, rfl, FileTree.content?_set_folder hne houter hat,
      Or.inr ⟨hat, FileTree.at?_set_self hne houter⟩⟩
  | some entry =>
    cases entry with
    | file content => exact absurd hat (FileTree.content?_eq_none_iff.mp hplace content)
    | folder there => exact ⟨folder.tree, rfl, fun _ => rfl, Or.inl ⟨there, hat, rfl⟩⟩

/-- Where no file is in the way, a folder comes to be there together with the folders above it. -/
theorem addFolders_of_free {names : List Text} (hpath : FilePath.Accepted ⟨full, names.reverse⟩)
    (hfree : folder.tree.Free names.reverse) :
    ∃ tree, folder.addFolders full names = ({ folder with tree }, .ok ()) ∧
      Adds folder.tree names.reverse tree := by
  induction names with
  | nil => exact ⟨folder.tree, rfl, fun _ => rfl, Or.inl ⟨folder.tree, rfl, rfl⟩⟩
  | cons name above ih =>
    rw [List.reverse_cons] at hpath hfree ⊢
    have hplace := hfree _ (List.prefix_refl _)
    have hfreeAbove := hfree.of_isPrefix (List.prefix_append above.reverse [name])
    obtain hnone | ⟨entries, hfolder⟩ := hfreeAbove.at?_eq
    -- The folder above is missing. It is added first, and it is empty, so nothing is in the way.
    · obtain ⟨tree, hadded, hadds⟩ := ih hpath.above hfreeAbove
      obtain ⟨entries, hfolder⟩ := hadds.exists_folder
      have hmissing : folder.tree.follow [] above.reverse = .error .notFound :=
        FileTree.follow_of_none hpath.above.names (FileTree.at?_nil _) hfreeAbove hnone
      rw [addFolders_cons_of_none hpath hmissing hadded hfolder]
      obtain ⟨final, hfinal, hsame, hthere⟩ :=
        exists_adds_of_folder { folder with tree } hpath hfolder
          ((hadds.content?_eq _).trans hplace)
      have hnowhere : folder.tree.at? (above.reverse ++ [name]) = none := by
        rw [FileTree.at?_append, hnone, Option.bind_none]
      simp only [hadds.at?_append (List.cons_ne_nil _ _), hnowhere] at hthere
      exact ⟨final, hfinal, fun other => (hsame other).trans (hadds.content?_eq other),
        Or.inr ⟨hnowhere, by simpa using hthere⟩⟩
    · exact exists_adds_of_folder folder hpath hfolder hplace

/-- Where no file is in the way, the folder for a file is there when it is written. -/
theorem write_eq_of_free {above : List Text} {name : Text}
    (hpath : FilePath.Accepted ⟨full, above ++ [name]⟩) (hfree : folder.tree.Free above)
    (content : Text) :
    ∃ tree, Adds folder.tree above tree ∧
      folder.write ⟨full, above ++ [name]⟩ content =
        match folder.tree.at? (above ++ [name]) with
        | some (.folder _) =>
          let path := folder.pathText ⟨full, above ++ [name]⟩
          ({ folder with tree }, .error ⟨.unwritable path .isFolder path, none⟩)
        | _ => ({ folder with tree := tree.set (.file content) (above ++ [name]) }, .ok ()) := by
  have hname : Accepts name := hpath.names name (by simp)
  have habove : FilePath.Accepted ⟨full, above.reverse.reverse⟩ :=
    (List.reverse_reverse above).symm ▸ hpath.above
  obtain ⟨tree, hadded, hadds⟩ := addFolders_of_free habove (by rwa [List.reverse_reverse])
  rw [List.reverse_reverse] at hadds
  obtain ⟨entries, hfolder⟩ := hadds.exists_folder
  refine ⟨tree, hadds, ?_⟩
  simp only [write, List.reverse_concat, List.drop_succ_cons, List.drop_zero, hadded, hpath.fits,
    FileTree.setFile_of_folder hpath.above.names hfolder hname,
    hadds.at?_append (List.cons_ne_nil name [])]
  cases folder.tree.at? (above ++ [name]) with
  | none => rfl
  | some entry => cases entry <;> rfl

/-- A file goes to a path where no folder is, if no file is in the way. No other file changes, and
    nothing at all where the file had this content before. -/
theorem write_of_free {above : List Text} {name : Text}
    (hpath : FilePath.Accepted ⟨full, above ++ [name]⟩) (hfree : folder.tree.Free above)
    (hplace : ∀ entries, folder.tree.at? (above ++ [name]) ≠ some (.folder entries)) (content : Text) :
    ∃ tree, folder.write ⟨full, above ++ [name]⟩ content = ({ folder with tree }, .ok ()) ∧
      (∀ other, tree.content? other =
        if other = above ++ [name] then some content else folder.tree.content? other) ∧
      (folder.tree.content? (above ++ [name]) = some content → tree = folder.tree) := by
  obtain ⟨tree, hadds, hwrite⟩ := write_eq_of_free hpath hfree content
  obtain ⟨entries, hfolder⟩ := hadds.exists_folder
  have hne : above ++ [name] ≠ [] := by simp
  have hbelow := hadds.at?_append (List.cons_ne_nil name [])
  refine ⟨tree.set (.file content) (above ++ [name]), ?_, fun other => ?_, fun hthere => ?_⟩
  · rw [hwrite]
    cases hat : folder.tree.at? (above ++ [name]) with
    | none => rfl
    | some entry =>
      cases entry with
      | file old => rfl
      | folder inner => exact absurd hat (hplace inner)
  · rw [← hadds.content?_eq]
    exact FileTree.content?_set_file hne (by rwa [List.dropLast_concat])
      (fun inner => hbelow ▸ hplace inner) content other
  · rw [FileTree.content?_eq_some_iff] at hthere
    obtain ⟨inner, houter⟩ := FileTree.exists_folder_of_at? (List.cons_ne_nil _ _) hthere
    rw [hadds.eq_of_at? houter]
    exact FileTree.set_eq_self hne hthere

end Workspace

end OpcodeAtlas
