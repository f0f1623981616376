import OpcodeAtlas.Session
import OpcodeAtlas.Proofs.Documents.Outcome
import OpcodeAtlas.Proofs.Workspace

namespace OpcodeAtlas

namespace Session

variable {reader : Markup.Reader} {reference listing : Reply} {folder : Workspace} {text : Text}

/-- Both documents arrive, and this module is made of them. -/
def Makes (reader : Markup.Reader) (reference listing : Reply) (text : Text) : Prop :=
  ∃ page listed table, (download referenceAddress timeout reference).outcome = .ok page ∧
    (download listingAddress timeout listing).outcome = .ok listed ∧
    (Documents.rustModule ⟨reader page, listed⟩).outcome = .ok (table, text)

/-- The module can be made, and there is room for it in the folder. -/
structure Completes (reader : Markup.Reader) (reference listing : Reply) (tree : FileTree)
    (text : Text) : Prop where
  makes : Makes reader reference listing text
  folder_free : tree.content? ["src"] = none
  place_free : ∀ entries, tree.at? modulePath.names ≠ some (.folder entries)

/-- What made a module once makes it again in the folder that the first run left. -/
theorem Completes.again (hcompletes : Completes reader reference listing folder.tree text)
    {tree : FileTree} (hcontent : ∀ path, tree.content? path =
      if path = modulePath.names then some text else folder.tree.content? path) :
    Completes reader reference listing tree text := by
  refine ⟨hcompletes.makes, ?_, fun entries hfolder => ?_⟩
  · rw [hcontent, if_neg (by decide)]
    exact hcompletes.folder_free
  · have hmodule := hcontent modulePath.names
    rw [if_pos rfl, FileTree.content?_eq_some_iff, hfolder] at hmodule
    cases hmodule

/-- Runs one after the other, each at its moment and in the folder that the run before it left. -/
def runs (reader : Markup.Reader) (reference listing : Reply) (folder : Workspace) :
    List Text → List Session
  | [] => []
  | moment :: later =>
    let session := run reader reference listing moment folder
    session :: runs reader reference listing session.folder later

end Session

end OpcodeAtlas
