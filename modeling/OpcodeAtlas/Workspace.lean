import OpcodeAtlas.FileTree

namespace OpcodeAtlas

/-- A path from the working folder. A full path is written with the name of that folder in
    front. -/
structure FilePath where
  full : Bool := true
  names : List Text

namespace FilePath

/-- The names in a written path. Doubled slashes and the name of the folder itself are skipped. -/
def namesOf (text : Text) : List Text :=
  (text.splitOn '/').filter fun name => !name.isEmpty && name != ['.']

end FilePath

/-- The folder that a run works in. -/
structure Workspace where
  /-- The folder as messages write it. -/
  name : Text
  tree : FileTree := []

namespace Workspace

def pathText (folder : Workspace) (path : FilePath) : Text :=
  if path.full then Text.join ['/'] (folder.name :: path.names)
  else if path.names.isEmpty then "." else Text.join ['/'] path.names

/-- The files in the folder, each with the names that lead to it. -/
def files (folder : Workspace) : List (List Text × Text) :=
  filesUnder [] folder.tree

/-- The longest path from the working folder that a file operation accepts, in bytes. -/
def pathLimit : Nat := 4095

def fits (path : FilePath) : Bool :=
  decide ((Text.join ['/'] path.names).byteLength ≤ pathLimit)

/-- Adds a folder, given its names in reverse. A missing folder above it is added first. A folder
    that exists is left alone. Folders that were added stay when a later step is refused; the
    refusal names the folder it is about. -/
def addFolders (folder : Workspace) (full : Bool) :
    List Text → Workspace × Except (FileError × FilePath) Unit
  | [] => (folder, .ok ())
  | name :: above =>
    let path : FilePath := ⟨full, (name :: above).reverse⟩
    let attempt (folder : Workspace) : Except FileError Workspace :=
      if !fits path then .error .nameTooLong
      else (folder.tree.addFolder above.reverse name).map fun tree => { folder with tree }
    let settle (folder : Workspace) (error : FileError) :
        Workspace × Except (FileError × FilePath) Unit :=
      if error = .alreadyExists && folder.tree.isFolder path.names then (folder, .ok ())
      else (folder, .error (error, path))
    match attempt folder with
    | .ok folder => (folder, .ok ())
    | .error .notFound =>
      match addFolders folder full above with
      | (folder, .error refusal) => (folder, .error refusal)
      | (folder, .ok ()) =>
        match attempt folder with
        | .ok folder => (folder, .ok ())
        | .error error => settle folder error
    | .error error => settle folder error

/-- Writes a file and the folders above it that are missing. -/
def write (folder : Workspace) (path : FilePath) (content : Text) : Workspace × Except Fault Unit :=
  let refuse (folder : Workspace) (error : FileError) (refused : FilePath) :
      Workspace × Except Fault Unit :=
    (folder, .error
      ⟨.unwritable (folder.pathText path) error (folder.pathText refused), none⟩)
  match addFolders folder path.full (path.names.reverse.drop 1) with
  | (folder, .error (error, refused)) => refuse folder error refused
  | (folder, .ok ()) =>
    if !fits path then refuse folder .nameTooLong path
    else match folder.tree.setFile path.names content with
      | .error error => refuse folder error path
      | .ok tree => ({ folder with tree }, .ok ())

/-- Writes one file after the other, up to the first that is refused. -/
def writeAll (folder : Workspace) : List (FilePath × Text) → Workspace × Except Fault Unit
  | [] => (folder, .ok ())
  | (path, content) :: rest =>
    match folder.write path content with
    | (folder, .error fault) => (folder, .error fault)
    | (folder, .ok ()) => writeAll folder rest

end Workspace

end OpcodeAtlas
