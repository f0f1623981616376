import OpcodeAtlas.Fault
import OpcodeAtlas.OrderedMap

namespace OpcodeAtlas

/-- A file, or a folder with what it holds. -/
inductive FileEntry where
  | file (content : Text)
  | folder (entries : List (Text × FileEntry))

/-- The entries of a folder by name. -/
abbrev FileTree := List (Text × FileEntry)

namespace FileTree

/-- What a path of names leads to. The empty path leads to the folder itself. -/
def at? : List Text → FileTree → Option FileEntry
  | [], tree => some (.folder tree)
  | name :: rest, tree =>
    match tree.lookup name with
    | none => none
    | some (.file content) => if rest.isEmpty then some (.file content) else none
    | some (.folder entries) => at? rest entries

/-- The content of the file at a path of names. -/
def content? (path : List Text) (tree : FileTree) : Option Text :=
  match tree.at? path with
  | some (.file content) => some content
  | _ => none

/-- The tree with an entry put at a path of names. Where the names before the last do not lead to
    a folder there is no such place, and the tree stays as it is. -/
def set (entry : FileEntry) : List Text → FileTree → FileTree
  | [], tree => tree
  | [name], tree => OrderedMap.put name entry tree
  | name :: next :: rest, tree =>
    match tree.lookup name with
    | some (.folder entries) =>
      OrderedMap.put name (.folder (set entry (next :: rest) entries)) tree
    | _ => tree

/-- The longest name that a folder can hold, in bytes. -/
def nameLimit : Nat := 255

/-- The name that stands for the folder above. -/
def parentName : Text := ".."

/-- Follows names from a folder that is known to exist. Every one of them has to lead to a folder.
    The outermost folder is its own parent. -/
def follow (tree : FileTree) (current : List Text) : List Text → Except FileError (List Text)
  | [] => .ok current
  | name :: rest =>
    if name = parentName then follow tree current.dropLast rest
    else if nameLimit < name.byteLength then .error .nameTooLong
    else match tree.at? (current ++ [name]) with
      | none => .error .notFound
      | some (.file _) => .error .notFolder
      | some (.folder _) => follow tree (current ++ [name]) rest

/-- Where in the tree the last name of a path lies, with what is there now. The names before it
    have to lead to folders. -/
def locate (tree : FileTree) (above : List Text) (name : Text) :
    Except FileError (List Text × Option FileEntry) := do
  let above ← tree.follow [] above
  if name = parentName then return (above.dropLast, tree.at? above.dropLast)
  else if nameLimit < name.byteLength then .error .nameTooLong
  else return (above ++ [name], tree.at? (above ++ [name]))

/-- Adds an empty folder where nothing is. -/
def addFolder (tree : FileTree) (above : List Text) (name : Text) : Except FileError FileTree := do
  match ← tree.locate above name with
  | (_, some _) => .error .alreadyExists
  | (place, none) => return set (.folder []) place tree

/-- Gives a file its content, whether or not it exists. -/
def setFile (tree : FileTree) (path : List Text) (content : Text) : Except FileError FileTree := do
  match path.getLast? with
  | none => .error .isFolder
  | some name =>
    match ← tree.locate path.dropLast name with
    | (_, some (.folder _)) => .error .isFolder
    | (place, _) => return set (.file content) place tree

def isFolder (tree : FileTree) (path : List Text) : Bool :=
  (tree.follow [] path).isOk

end FileTree

mutual

/-- The files in an entry, each with the names that lead to it. -/
def FileEntry.files (path : List Text) : FileEntry → List (List Text × Text)
  | .file content => [(path, content)]
  | .folder entries => filesUnder path entries

/-- The files in the folder at a path. -/
def filesUnder (path : List Text) : List (Text × FileEntry) → List (List Text × Text)
  | [] => []
  | (name, entry) :: rest => entry.files (path ++ [name]) ++ filesUnder path rest

end

end OpcodeAtlas
