import OpcodeAtlas.Markup.Read
import OpcodeAtlas.Session
import Std.Time.Format

namespace OpcodeAtlas.Main

/-- A document that was fetched beforehand. -/
def readReply (file : String) : IO Reply := do
  try
    return .answered 200 "OK" (← IO.FS.readFile file).toList
  catch refusal =>
    return .failed refusal.toString.toList

/-- The part of the working folder that a session touches. -/
def readFolder : IO Workspace := do
  let here ← IO.currentDir
  let entry? (path) (entries : FileTree) : IO (Option FileEntry) := do
    if ← path.isDir then return some (.folder entries)
    else if ← path.pathExists then return some (.file (← IO.FS.readFile path).toList)
    else return none
  let target := here / "src" / "opscodes.rs"
  let inner := (← entry? target []).toList.map fun entry => ("opscodes.rs".toList, entry)
  let outer := (← entry? (here / "src") inner).toList.map fun entry => ("src".toList, entry)
  return { name := here.toString.toList, tree := outer }

def storeModule (folder : Workspace) : IO Unit := do
  if let some content := folder.tree.content? Session.modulePath.names then
    IO.FS.createDirAll "src"
    IO.FS.writeFile "src/opscodes.rs" (String.ofList content)

end OpcodeAtlas.Main

open OpcodeAtlas in
/-- Builds the module from the two documents in the given files: first the reference page, then
    the listing of undocumented opcodes. -/
def main (files : List String) : IO UInt32 := do
  match files with
  | [reference, listing] =>
    let moment := (← Std.Time.PlainDateTime.now).format "uuuu-MM-dd HH:mm:ss"
    let session := Session.run Markup.readPage (← Main.readReply reference)
      (← Main.readReply listing) moment.toList (← Main.readFolder)
    if session.succeeded then Main.storeModule session.folder
    IO.print (String.ofList (Logged.transcript session.printed))
    return if session.succeeded then 0 else 1
  | _ =>
    IO.eprintln "usage: opcode-atlas REFERENCE LISTING"
    return 2
