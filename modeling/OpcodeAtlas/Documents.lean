import OpcodeAtlas.Listing.Extract
import OpcodeAtlas.Reference.Extract
import OpcodeAtlas.Report.Stats
import OpcodeAtlas.RustModule
import OpcodeAtlas.Table.Merge

namespace OpcodeAtlas

/-- The two documents that a table is built from. -/
structure Documents where
  /-- The reference page of the official opcodes. -/
  page : List Markup.Node
  /-- The listing of the undocumented opcodes. -/
  listing : Text

namespace Documents

/-- The table of both documents, official opcodes first, and the counts over them. -/
def table (documents : Documents) : Logged (Table × Stats) := do
  let official ← Reference.extract documents.page
  let undocumented ← Listing.extract documents.listing
  let sources := [official, undocumented]
  let table ← Table.merge sources
  return (table, Stats.collect sources table)

/-- The table of both documents and the module that holds it. -/
def rustModule (documents : Documents) : Logged (Table × Text) := do
  let (table, _) ← documents.table
  let text ← Logged.of (RustModule.render table)
  return (table, text)

end Documents

end OpcodeAtlas
