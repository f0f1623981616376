import OpcodeAtlas.Documents
import OpcodeAtlas.Download
import OpcodeAtlas.Report.Render
import OpcodeAtlas.Workspace

namespace OpcodeAtlas

/-- One run of the generator in a working folder: what it prints, how it exits and what it leaves
    behind. -/
structure Session where
  printed : List Text
  succeeded : Bool
  folder : Workspace

namespace Session

def referenceAddress : Text := "https://www.nesdev.org/obelisk-6502-guide/reference.html"

def listingAddress : Text := "https://www.nesdev.org/undocumented_opcodes.txt"

/-- How long to wait for a document. -/
def timeout : Seconds := { units := 60 }

/-- Where the module goes, from the working folder. -/
def modulePath : FilePath := { names := ["src", "opscodes.rs"] }

/-- Fetches both documents and builds the table. -/
def gather (reader : Markup.Reader) (reference listing : Reply) : Logged (Table × Stats) := do
  let page ← download referenceAddress timeout reference
  let listing ← download listingAddress timeout listing
  Documents.table ⟨reader page, listing⟩

/-- Renders the module and stores it. Nothing is stored unless all of it could be rendered. -/
def store (folder : Workspace) (table : Table) : Workspace × Except Fault Unit :=
  match RustModule.render table with
  | .error fault => (folder, .error fault)
  | .ok text => folder.write modulePath text

/-- A session that ends with a fault after what was printed so far. -/
def failed (printed : List Text) (folder : Workspace) (fault : Fault) : Session :=
  ⟨printed ++ ["✗ " ++ fault.text], false, folder⟩

/-- A whole run, given how pages are read, what the addresses answer and the moment for the
    report. -/
def run (reader : Markup.Reader) (reference listing : Reply) (moment : Text) (folder : Workspace) :
    Session :=
  let opening := banner "6502 OPCODE TABLE GENERATOR" ++ [[]]
  let gathered := gather reader reference listing
  let printed := opening ++ gathered.log
  match gathered.outcome with
  | .error fault => failed printed folder fault
  | .ok (table, stats) =>
    let printed := printed ++ [] :: banner "GENERATING OUTPUTS"
    match store folder table with
    | (folder, .error fault) => failed printed folder fault
    | (folder, .ok ()) =>
      let target := folder.pathText modulePath
      ⟨printed ++ ["✓ Wrote " ++ Numeral.ofNat table.size ++ " opcodes to " ++ target, [],
          Report.render stats table moment, []] ++
        banner "EXTRACTION COMPLETE" ++ ["Output file: " ++ target], true, folder⟩

end Session

end OpcodeAtlas
