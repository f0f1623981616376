import OpcodeAtlas.Main
import OpcodeAtlas.Proofs.Listing.RoundTrip
import OpcodeAtlas.Proofs.Listing.Scan
import OpcodeAtlas.Proofs.Reference.Ownership
import OpcodeAtlas.Proofs.Table.Union
import OpcodeAtlas.Proofs.Table.Registry
import OpcodeAtlas.Proofs.Text.Case
import OpcodeAtlas.Proofs.Documents.Names
import OpcodeAtlas.Proofs.FileTree
import OpcodeAtlas.Proofs.Workspace
import OpcodeAtlas.Proofs.Session
import OpcodeAtlas.Proofs.RustModule.Dispatch
import OpcodeAtlas.Proofs.RustModule.TableLiteral
import OpcodeAtlas.Proofs.RustModule.Render
import OpcodeAtlas.Proofs.Table.Refusal
import OpcodeAtlas.Proofs.Documents.Outcome
import OpcodeAtlas.Proofs.Documents.Union
import OpcodeAtlas.Proofs.Documents.Rows
import OpcodeAtlas.Proofs.Documents.Entries
import OpcodeAtlas.Proofs.Text.Sign
import OpcodeAtlas.Proofs.Documents.Cycles
import OpcodeAtlas.Proofs.Table.Progress
import OpcodeAtlas.Proofs.Cell
import OpcodeAtlas.Proofs.Listing.FirstFault
import OpcodeAtlas.Proofs.Reference.FirstFault
import OpcodeAtlas.Proofs.Text.Words
import OpcodeAtlas.Proofs.Markup.Found
import OpcodeAtlas.Proofs.Reference.Layout
import OpcodeAtlas.Proofs.Reference.Printed
import OpcodeAtlas.Proofs.Reference.PrintedRow
import OpcodeAtlas.Proofs.Reference.RoundTrip
import OpcodeAtlas.Proofs.Table.Order
import OpcodeAtlas.Listing.Calls
import OpcodeAtlas.Proofs.Listing.Calls
import OpcodeAtlas.Proofs.Listing.Titles
import OpcodeAtlas.Proofs.Report.Stats
import OpcodeAtlas.Proofs.RustModule.Comment
import OpcodeAtlas.Proofs.Report.Calls
import OpcodeAtlas.Proofs.Documents.OpcodeCells
import OpcodeAtlas.Proofs.Text.DigitString
import OpcodeAtlas.Proofs.Documents.NumberCells
import OpcodeAtlas.Proofs.Reference.Spacing
import OpcodeAtlas.Proofs.Report.Rows
import OpcodeAtlas.Proofs.Writes
import OpcodeAtlas.Proofs.RustModule.Blocks
