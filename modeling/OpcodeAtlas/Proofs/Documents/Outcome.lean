import OpcodeAtlas.Documents
import OpcodeAtlas.Proofs.Listing.Calls
import OpcodeAtlas.Proofs.Listing.Reading
import OpcodeAtlas.Proofs.Reference.Reading
import OpcodeAtlas.Proofs.Table.Refusal

namespace OpcodeAtlas

namespace Documents

/-- A table is built exactly from two documents that can be read and whose sources can be
merged. -/
theorem table_eq_ok_iff {documents : Documents} {table : Table} {stats : Stats} :
    documents.table.outcome = .ok (table, stats) ↔
      ∃ official undocumented, (Reference.extract documents.page).outcome = .ok official ∧
        (Listing.extract documents.listing).outcome = .ok undocumented ∧
        (Table.merge [official, undocumented]).outcome = .ok table ∧
        stats = Stats.collect [official, undocumented] table := by
  rw [Documents.table]
  simp only [Logged.outcome_bind, Logged.outcome_pure, bind_eq_ok_iff]
  constructor
  · rintro ⟨official, hofficial, undocumented, hundocumented, merged, hmerge, hbuilt⟩
    obtain ⟨rfl, rfl⟩ := Prod.mk.inj (Except.ok.inj hbuilt)
    exact ⟨official, undocumented, hofficial, hundocumented, hmerge, rfl⟩
  · rintro ⟨official, undocumented, hofficial, hundocumented, hmerge, rfl⟩
    exact ⟨official, hofficial, undocumented, hundocumented, table, hmerge, rfl⟩

theorem rustModule_eq_ok_iff {documents : Documents} {table : Table} {text : Text} :
    documents.rustModule.outcome = .ok (table, text) ↔
      ∃ stats, documents.table.outcome = .ok (table, stats) ∧ RustModule.render table = .ok text := by
  simp only [rustModule, Logged.outcome_bind, bind_eq_ok_iff, Logged.outcome_of,
    Logged.outcome_pure, Except.ok.injEq, Prod.mk.injEq]
  constructor
  · rintro ⟨⟨_, stats⟩, htable, _, hrender, rfl, rfl⟩
    exact ⟨stats, htable, hrender⟩
  · rintro ⟨stats, htable, hrender⟩
    exact ⟨(table, stats), htable, text, hrender, rfl, rfl⟩

end Documents

/-- The documents are to blame for a fault: they are not laid out as they are read, they use a label
outside its vocabulary, or they claim an opcode twice. -/
def Fault.InDocuments (fault : Fault) : Prop :=
  fault.kind = .shape ∨ fault.kind = .label ∨ fault.kind = .collision

/-- If a stage fails, the documents are to blame. -/
def BlamesDocuments {α : Type} (outcome : Except Fault α) : Prop :=
  ∀ fault, outcome = .error fault → fault.InDocuments

namespace BlamesDocuments

variable {α β : Type}

theorem ok (value : α) : BlamesDocuments (.ok value) :=
  nofun

theorem error {fault : Fault} (hfault : fault.InDocuments) :
    BlamesDocuments (.error fault : Except Fault α) := by
  intro other herror
  exact Except.error.inj herror ▸ hfault

theorem bind {stage : Except Fault α} {next : α → Except Fault β} (hstage : BlamesDocuments stage)
    (hnext : ∀ value, BlamesDocuments (next value)) : BlamesDocuments (stage >>= next) := by
  intro fault herror
  obtain hfirst | ⟨value, -, hsecond⟩ := bind_eq_error_iff.mp herror
  · exact hstage fault hfirst
  · exact hnext value fault hsecond

theorem mapM {read : α → Except Fault β} {items : List α}
    (hread : ∀ item, BlamesDocuments (read item)) : BlamesDocuments (items.mapM read) := by
  intro fault herror
  obtain ⟨_, item, _, _, -, -, hitem⟩ := mapM_eq_error_iff.mp herror
  exact hread item fault hitem

theorem foldlM {step : β → α → Except Fault β} {items : List α} {start : β}
    (hstep : ∀ state item, BlamesDocuments (step state item)) :
    BlamesDocuments (items.foldlM step start) := by
  intro fault herror
  obtain ⟨_, item, _, state, -, -, hitem⟩ := foldlM_eq_error_iff.mp herror
  exact hstep state item fault hitem

end BlamesDocuments

namespace Cell

theorem mode_blamesDocuments (label : Text) (location? : Option Location) :
    BlamesDocuments (mode label location?) := by
  unfold mode
  split
  · exact .ok _
  · exact .error (Or.inr (Or.inl rfl))

theorem byte_blamesDocuments (cell digits : Text) (location? : Option Location) :
    BlamesDocuments (byte cell digits location?) := by
  unfold byte
  split
  · exact .error (Or.inl rfl)
  · split
    · exact .ok _
    · exact .error (Or.inl rfl)

theorem number_blamesDocuments (what cell digits : Text) (location? : Option Location) :
    BlamesDocuments (number what cell digits location?) := by
  unfold number
  split
  · exact .error (Or.inl rfl)
  · exact .ok _

end Cell

namespace Reference

open Markup (Node Start)

theorem cycleMode_blamesDocuments (note : Text) (location? : Option Location) :
    BlamesDocuments (cycleMode note location?) := by
  unfold cycleMode
  dsimp only
  split
  · exact .ok _
  · split
    · exact .ok _
    · exact .error (Or.inr (Or.inl rfl))

theorem readStatusRow_blamesDocuments (row : Start) (location : Location) :
    BlamesDocuments (readStatusRow row location) := by
  unfold readStatusRow
  split
  · exact .ok _
  · exact .error (Or.inl rfl)

theorem readVariantRow_blamesDocuments (row : Start) (mnemonic : Text) (location : Location) :
    BlamesDocuments (readVariantRow row mnemonic location) := by
  unfold readVariantRow
  split
  · refine .bind (Cell.mode_blamesDocuments _ _) fun _ => ?_
    refine .bind (Cell.byte_blamesDocuments _ _ _) fun _ => ?_
    refine .bind (Cell.number_blamesDocuments _ _ _ _) fun _ => ?_
    refine .bind (Cell.number_blamesDocuments _ _ _ _) fun _ => ?_
    exact .bind (cycleMode_blamesDocuments _ _) fun _ => .ok _
  · exact .error (Or.inl rfl)

theorem readVariantTable_blamesDocuments (table : Start) (mnemonic : Text) (location : Location) :
    BlamesDocuments (readVariantTable table mnemonic location) := by
  unfold readVariantTable
  split
  · exact .error (Or.inl rfl)
  · exact .mapM fun _ => readVariantRow_blamesDocuments _ _ _

theorem readInstruction_blamesDocuments (mnemonic : Text) (status variants : Start) :
    BlamesDocuments (readInstruction mnemonic status variants) := by
  refine .bind (.mapM fun _ => readStatusRow_blamesDocuments _ _) fun _ => ?_
  exact .bind (readVariantTable_blamesDocuments _ _ _) fun _ => .ok _

theorem mnemonics_blamesDocuments (page : List Node) : BlamesDocuments (mnemonics page) := by
  refine .mapM fun (anchor, position) => ?_
  unfold anchorName
  dsimp only
  split
  · exact .error (Or.inl rfl)
  · exact .ok _

theorem extract_blamesDocuments (page : List Node) : BlamesDocuments (extract page).outcome := by
  rw [extract_outcome]
  refine .bind (mnemonics_blamesDocuments page) fun names => ?_
  split_ifs
  · exact .error (Or.inl rfl)
  · exact .error (Or.inl rfl)
  · exact .bind (.mapM fun _ => readInstruction_blamesDocuments _ _ _) fun _ => .ok _

end Reference

namespace Listing

theorem advance_blamesDocuments (scanner : Scanner) (line : Text) :
    BlamesDocuments (scanner.advance line) := by
  intro fault herror
  obtain ⟨title, rfl⟩ := Scanner.exists_title_of_advance_eq_error herror
  exact Or.inl rfl

theorem cycles_blamesDocuments (cell : Text) (location? : Option Location) :
    BlamesDocuments (cycles cell location?) := by
  unfold cycles
  dsimp only
  split_ifs
  · exact .ok _
  · exact Cell.number_blamesDocuments _ _ _ _

theorem opcode_blamesDocuments (cell : Text) (location? : Option Location) :
    BlamesDocuments (opcode cell location?) := by
  unfold opcode
  split
  · exact Cell.byte_blamesDocuments _ _ _
  · exact .error (Or.inl rfl)

theorem readRow_blamesDocuments (line mnemonic : Text) (location? : Option Location) :
    BlamesDocuments (readRow line mnemonic location?) := by
  unfold readRow
  split
  · refine .bind (opcode_blamesDocuments _ _) fun _ => ?_
    refine .bind (Cell.number_blamesDocuments _ _ _ _) fun _ => ?_
    refine .bind (cycles_blamesDocuments _ _) fun _ => ?_
    exact .bind (Cell.mode_blamesDocuments _ _) fun _ => .ok _
  · exact .error (Or.inl rfl)

theorem mnemonicOf_blamesDocuments (title : Text) : BlamesDocuments (mnemonicOf title) := by
  unfold mnemonicOf
  dsimp only
  split
  · exact .ok _
  · exact .error (Or.inl rfl)

theorem rows_blamesDocuments (part : Section) : BlamesDocuments part.rows := by
  unfold Section.rows
  split
  · exact .error (Or.inl rfl)
  · split
    · exact .error (Or.inl rfl)
    · exact .ok _

theorem read_blamesDocuments (part : Section) : BlamesDocuments part.read := by
  refine .bind (mnemonicOf_blamesDocuments _) fun mnemonic => ?_
  refine .bind (rows_blamesDocuments part) fun rows => ?_
  exact .bind (.mapM fun _ => readRow_blamesDocuments _ _ _) fun _ => .ok _

theorem extract_blamesDocuments (document : Text) :
    BlamesDocuments (extract document).outcome := by
  rw [extract_outcome]
  refine .bind (.bind (.foldlM advance_blamesDocuments) fun _ => .ok _) fun sections => ?_
  split_ifs
  · exact .error (Or.inl rfl)
  · exact .bind (.mapM read_blamesDocuments) fun _ => .ok _

end Listing

theorem Table.merge_blamesDocuments (sources : List Source) :
    BlamesDocuments (merge sources).outcome := by
  intro fault herror
  obtain ⟨_, _, _, _, _, _, -, -, -, hrefusal⟩ | ⟨_, -, -, rfl⟩ := merge_eq_error_iff.mp herror
  · cases hrefusal with
    | size => exact Or.inl rfl
    | opcode => exact Or.inr (Or.inr rfl)
  · exact Or.inl rfl

theorem Documents.table_blamesDocuments (documents : Documents) :
    BlamesDocuments documents.table.outcome := by
  simp only [table, Logged.outcome_bind, Logged.outcome_pure]
  refine .bind (Reference.extract_blamesDocuments _) fun _ => ?_
  refine .bind (Listing.extract_blamesDocuments _) fun _ => ?_
  exact .bind (Table.merge_blamesDocuments _) fun _ => .ok _

end OpcodeAtlas
