import OpcodeAtlas.Proofs.Cell
import OpcodeAtlas.Reference.Extract

namespace OpcodeAtlas.Reference

open Markup (Node Start)

/-- In an opcode cell of the reference, the dollar signs in front are passed over. -/
theorem opcode_eq_ok_iff {cell : Text} {location? : Option Location} {value : Int} :
    opcode cell location? = .ok value ↔
      Numeral.readInt? .hexadecimal ((Text.trim cell).dropWhile (· == '$')) = some value ∧
        0 ≤ value ∧ value ≤ 255 :=
  Cell.byte_eq_ok_iff

/-- A row that is read has the four columns and gives a variant that tells what they say. -/
theorem readVariantRow_eq_ok_iff {row : Start} {mnemonic : Text} {location : Location}
    {variant : Variant} :
    readVariantRow row mnemonic location = .ok variant ↔
      ∃ modeCell opcodeCell sizeCell cyclesCell others,
        row.descendants "td" = modeCell :: opcodeCell :: sizeCell :: cyclesCell :: others ∧
          Cell.mode modeCell.innerText location = .ok variant.mode ∧
          opcode (cellText opcodeCell) location = .ok variant.opcode ∧
          Cell.count "byte count" (cellText sizeCell) location = .ok variant.size ∧
          Cell.count "cycle count" (countAndNote (cellText cyclesCell)).1 location =
            .ok variant.cycles ∧
          cycleMode variant.cycleNote location = .ok variant.cycleMode ∧
          variant.cycleNote = (countAndNote (cellText cyclesCell)).2 ∧
          variant.mnemonic = mnemonic ∧ variant.official = true := by
  rw [readVariantRow]
  split
  · next modeCell opcodeCell sizeCell cyclesCell others hcells =>
    simp only [bind_eq_ok_iff]
    constructor
    · rintro ⟨mode, hmode, opcode, hopcode, size, hsize, cycles, hcycles, cycleMode, hcycleMode,
        hvariant⟩
      obtain rfl := Except.ok.inj hvariant
      exact ⟨_, _, _, _, _, hcells, hmode, hopcode, hsize, hcycles, hcycleMode, rfl, rfl, rfl⟩
    · rintro ⟨_, _, _, _, _, hcells', hmode, hopcode, hsize, hcycles, hcycleMode, hnote, hmnemonic,
        hofficial⟩
      rw [hcells] at hcells'
      obtain ⟨rfl, rfl, rfl, rfl, rfl⟩ : modeCell = _ ∧ opcodeCell = _ ∧ sizeCell = _ ∧
        cyclesCell = _ ∧ others = _ := by simpa using hcells'
      rw [hnote] at hcycleMode
      refine ⟨_, hmode, _, hopcode, _, hsize, _, hcycles, _, hcycleMode, ?_⟩
      rw [← hmnemonic, ← hnote, ← hofficial]
      rfl
  · next hcells =>
    refine iff_of_false nofun ?_
    rintro ⟨_, _, _, _, _, hcells', -⟩
    exact hcells _ _ _ _ _ hcells'

/-- A variant table that is read gives a variant for each row behind its head. -/
theorem readVariantTable_eq_ok_iff {table : Start} {mnemonic : Text} {location : Location}
    {variants : List Variant} :
    readVariantTable table mnemonic location = .ok variants ↔
      (table.descendants "tr").drop 1 ≠ [] ∧
        (((table.descendants "tr").drop 1).zipIdx 1).mapM (fun (row, position) =>
          readVariantRow row mnemonic (location.atRow position)) = .ok variants := by
  rw [readVariantTable]
  split
  · next hrows => exact iff_of_false nofun fun hread => hread.1 hrows
  · next hrows => exact (and_iff_right hrows).symm

/-- An instruction is read from its two tables. -/
theorem readInstruction_eq_ok_iff {mnemonic : Text} {status variants : Start}
    {instruction : Instruction} :
    readInstruction mnemonic status variants = .ok instruction ↔
      readStatusTable status { document := documentName, part? := some mnemonic } =
          .ok instruction.flagEffects ∧
        readVariantTable variants mnemonic { document := documentName, part? := some mnemonic } =
          .ok instruction.variants ∧
        instruction.mnemonic = mnemonic := by
  rw [readInstruction]
  simp only [bind_eq_ok_iff]
  constructor
  · rintro ⟨flagEffects, hstatus, variants, hvariants, hinstruction⟩
    obtain rfl := Except.ok.inj hinstruction
    exact ⟨hstatus, hvariants, rfl⟩
  · rintro ⟨hstatus, hvariants, rfl⟩
    exact ⟨_, hstatus, _, hvariants, rfl⟩

/-- The variants of an instruction carry its name. -/
theorem mem_of_readInstruction {mnemonic : Text} {status variants : Start}
    {instruction : Instruction}
    (hread : readInstruction mnemonic status variants = .ok instruction) {variant : Variant}
    (hvariant : variant ∈ instruction.variants) :
    variant.mnemonic = mnemonic ∧ variant.official = true := by
  obtain ⟨-, hvariants, -⟩ := readInstruction_eq_ok_iff.mp hread
  obtain ⟨-, hrows⟩ := readVariantTable_eq_ok_iff.mp hvariants
  obtain ⟨row, -, hrow⟩ := exists_mem_of_mapM_eq_ok hrows hvariant
  obtain ⟨_, _, _, _, _, -, -, -, -, -, -, -, hmnemonic, hofficial⟩ :=
    readVariantRow_eq_ok_iff.mp hrow
  exact ⟨hmnemonic, hofficial⟩

/-- The names of the anchors of a page, as far as they have one. -/
def anchorNames (page : List Node) : List Text :=
  (anchors page).map fun anchor => Text.trim ((anchor.attribute? "name").getD [])

theorem anchorName_eq_ok_iff {anchor : Start} {position : Nat} {name : Text} :
    anchorName anchor position = .ok name ↔
      Text.trim ((anchor.attribute? "name").getD []) ≠ [] ∧
        name = Text.trim ((anchor.attribute? "name").getD []) := by
  rw [anchorName, Ne, Text.trim_eq_nil_iff]
  split
  · next hblank => exact iff_of_false nofun fun hname => hname.1 hblank
  · next hblank => rw [and_iff_right hblank, Except.ok.injEq, eq_comm]

/-- The mnemonics of a page are the names of its anchors, none of them empty. -/
theorem mnemonics_eq_ok_iff {page : List Node} {names : List Text} :
    mnemonics page = .ok names ↔ (∀ name ∈ anchorNames page, name ≠ []) ∧
      names = anchorNames page := by
  rw [mnemonics, mapM_zipIdx_eq_ok_iff fun _ _ _ => anchorName_eq_ok_iff, anchorNames,
    List.forall_mem_map]

theorem length_mnemonics {page : List Node} {names : List Text}
    (hnames : mnemonics page = .ok names) : names.length = (anchors page).length := by
  rw [(mnemonics_eq_ok_iff.mp hnames).2, anchorNames, List.length_map]

/-- The outcome of an extraction without what it logs on the way. -/
theorem extract_outcome (page : List Node) : (extract page).outcome = (do
    let names ← mnemonics page
    if names.isEmpty then .error ⟨.noAnchor, some { document := documentName }⟩
    else if (tables page).length ≠ 2 * names.length then
      .error ⟨.tableCount names.length (tables page).length, some { document := documentName }⟩
    else do
      let instructions ← (names.zip (pairs (tables page))).mapM
        fun (mnemonic, owned) => readInstruction mnemonic owned.1 owned.2
      .ok { name := documentName, mnemonics := names,
            variants := instructions.flatMap Instruction.variants, instructions }) := by
  simp only [extract, apply_ite Logged.outcome, Logged.outcome_bind, Logged.outcome_lift,
    Logged.outcome_of, Logged.outcome_fail, Logged.outcome_pure, Logged.outcome_say,
    Logged.outcome_sayAll]
  rfl

/-- An extraction that succeeds reads its instructions from the pairs of tables, in order. -/
theorem extract_eq_ok_iff {page : List Node} {source : Source} :
    (extract page).outcome = .ok source ↔
      ∃ names instructions, mnemonics page = .ok names ∧ names ≠ [] ∧
        (tables page).length = 2 * names.length ∧
        (names.zip (pairs (tables page))).mapM
          (fun (mnemonic, owned) => readInstruction mnemonic owned.1 owned.2) = .ok instructions ∧
        source = { name := documentName, mnemonics := names,
                   variants := instructions.flatMap Instruction.variants, instructions } := by
  rw [extract_outcome, bind_eq_ok_iff]
  constructor
  · rintro ⟨names, hnames, hrest⟩
    split_ifs at hrest with hnil hcount
    obtain ⟨instructions, hinstructions, hsource⟩ := bind_eq_ok_iff.mp hrest
    refine ⟨names, instructions, hnames, ?_, not_not.mp hcount, hinstructions, ?_⟩
    · exact fun hempty => hnil (List.isEmpty_iff.mpr hempty)
    · exact (Except.ok.inj hsource).symm
  · rintro ⟨names, instructions, hnames, hne, hcount, hinstructions, rfl⟩
    refine ⟨names, hnames, ?_⟩
    rw [if_neg (fun hempty => hne (List.isEmpty_iff.mp hempty)), if_neg (not_not.mpr hcount)]
    exact bind_eq_ok_iff.mpr ⟨instructions, hinstructions, rfl⟩

/-- The mnemonics of a page are the names of its anchors, and every variant carries one of them. -/
theorem names_of_extract {page : List Node} {source : Source}
    (hextract : (extract page).outcome = .ok source) :
    source.mnemonics = anchorNames page ∧ (∀ name ∈ source.mnemonics, name ≠ []) ∧
      ∀ variant ∈ source.variants, variant.mnemonic ∈ source.mnemonics ∧
        variant.official = true := by
  obtain ⟨names, instructions, hnames, -, -, hinstructions, rfl⟩ := extract_eq_ok_iff.mp hextract
  obtain ⟨hne, rfl⟩ := mnemonics_eq_ok_iff.mp hnames
  refine ⟨rfl, hne, fun variant hvariant => ?_⟩
  obtain ⟨instruction, hinstruction, hvariant⟩ := List.mem_flatMap.mp hvariant
  obtain ⟨⟨name, owned⟩, howned, hread⟩ := exists_mem_of_mapM_eq_ok hinstructions hinstruction
  obtain ⟨rfl, hofficial⟩ := mem_of_readInstruction hread hvariant
  exact ⟨(List.of_mem_zip howned).1, hofficial⟩

end OpcodeAtlas.Reference
