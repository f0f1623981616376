import OpcodeAtlas.Listing.Extract
import OpcodeAtlas.Proofs.Cell
import OpcodeAtlas.Proofs.Text.Case

namespace OpcodeAtlas.Listing

/-- An opcode cell of the listing is a dollar sign and what is read as a byte. -/
theorem opcode_eq_ok_iff {cell : Text} {location? : Option Location} {value : Int} :
    opcode cell location? = .ok value ↔
      ∃ digits, cell = '$' :: digits ∧ Numeral.readInt? .hexadecimal digits = some value ∧
        0 ≤ value ∧ value ≤ 255 := by
  unfold opcode
  split
  · next digits => simp [Cell.byte_eq_ok_iff]
  · next hother =>
    refine iff_of_false nofun ?_
    rintro ⟨digits, hcell, -⟩
    exact hother digits hcell

/-- A row that is read has five columns and gives a variant that tells what they say. -/
theorem readRow_eq_ok_iff {line mnemonic : Text} {location? : Option Location}
    {variant : Variant} :
    readRow line mnemonic location? = .ok variant ↔
      ∃ modeCell sample opcodeCell sizeCell cyclesCell,
        (line.splitOn '|').map Text.trim =
            [modeCell, sample, opcodeCell, sizeCell, cyclesCell] ∧
          opcode opcodeCell location? = .ok variant.opcode ∧
          Cell.count "byte count" sizeCell location? = .ok variant.size ∧
          cycles cyclesCell location? = .ok variant.cycles ∧
          Cell.mode modeCell location? = .ok variant.mode ∧
          variant.mnemonic = mnemonic ∧ variant.cycleMode = cycleMode cyclesCell ∧
          variant.official = false ∧ variant.cycleNote = [] := by
  rw [readRow]
  split
  · next modeCell sample opcodeCell sizeCell cyclesCell hcells =>
    simp only [bind_eq_ok_iff]
    constructor
    · rintro ⟨opcode, hopcode, size, hsize, cycles, hcycles, mode, hmode, hvariant⟩
      obtain rfl := Except.ok.inj hvariant
      exact ⟨_, _, _, _, _, hcells, hopcode, hsize, hcycles, hmode, rfl, rfl, rfl, rfl⟩
    · rintro ⟨_, _, _, _, _, hcells', hopcode, hsize, hcycles, hmode, hmnemonic, hcycleMode,
        hofficial, hnote⟩
      rw [hcells] at hcells'
      obtain ⟨rfl, rfl, rfl, rfl, rfl⟩ : modeCell = _ ∧ sample = _ ∧ opcodeCell = _ ∧
        sizeCell = _ ∧ cyclesCell = _ := by simpa using hcells'
      refine ⟨_, hopcode, _, hsize, _, hcycles, _, hmode, ?_⟩
      rw [← hmnemonic, ← hcycleMode, ← hofficial, ← hnote]
      rfl
  · next hcells =>
    refine iff_of_false nofun ?_
    rintro ⟨_, _, _, _, _, hcells', -⟩
    exact hcells _ _ _ _ _ hcells'

/-- The name in the title of a section is bare, or the section is refused. -/
theorem isBareName_of_mnemonicOf {title name : Text} (hname : mnemonicOf title = .ok name) :
    IsBareName name := by
  rw [mnemonicOf] at hname
  split at hname
  · next hletters =>
    obtain rfl := Except.ok.inj hname
    rw [Bool.and_eq_true, Bool.not_eq_true', List.isEmpty_eq_false_iff, List.all_eq_true]
      at hletters
    exact ⟨hletters.1, hletters.2, Text.toUpper_toUpper _⟩
  · cases hname

/-- A section is read to the name in its title and to a variant of that name for each row. -/
theorem read_eq_ok_iff {part : Section} {mnemonic : Text} {variants : List Variant} :
    part.read = .ok (mnemonic, variants) ↔
      mnemonicOf part.title = .ok mnemonic ∧ ∃ rows, part.rows = .ok rows ∧
        (rows.zipIdx 1).mapM (fun (row, position) =>
          readRow row mnemonic ((locate part.title).atRow position)) = .ok variants := by
  rw [Section.read]
  simp only [bind_eq_ok_iff]
  constructor
  · rintro ⟨name, hname, rows, hrows, read, hread, hresult⟩
    obtain ⟨rfl, rfl⟩ := Prod.mk.inj (Except.ok.inj hresult)
    exact ⟨hname, rows, hrows, hread⟩
  · rintro ⟨hname, rows, hrows, hread⟩
    exact ⟨mnemonic, hname, rows, hrows, variants, hread, rfl⟩

/-- The variants of a section carry the name in its title. -/
theorem mem_of_read {part : Section} {mnemonic : Text} {variants : List Variant}
    (hread : part.read = .ok (mnemonic, variants)) {variant : Variant}
    (hvariant : variant ∈ variants) : variant.mnemonic = mnemonic ∧ variant.official = false := by
  obtain ⟨-, rows, -, hrows⟩ := read_eq_ok_iff.mp hread
  obtain ⟨row, -, hrow⟩ := exists_mem_of_mapM_eq_ok hrows hvariant
  obtain ⟨_, _, _, _, _, -, -, -, -, -, hmnemonic, -, hofficial, -⟩ := readRow_eq_ok_iff.mp hrow
  exact ⟨hmnemonic, hofficial⟩

/-- The outcome of an extraction without what it logs on the way. -/
theorem extract_outcome (document : Text) : (extract document).outcome = (do
    let sections ← sectionsOf document.lines
    if sections.isEmpty then .error ⟨.noSection, some { document := documentName }⟩
    else do
      let parts ← sections.mapM Section.read
      .ok { name := documentName, mnemonics := (parts.map Prod.fst).eraseDups,
            variants := parts.flatMap Prod.snd }) := by
  simp only [extract, apply_ite Logged.outcome, Logged.outcome_bind, Logged.outcome_lift,
    Logged.outcome_of, Logged.outcome_fail, Logged.outcome_pure, Logged.outcome_say,
    Logged.outcome_sayAll]
  rfl

/-- An extraction that succeeds reads one section after the other. -/
theorem extract_eq_ok_iff {document : Text} {source : Source} :
    (extract document).outcome = .ok source ↔
      ∃ sections parts, sectionsOf document.lines = .ok sections ∧ sections ≠ [] ∧
        sections.mapM Section.read = .ok parts ∧
        source = { name := documentName, mnemonics := (parts.map Prod.fst).eraseDups,
                   variants := parts.flatMap Prod.snd } := by
  rw [extract_outcome, bind_eq_ok_iff]
  constructor
  · rintro ⟨sections, hsections, hrest⟩
    split at hrest
    · cases hrest
    · next hnil =>
      obtain ⟨parts, hparts, hsource⟩ := bind_eq_ok_iff.mp hrest
      exact ⟨sections, parts, hsections, fun hempty => hnil (List.isEmpty_iff.mpr hempty), hparts,
        (Except.ok.inj hsource).symm⟩
  · rintro ⟨sections, parts, hsections, hne, hparts, rfl⟩
    refine ⟨sections, hsections, ?_⟩
    rw [if_neg (fun hempty => hne (List.isEmpty_iff.mp hempty))]
    exact bind_eq_ok_iff.mpr ⟨parts, hparts, rfl⟩

/-- Every name in a listing is bare, and every variant carries one of them. -/
theorem names_of_extract {document : Text} {source : Source}
    (hextract : (extract document).outcome = .ok source) :
    (∀ name ∈ source.mnemonics, IsBareName name) ∧
      ∀ variant ∈ source.variants, variant.mnemonic ∈ source.mnemonics ∧
        variant.official = false := by
  obtain ⟨sections, parts, -, -, hparts, rfl⟩ := extract_eq_ok_iff.mp hextract
  constructor
  · intro name hname
    obtain ⟨⟨mnemonic, variants⟩, hpart, rfl⟩ := List.mem_map.mp (List.mem_eraseDups.mp hname)
    obtain ⟨part, -, hread⟩ := exists_mem_of_mapM_eq_ok hparts hpart
    exact isBareName_of_mnemonicOf (read_eq_ok_iff.mp hread).1
  · intro variant hvariant
    obtain ⟨⟨mnemonic, variants⟩, hpart, hvariant⟩ := List.mem_flatMap.mp hvariant
    obtain ⟨part, -, hread⟩ := exists_mem_of_mapM_eq_ok hparts hpart
    obtain ⟨rfl, hofficial⟩ := mem_of_read hread hvariant
    exact ⟨List.mem_eraseDups.mpr (List.mem_map_of_mem hpart), hofficial⟩

end OpcodeAtlas.Listing
