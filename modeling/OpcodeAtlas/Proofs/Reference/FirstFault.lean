import OpcodeAtlas.Proofs.Cell
import OpcodeAtlas.Proofs.Reference.Ownership

namespace OpcodeAtlas.Reference

open Markup (Node Start)

/-- What starts later than the first anchor. -/
def startsBehind (page : List Node) : List (Start × Nat) :=
  (placed page).filter fun start => (placedAnchors page).head?.any (·.2 < start.2)

/-- The tables that start later than the first anchor. -/
def tablesBehind (page : List Node) : List Start :=
  ((startsBehind page).map Prod.fst).filter (·.tag = "table")

/-- The part of the page that is about an instruction. -/
def locate (mnemonic : Text) : Location :=
  { document := documentName, part? := some mnemonic }

/-- What an instruction is read from. -/
structure Entry where
  mnemonic : Text
  status : Start
  variants : Start

/-- The entry of an index has the name of the anchor of that index. Its tables are the one at twice
the index and the next. -/
structure Entry.At (page : List Node) (index : Nat) (entry : Entry) : Prop where
  mnemonic : (anchorNames page)[index]? = some entry.mnemonic
  status : (tables page)[2 * index]? = some entry.status
  variants : (tables page)[2 * index + 1]? = some entry.variants

/-- A row of a status table shows a flag in its first cell and the effect on it in its third. -/
def Shows (row : Start) (effect : Text × Text) : Prop :=
  ∃ flag name shown others, row.descendants "td" = flag :: name :: shown :: others ∧
    effect = (cellText flag, cellText shown)

/-- A row of a variant table says the same of an instruction wherever it stands. -/
def Says (mnemonic : Text) (row : Start) (variant : Variant) : Prop :=
  ∀ location, readVariantRow row mnemonic location = .ok variant

/-- An entry has nothing wrong with it. -/
structure Entry.Readable (entry : Entry) : Prop where
  effects : ∀ row ∈ entry.status.descendants "tr", 3 ≤ (row.descendants "td").length
  rows : 2 ≤ (entry.variants.descendants "tr").length
  variants : ∀ row ∈ (entry.variants.descendants "tr").drop 1,
    ∃ variant, Says entry.mnemonic row variant

/-- The instruction has an effect for each row of the status table and a variant for each row of the
variant table but the first. -/
structure Entry.Gives (entry : Entry) (instruction : Instruction) : Prop where
  mnemonic : instruction.mnemonic = entry.mnemonic
  flagEffects : List.Forall₂ Shows (entry.status.descendants "tr") instruction.flagEffects
  variants : List.Forall₂ (Says entry.mnemonic) ((entry.variants.descendants "tr").drop 1)
    instruction.variants

/-- What is wrong with an entry. The variant table counts only if the status table can be read, and
a row only if those before it can be. -/
inductive Entry.Fails (entry : Entry) : Fault → Prop where
  | effect {index : Nat} {row : Start}
      (hrow : (entry.status.descendants "tr")[index]? = some row)
      (hearlier : ∀ j < index, ∀ earlier, (entry.status.descendants "tr")[j]? = some earlier →
        3 ≤ (earlier.descendants "td").length)
      (hcells : (row.descendants "td").length < 3) :
    Fails entry ⟨.fewCells .status (row.descendants "td").length,
      some ((locate entry.mnemonic).atRow (index + 1 : Nat))⟩
  | rows
      (heffects : ∀ row ∈ entry.status.descendants "tr", 3 ≤ (row.descendants "td").length)
      (hrows : (entry.variants.descendants "tr").length < 2) :
    Fails entry ⟨.noVariantRow, some (locate entry.mnemonic)⟩
  | variant {index : Nat} {row : Start} {fault : Fault}
      (heffects : ∀ row ∈ entry.status.descendants "tr", 3 ≤ (row.descendants "td").length)
      (hrow : (entry.variants.descendants "tr")[index + 1]? = some row)
      (hearlier : ∀ j < index, ∀ earlier,
        (entry.variants.descendants "tr")[j + 1]? = some earlier →
          ∃ variant, Says entry.mnemonic earlier variant)
      (hread : readVariantRow row entry.mnemonic
        ((locate entry.mnemonic).atRow (index + 1 : Nat)) = .error fault)
      (hplace : fault.location? = some ((locate entry.mnemonic).atRow (index + 1 : Nat))) :
    Fails entry fault

/-- The page has instructions with names, and two tables for each of them. -/
structure Fits (page : List Node) : Prop where
  anchored : anchors page ≠ []
  named : ∀ anchor ∈ anchors page,
    ∃ name, anchor.attribute? "name" = some name ∧ name.isAllBlank = false
  counted : (tables page).length = 2 * (anchors page).length

/-- In an order, what lies behind the first item of a kind is what comes later than it. -/
theorem filter_dropWhile_eq {α : Type} {p q : α → Bool} {before : α → α → Bool}
    (hexclusive : ∀ item, p item = true → q item = false) {items : List α}
    (hsorted : items.Pairwise fun item later => before item later = true ∧
      before later item = false) :
    (items.dropWhile (!p ·)).filter q =
      (items.filter fun item => (items.find? p).any (before · item)).filter q := by
  rw [List.filter_filter]
  induction items with
  | nil => rfl
  | cons head rest ih =>
    obtain ⟨hhead, hrest⟩ := List.pairwise_cons.mp hsorted
    cases hfirst : p head with
    | true =>
      have hlater : rest.filter (fun item => q item && before head item) = rest.filter q :=
        List.filter_congr fun item hitem => by rw [(hhead item hitem).1, Bool.and_true]
      simp [hfirst, hexclusive head hfirst, hlater]
    | false =>
      -- The first item of the kind comes later, and so the head is dropped on both sides.
      have hnone : (rest.find? p).any (before · head) = false := by
        cases hfound : rest.find? p with
        | none => rfl
        | some first => exact (hhead first (List.mem_of_find?_eq_some hfound)).2
      simp [hfirst, hnone, ih hrest]

theorem tables_eq_tablesBehind (page : List Node) : tables page = tablesBehind page := by
  have hexclusive : ∀ start : Start × Nat, isMnemonicAnchor start.1 = true →
      decide (start.1.tag = "table") = false := by
    intro start hanchor
    rw [isMnemonicAnchor, decide_eq_true_eq] at hanchor
    rw [hanchor.2]
    decide
  have hsorted : (placed page).Pairwise fun start later =>
      decide (start.2 < later.2) = true ∧ decide (later.2 < start.2) = false := by
    refine (pairwise_placed page).imp fun hlt => ?_
    exact ⟨decide_eq_true hlt, decide_eq_false (Nat.lt_asymm hlt)⟩
  rw [← map_fst_placedTables, placedTables, filter_dropWhile_eq hexclusive hsorted, tablesBehind,
    startsBehind, placedAnchors, List.head?_filter, List.filter_map]
  rfl

theorem cycleMode_located (note : Text) :
    Located fun location => cycleMode note (some location) := by
  unfold cycleMode
  dsimp only
  split_ifs
  · exact .ok _
  · split
    · exact .ok _
    · exact .error _

theorem readVariantRow_located (row : Start) (mnemonic : Text) :
    Located (readVariantRow row mnemonic) := by
  unfold readVariantRow
  match row.descendants "td" with
  | modeCell :: opcodeCell :: sizeCell :: cyclesCell :: _ =>
    refine .bind (Cell.mode_located _) fun _ => ?_
    refine .bind (Cell.byte_located _ _) fun _ => ?_
    refine .bind (Cell.number_located _ _ _) fun _ => ?_
    refine .bind (Cell.number_located _ _ _) fun _ => ?_
    exact .bind (cycleMode_located _) fun _ => .ok _
  | [] | [_] | [_, _] | [_, _, _] => exact .error _

theorem readStatusRow_eq_ok_iff {row : Start} {location : Location} {effect : Text × Text} :
    readStatusRow row location = .ok effect ↔ Shows row effect := by
  unfold readStatusRow Shows
  split
  · next flag name shown others hcells =>
    rw [hcells, Except.ok.injEq]
    constructor
    · rintro rfl
      exact ⟨flag, name, shown, others, rfl, rfl⟩
    · rintro ⟨_, _, _, _, heq, rfl⟩
      cases heq
      rfl
  · next hcells =>
    refine iff_of_false nofun ?_
    rintro ⟨_, _, _, _, heq, -⟩
    exact hcells _ _ _ _ heq

/-- A row of a status table needs three cells. -/
theorem readStatusRow_cases (row : Start) (location : Location) :
    (3 ≤ (row.descendants "td").length ∧ ∃ effect, readStatusRow row location = .ok effect) ∨
      ((row.descendants "td").length < 3 ∧ readStatusRow row location =
        .error ⟨.fewCells .status (row.descendants "td").length, some location⟩) := by
  unfold readStatusRow
  generalize row.descendants "td" = cells
  match cells with
  | [] | [_] | [_, _] => exact Or.inr ⟨by simp, rfl⟩
  | _ :: _ :: _ :: others => exact Or.inl ⟨Nat.le_add_left 3 others.length, _, rfl⟩

theorem exists_readStatusRow_iff {row : Start} {location : Location} :
    (∃ effect, readStatusRow row location = .ok effect) ↔ 3 ≤ (row.descendants "td").length := by
  obtain ⟨hcells, hread⟩ | ⟨hcells, hread⟩ := readStatusRow_cases row location
  · exact iff_of_true hread hcells
  · rw [hread]
    exact iff_of_false nofun (Nat.not_le.mpr hcells)

theorem readStatusRow_eq_error_iff {row : Start} {location : Location} {fault : Fault} :
    readStatusRow row location = .error fault ↔ (row.descendants "td").length < 3 ∧
      fault = ⟨.fewCells .status (row.descendants "td").length, some location⟩ := by
  obtain ⟨hcells, effect, hread⟩ | ⟨hcells, hread⟩ := readStatusRow_cases row location
  · rw [hread]
    exact iff_of_false nofun fun hfew => absurd hfew.1 (Nat.not_lt.mpr hcells)
  · rw [hread, Except.error.injEq, and_iff_right hcells]
    exact eq_comm

/-- A variant table needs a row behind its first one. -/
theorem readVariantTable_eq_error_iff {table : Start} {mnemonic : Text} {location : Location}
    {fault : Fault} :
    readVariantTable table mnemonic location = .error fault ↔
      ((table.descendants "tr").length < 2 ∧ fault = ⟨.noVariantRow, some location⟩) ∨
        (((table.descendants "tr").drop 1).zipIdx 1).mapM (fun (row, position) =>
          readVariantRow row mnemonic (location.atRow position)) = .error fault := by
  rw [readVariantTable]
  split
  · next hrows =>
    have hfew : (table.descendants "tr").length < 2 := by
      have hle := List.drop_eq_nil_iff.mp hrows
      omega
    rw [hrows, Except.error.injEq, and_iff_right hfew]
    refine eq_comm.trans (or_iff_left fun hok => ?_).symm
    cases hok
  · next hrows =>
    have henough : ¬(table.descendants "tr").length < 2 :=
      fun hfew => hrows (List.drop_eq_nil_iff.mpr (by omega))
    exact (or_iff_right fun hleft => henough hleft.1).symm

theorem says_of_read {row : Start} {mnemonic : Text} {location : Location} {variant : Variant}
    (hread : readVariantRow row mnemonic location = .ok variant) : Says mnemonic row variant :=
  (readVariantRow_located row mnemonic).ok_anywhere hread

theorem exists_readVariantRow_iff {row : Start} {mnemonic : Text} {location : Location} :
    (∃ variant, readVariantRow row mnemonic location = .ok variant) ↔
      ∃ variant, Says mnemonic row variant :=
  exists_congr fun _ => ⟨says_of_read, fun hsays => hsays location⟩

theorem exists_readStatusTable_iff {table : Start} {location : Location} :
    (∃ effects, readStatusTable table location = .ok effects) ↔
      ∀ row ∈ table.descendants "tr", 3 ≤ (row.descendants "td").length :=
  exists_mapM_zipIdx_eq_ok_iff_forall fun _ _ => exists_readStatusRow_iff

theorem exists_readVariantTable_iff {table : Start} {mnemonic : Text} {location : Location} :
    (∃ variants, readVariantTable table mnemonic location = .ok variants) ↔
      2 ≤ (table.descendants "tr").length ∧
        ∀ row ∈ (table.descendants "tr").drop 1, ∃ variant, Says mnemonic row variant := by
  simp only [readVariantTable_eq_ok_iff, exists_and_left]
  rw [exists_mapM_zipIdx_eq_ok_iff_forall (p := fun row => ∃ variant, Says mnemonic row variant)
    fun _ _ => exists_readVariantRow_iff, Ne, List.drop_eq_nil_iff, Nat.not_le, Nat.succ_le_iff]

namespace Entry

/-- What an entry is read as. -/
def read (entry : Entry) : Except Fault Instruction :=
  readInstruction entry.mnemonic entry.status entry.variants

theorem gives_of_read {entry : Entry} {instruction : Instruction}
    (hread : entry.read = .ok instruction) : entry.Gives instruction := by
  obtain ⟨heffects, hvariants, hmnemonic⟩ := readInstruction_eq_ok_iff.mp hread
  obtain ⟨-, hvariants⟩ := readVariantTable_eq_ok_iff.mp hvariants
  refine ⟨hmnemonic, ?_, ?_⟩
  · have hshown := forall₂_map_of_mapM_eq_ok (g := Prod.fst) (R := Shows)
      (fun _ _ => readStatusRow_eq_ok_iff.mp) heffects
    rwa [List.zipIdx_map_fst] at hshown
  · have hsaid := forall₂_map_of_mapM_eq_ok (g := Prod.fst) (R := Says entry.mnemonic)
      (fun _ _ => says_of_read) hvariants
    rwa [List.zipIdx_map_fst] at hsaid

theorem exists_read_iff {entry : Entry} :
    (∃ instruction, entry.read = .ok instruction) ↔ entry.Readable := by
  constructor
  · rintro ⟨instruction, hread⟩
    obtain ⟨heffects, hvariants, -⟩ := readInstruction_eq_ok_iff.mp hread
    obtain ⟨hrows, hsays⟩ := exists_readVariantTable_iff.mp ⟨_, hvariants⟩
    exact ⟨exists_readStatusTable_iff.mp ⟨_, heffects⟩, hrows, hsays⟩
  · rintro ⟨hcells, hrows, hsays⟩
    obtain ⟨flagEffects, heffects⟩ := exists_readStatusTable_iff.mpr hcells
    obtain ⟨variants, hvariants⟩ := exists_readVariantTable_iff.mpr ⟨hrows, hsays⟩
    exact ⟨⟨entry.mnemonic, flagEffects, variants⟩,
      readInstruction_eq_ok_iff.mpr ⟨heffects, hvariants, rfl⟩⟩

theorem read_eq_error_iff {entry : Entry} {fault : Fault} :
    entry.read = .error fault ↔ entry.Fails fault := by
  have hcases : entry.read = .error fault ↔
      readStatusTable entry.status (locate entry.mnemonic) = .error fault ∨
        (∃ effects, readStatusTable entry.status (locate entry.mnemonic) = .ok effects) ∧
          readVariantTable entry.variants entry.mnemonic (locate entry.mnemonic) =
            .error fault := by
    rw [read, readInstruction, bind_eq_error_iff]
    refine or_congr_right ?_
    simp only [bind_eq_error_iff]
    constructor
    · rintro ⟨effects, heffects, hvariants | ⟨_, -, hpure⟩⟩
      · exact ⟨⟨effects, heffects⟩, hvariants⟩
      · cases hpure
    · rintro ⟨⟨effects, heffects⟩, hvariants⟩
      exact ⟨effects, heffects, Or.inl hvariants⟩
  rw [hcases, exists_readStatusTable_iff, readVariantTable_eq_error_iff, readStatusTable]
  simp only [mapM_zipIdx_eq_error_iff, readStatusRow_eq_error_iff, exists_readStatusRow_iff,
    exists_readVariantRow_iff, List.getElem?_drop, Nat.add_comm 1]
  constructor
  · rintro (⟨index, row, hrow, ⟨hcells, rfl⟩, hearlier⟩ | ⟨heffects, ⟨hrows, rfl⟩ |
      ⟨index, row, hrow, hread, hearlier⟩⟩)
    · exact .effect hrow hearlier hcells
    · exact .rows heffects hrows
    · exact .variant heffects hrow hearlier hread
        ((readVariantRow_located row entry.mnemonic).location?_eq hread)
  · intro hfails
    cases hfails with
    | effect hrow hearlier hcells => exact Or.inl ⟨_, _, hrow, ⟨hcells, rfl⟩, hearlier⟩
    | rows heffects hrows => exact Or.inr ⟨heffects, Or.inl ⟨hrows, rfl⟩⟩
    | variant heffects hrow hearlier hread _ =>
      exact Or.inr ⟨heffects, Or.inr ⟨_, _, hrow, hread, hearlier⟩⟩

end Entry

/-- The entries of a page, in the order of its anchors. -/
def entries (page : List Node) : List Entry :=
  ((anchorNames page).zip (pairs (tables page))).map fun (mnemonic, owned) =>
    ⟨mnemonic, owned.1, owned.2⟩

theorem getElem?_entries {page : List Node} {index : Nat} {entry : Entry} :
    (entries page)[index]? = some entry ↔ Entry.At page index entry := by
  rw [entries, List.getElem?_map, Option.map_eq_some_iff]
  constructor
  · rintro ⟨⟨mnemonic, status, variants⟩, howned, rfl⟩
    obtain ⟨hmnemonic, hpair⟩ := List.getElem?_zip_eq_some.mp howned
    obtain ⟨hstatus, hvariants⟩ := (getElem?_pairs _ _).mp hpair
    exact ⟨hmnemonic, hstatus, hvariants⟩
  · rintro ⟨hmnemonic, hstatus, hvariants⟩
    have hpair := (getElem?_pairs _ _).mpr ⟨hstatus, hvariants⟩
    exact ⟨(entry.mnemonic, entry.status, entry.variants),
      List.getElem?_zip_eq_some.mpr ⟨hmnemonic, hpair⟩, rfl⟩

theorem length_entries {page : List Node} (hfits : Fits page) :
    (entries page).length = (anchors page).length := by
  rw [entries, List.length_map, List.length_zip, anchorNames, List.length_map, length_pairs,
    hfits.counted]
  omega

theorem named_iff {page : List Node} :
    (∀ anchor ∈ anchors page, ∃ name, anchor.attribute? "name" = some name ∧
      name.isAllBlank = false) ↔ ∀ name ∈ anchorNames page, name ≠ [] := by
  rw [anchorNames, List.forall_mem_map]
  refine forall₂_congr fun anchor _ => ?_
  rw [Ne, Text.trim_eq_nil_iff, Bool.not_eq_true]
  cases anchor.attribute? "name" with
  | none =>
    refine iff_of_false ?_ (by decide)
    rintro ⟨_, hnone, -⟩
    cases hnone
  | some name => simp

/-- A page that fits is read entry by entry. -/
theorem extract_outcome_of_fits {page : List Node} (hfits : Fits page) :
    (extract page).outcome = (do
      let instructions ← (entries page).mapM Entry.read
      .ok { name := documentName, mnemonics := anchorNames page,
            variants := instructions.flatMap Instruction.variants, instructions }) := by
  have hnames : mnemonics page = .ok (anchorNames page) :=
    mnemonics_eq_ok_iff.mpr ⟨named_iff.mp hfits.named, rfl⟩
  have hlength := length_mnemonics hnames
  have hanchored : ¬(anchorNames page).isEmpty = true := by
    rw [List.isEmpty_iff, ← List.length_eq_zero_iff, hlength, List.length_eq_zero_iff]
    exact hfits.anchored
  rw [extract_outcome, hnames, entries, List.mapM_map]
  change (if (anchorNames page).isEmpty = true then _ else _) = _
  rw [if_neg hanchored, if_neg (not_not.mpr (hlength ▸ hfits.counted))]
  rfl

theorem fits_of_extract {page : List Node} {source : Source}
    (hextract : (extract page).outcome = .ok source) : Fits page := by
  obtain ⟨names, -, hnames, hne, hcounted, -, -⟩ := extract_eq_ok_iff.mp hextract
  have hlength := length_mnemonics hnames
  obtain ⟨hnamed, -⟩ := mnemonics_eq_ok_iff.mp hnames
  refine ⟨?_, named_iff.mpr hnamed, hlength ▸ hcounted⟩
  rw [Ne, ← List.length_eq_zero_iff, ← hlength, List.length_eq_zero_iff]
  exact hne

/-- A page is read as a whole or not at all. It can be read exactly if it fits and each of its
entries can be read. Then it gives the instructions of all entries in their order, and their
variants one after the other. If it fits, its fault is the first one of the first entry that has
any. The tables that count are those that start later than the first anchor. -/
theorem extract_page_or_first_fault (page : List Node) :
    tables page = tablesBehind page ∧
    ((∃ source, (extract page).outcome = .ok source) ↔
      Fits page ∧ ∀ index entry, Entry.At page index entry → entry.Readable) ∧
    (∀ source, (extract page).outcome = .ok source →
      source.mnemonics = anchorNames page ∧
      source.instructions.length = (anchors page).length ∧
      (∀ index < (anchors page).length, ∃ entry instruction, Entry.At page index entry ∧
        source.instructions[index]? = some instruction ∧ entry.Gives instruction) ∧
      source.variants = source.instructions.flatMap Instruction.variants) ∧
    (Fits page → ∀ fault, (extract page).outcome = .error fault ↔
      ∃ index entry, Entry.At page index entry ∧ entry.Fails fault ∧
        ∀ j < index, ∀ earlier, Entry.At page j earlier → earlier.Readable) := by
  have hreadable : (∀ index entry, Entry.At page index entry → entry.Readable) ↔
      ∃ instructions, (entries page).mapM Entry.read = .ok instructions := by
    simp only [exists_mapM_eq_ok_iff, Entry.exists_read_iff, List.mem_iff_getElem?,
      getElem?_entries, forall_exists_index]
    exact forall_comm
  refine ⟨tables_eq_tablesBehind page, ?_, fun source hextract => ?_, fun hfits fault => ?_⟩
  · rw [hreadable]
    constructor
    · rintro ⟨source, hextract⟩
      have hfits := fits_of_extract hextract
      rw [extract_outcome_of_fits hfits] at hextract
      obtain ⟨instructions, hinstructions, -⟩ := bind_eq_ok_iff.mp hextract
      exact ⟨hfits, instructions, hinstructions⟩
    · rintro ⟨hfits, instructions, hinstructions⟩
      rw [extract_outcome_of_fits hfits, hinstructions]
      exact ⟨_, rfl⟩
  · have hfits := fits_of_extract hextract
    rw [extract_outcome_of_fits hfits] at hextract
    obtain ⟨instructions, hinstructions, hsource⟩ := bind_eq_ok_iff.mp hextract
    obtain rfl := Except.ok.inj hsource
    have hlength := length_of_mapM_eq_ok hinstructions
    refine ⟨rfl, hlength.trans (length_entries hfits), fun index hindex => ?_, rfl⟩
    have hentry := List.getElem?_eq_getElem (length_entries hfits ▸ hindex)
    obtain ⟨instruction, hread, hinstruction⟩ := exists_getElem?_of_mapM_eq_ok hinstructions hentry
    exact ⟨_, instruction, getElem?_entries.mp hentry, hinstruction, Entry.gives_of_read hread⟩
  · rw [extract_outcome_of_fits hfits, bind_eq_error_iff]
    refine (or_iff_left fun ⟨_, _, hok⟩ => nomatch hok).trans ?_
    rw [mapM_eq_error_iff_first]
    simp only [getElem?_entries, Entry.read_eq_error_iff, Entry.exists_read_iff]

/-- The status table counts before the variant table, which has no rows. -/
example : (extract [heading "ADC", plainTable [["C"]], plainTable []]).outcome =
    .error ⟨.fewCells .status 1, some ((locate "ADC").atRow 1)⟩ :=
  rfl

end OpcodeAtlas.Reference
