import OpcodeAtlas.Proofs.Reference.Places
import OpcodeAtlas.Proofs.Reference.Reading

namespace OpcodeAtlas.Reference

open Markup (Node Start)

/-- Each instruction is given tables of its own section only. -/
def OwnsTables (page : List Node) : Prop :=
  ∀ index status variants, (pairs (placedTables page))[index]? = some (status, variants) →
    inSection page index status = true ∧ inSection page index variants = true

theorem getElem?_pairs {α : Type} {first second : α} : ∀ (items : List α) (index : Nat),
    (pairs items)[index]? = some (first, second) ↔
      items[2 * index]? = some first ∧ items[2 * index + 1]? = some second
  | [], index => by simp [pairs]
  | [_], index => by simp [pairs]
  | _ :: _ :: _, 0 => by simp [pairs]
  | _ :: _ :: rest, index + 1 => getElem?_pairs rest index

theorem map_pairs {α β : Type} (f : α → β) :
    ∀ items : List α, (pairs items).map (Prod.map f f) = pairs (items.map f)
  | [] => rfl
  | [_] => rfl
  | first :: second :: rest => congrArg (List.cons (f first, f second)) (map_pairs f rest)

theorem length_pairs {α : Type} : ∀ items : List α, (pairs items).length = items.length / 2
  | [] => by simp [pairs]
  | [_] => by simp [pairs]
  | first :: second :: rest => by
    rw [pairs, List.length_cons, length_pairs rest, List.length_cons, List.length_cons]
    omega

/-- Both tables of an index are in its section exactly if the sections up to the index have no more
tables than the instructions before it need, and those behind it leave the two. -/
theorem inSection_pair_iff {page : List Node} {index : Nat} {status variants : Start × Nat}
    (hpair : (pairs (placedTables page))[index]? = some (status, variants)) :
    inSection page index status = true ∧ inSection page index variants = true ↔
      tablesBefore page index ≤ 2 * index ∧ 2 * index + 2 ≤ tablesBefore page (index + 1) := by
  obtain ⟨hstatus, hvariants⟩ := (getElem?_pairs _ _).mp hpair
  rw [inSection_iff hstatus, inSection_iff hvariants]
  omega

/-- Where the total number of tables fits, the tables are not paired across sections exactly if the
number fits in each section. A surplus and a deficit can cancel in the total. -/
theorem ownsTables_iff_of_length {page : List Node}
    (hlength : (tables page).length = 2 * (anchors page).length) :
    OwnsTables page ↔ ∀ index < (anchors page).length, (sectionTables page index).length = 2 := by
  have hpairs : (pairs (placedTables page)).length = (anchors page).length := by
    rw [length_pairs, length_placedTables, hlength]
    omega
  constructor
  · intro howns
    have hbounds : ∀ index < (anchors page).length,
        tablesBefore page index ≤ 2 * index ∧ 2 * index + 2 ≤ tablesBefore page (index + 1) := by
      intro index hindex
      have hpair := List.getElem?_eq_getElem (hpairs ▸ hindex)
      exact (inSection_pair_iff hpair).mp (howns index _ _ hpair)
    have hexact : ∀ index ≤ (anchors page).length, tablesBefore page index = 2 * index := by
      intro index hindex
      obtain hlt | rfl := Nat.lt_or_eq_of_le hindex
      · cases index with
        | zero => exact tablesBefore_zero page
        | succ index => exact Nat.le_antisymm (hbounds _ hlt).1 (hbounds index (by omega)).2
      · rw [tablesBefore_length, hlength]
    intro index hindex
    have hsucc := tablesBefore_succ page index
    rw [hexact index (Nat.le_of_lt hindex), hexact (index + 1) hindex] at hsucc
    omega
  · intro hsections index status variants hpair
    obtain ⟨hindex, -⟩ := List.getElem?_eq_some_iff.mp hpair
    rw [hpairs] at hindex
    have hexact : ∀ index ≤ (anchors page).length, tablesBefore page index = 2 * index := by
      intro index hindex
      induction index with
      | zero => exact tablesBefore_zero page
      | succ index ih => rw [tablesBefore_succ, ih (by omega), hsections index hindex]; omega
    rw [inSection_pair_iff hpair, hexact index (Nat.le_of_lt hindex), hexact (index + 1) hindex]
    omega

/-- In an extraction that succeeds, the instruction of an index is named by the anchor of the index
and read from the pair of tables of the index, wherever these two start. They start in the section
of the anchor, for all instructions, exactly if each section has two tables. -/
theorem instructions_paired {page : List Node} {source : Source}
    (hextract : (extract page).outcome = .ok source) :
    source.instructions.length = (anchors page).length ∧
      (∀ index < (anchors page).length, ∃ anchor status variants name instruction,
        (placedAnchors page)[index]? = some anchor ∧
          (pairs (placedTables page))[index]? = some (status, variants) ∧
          anchorName anchor.1 (index + 1) = .ok name ∧
          source.mnemonics[index]? = some name ∧
          readInstruction name status.1 variants.1 = .ok instruction ∧
          source.instructions[index]? = some instruction) ∧
      (OwnsTables page ↔
        ∀ index < (anchors page).length, (sectionTables page index).length = 2) := by
  obtain ⟨names, instructions, hnames, -, hcount, hinstructions, rfl⟩ :=
    extract_eq_ok_iff.mp hextract
  have hlength := length_mnemonics hnames
  have hpairs : (pairs (placedTables page)).length = (anchors page).length := by
    rw [length_pairs, length_placedTables, hcount, hlength]
    omega
  rw [← map_fst_placedTables, ← map_pairs] at hinstructions
  refine ⟨?_, fun index hindex => ?_, ownsTables_iff_of_length (hlength ▸ hcount)⟩
  · rw [length_of_mapM_eq_ok hinstructions, List.length_zip, List.length_map, hpairs, hlength,
      Nat.min_self]
  · obtain ⟨anchor, hanchor⟩ : ∃ anchor, (placedAnchors page)[index]? = some anchor :=
      ⟨_, List.getElem?_eq_getElem ((length_placedAnchors page).symm ▸ hindex)⟩
    obtain ⟨⟨status, variants⟩, hpair⟩ :
        ∃ owned, (pairs (placedTables page))[index]? = some owned :=
      ⟨_, List.getElem?_eq_getElem (hpairs.symm ▸ hindex)⟩
    have hnumbered : ((anchors page).zipIdx 1)[index]? = some (anchor.1, index + 1) := by
      rw [List.getElem?_zipIdx, ← map_fst_placedAnchors, List.getElem?_map, hanchor, Nat.add_comm 1]
      rfl
    obtain ⟨name, hname, hmnemonic⟩ := exists_getElem?_of_mapM_eq_ok hnames hnumbered
    have howned :
        (names.zip ((pairs (placedTables page)).map (Prod.map Prod.fst Prod.fst)))[index]? =
          some (name, status.1, variants.1) := by
      rw [List.getElem?_zip_eq_some, List.getElem?_map, hpair]
      exact ⟨hmnemonic, rfl⟩
    obtain ⟨instruction, hread, hinstruction⟩ := exists_getElem?_of_mapM_eq_ok hinstructions howned
    exact ⟨anchor, status, variants, name, instruction, hanchor, hpair, hname, hmnemonic, hread,
      hinstruction⟩

/-- The heading of an instruction. -/
def heading (name : Text) : Node :=
  .element "h3" [] [.element "a" [("name", name)] []]

/-- A table with nothing but text in its cells. -/
def plainTable (rows : List (List Text)) : Node :=
  .element "table" [] (rows.map fun cells =>
    .element "tr" [] (cells.map fun cell => .element "td" [] [.text cell]))

/-- The first instruction has lost its variant table and the second has one too many. -/
def crossedPage : List Node :=
  [heading "ADC", plainTable [["C", "Carry Flag", "Set"]],
    heading "ASL", plainTable [[], ["Accumulator", "$0A", "1", "2"]],
    plainTable [["C", "Carry Flag", "Set"]], plainTable [[], ["Zero Page", "$06", "2", "5"]]]

theorem crossedPage_paired :
    ∃ source, (extract crossedPage).outcome = .ok source ∧ source.instructions.length = 2 ∧
      (OwnsTables crossedPage ↔ ∀ index < 2, (sectionTables crossedPage index).length = 2) :=
  ⟨_, rfl, rfl, (instructions_paired rfl).2.2⟩

/-- The page passes, with a variant of the second instruction among those of the first. -/
theorem crossedPage_not_ownsTables :
    (extract crossedPage).outcome.map
        (fun source => source.variants.map fun variant => (variant.mnemonic, variant.opcode)) =
      .ok [("ADC".toList, 0x0A), ("ASL".toList, 0x06)] ∧ ¬OwnsTables crossedPage := by
  refine ⟨rfl, fun howns => ?_⟩
  have hvariants := (howns 0 _ _ rfl).2
  exact absurd hvariants (by decide)

end OpcodeAtlas.Reference
