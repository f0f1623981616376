import OpcodeAtlas.Proofs.Documents.Outcome
import OpcodeAtlas.Proofs.Reference.Ownership

namespace OpcodeAtlas

open Markup (Node Start)

namespace Reference

/-- The rows of the variant tables of a page, without the heads, in the order of the page. -/
def variantRows (page : List Node) : List Start :=
  (pairs (tables page)).flatMap fun owned => (owned.2.descendants "tr").drop 1

/-- The variant is what the row says about some instruction. -/
def RowGives (row : Start) (variant : Variant) : Prop :=
  ∃ mnemonic location, readVariantRow row mnemonic location = .ok variant

theorem rowGives_of_readInstruction {mnemonic : Text} {status variants : Start}
    {instruction : Instruction}
    (hread : readInstruction mnemonic status variants = .ok instruction) :
    List.Forall₂ RowGives ((variants.descendants "tr").drop 1) instruction.variants := by
  obtain ⟨-, hvariants, -⟩ := readInstruction_eq_ok_iff.mp hread
  obtain ⟨-, hrows⟩ := readVariantTable_eq_ok_iff.mp hvariants
  have hgives := forall₂_map_of_mapM_eq_ok (R := RowGives) (g := Prod.fst)
    (fun row variant hrow => ⟨_, _, hrow⟩) hrows
  rwa [List.zipIdx_map_fst] at hgives

/-- A page gives one variant for each row of its variant tables, in the order of the rows. -/
theorem rowGives_of_extract {page : List Node} {source : Source}
    (hextract : (extract page).outcome = .ok source) :
    List.Forall₂ RowGives (variantRows page) source.variants := by
  obtain ⟨names, instructions, -, -, hcount, hinstructions, rfl⟩ := extract_eq_ok_iff.mp hextract
  have howned := forall₂_map_of_mapM_eq_ok (g := Prod.snd)
    (R := fun owned instruction => List.Forall₂ RowGives
      ((owned.2.descendants "tr").drop 1) (Instruction.variants instruction))
    (fun _ _ hread => rowGives_of_readInstruction hread) hinstructions
  have hlength : (pairs (tables page)).length ≤ names.length := by
    rw [length_pairs, hcount]
    omega
  rw [List.map_snd_zip hlength] at howned
  exact List.rel_flatMap howned fun _ _ hrows => hrows

end Reference

namespace Listing

/-- The rows of the opcode tables of a listing, section by section. -/
def variantRows (document : Text) : Except Fault (List Text) := do
  let sections ← sectionsOf document.lines
  let rows ← sections.mapM Section.rows
  return rows.flatten

/-- The variant is what the row says about some instruction. -/
def RowGives (row : Text) (variant : Variant) : Prop :=
  ∃ mnemonic location?, readRow row mnemonic location? = .ok variant

theorem rowGives_of_read {part : Section} {mnemonic : Text} {variants : List Variant}
    (hread : part.read = .ok (mnemonic, variants)) :
    ∃ rows, part.rows = .ok rows ∧ List.Forall₂ RowGives rows variants := by
  obtain ⟨-, rows, hrows, hvariants⟩ := read_eq_ok_iff.mp hread
  have hgives := forall₂_map_of_mapM_eq_ok (R := RowGives) (g := Prod.fst)
    (fun row variant hrow => ⟨_, _, hrow⟩) hvariants
  rw [List.zipIdx_map_fst] at hgives
  exact ⟨rows, hrows, hgives⟩

/-- A listing gives one variant for each row of its opcode tables, in the order of the rows. -/
theorem rowGives_of_extract {document : Text} {source : Source}
    (hextract : (extract document).outcome = .ok source) :
    ∃ rows, variantRows document = .ok rows ∧ List.Forall₂ RowGives rows source.variants := by
  obtain ⟨sections, parts, hsections, -, hparts, rfl⟩ := extract_eq_ok_iff.mp hextract
  have hrows : ∃ rows, sections.mapM Section.rows = .ok rows ∧
      List.Forall₂ RowGives rows.flatten (parts.flatMap Prod.snd) := by
    -- By induction on the sections, each with its rows and its variants side by side.
    have hread := mapM_eq_ok_iff.mp hparts
    clear hextract hsections hparts
    induction hread with
    | nil => exact ⟨[], rfl, .nil⟩
    | @cons part read _ _ hread _ ih =>
      obtain ⟨rows, hrows, hgives⟩ := rowGives_of_read hread
      obtain ⟨others, hothers, hrest⟩ := ih
      refine ⟨rows :: others, ?_, ?_⟩
      · exact mapM_eq_ok_iff.mpr (.cons hrows (mapM_eq_ok_iff.mp hothers))
      · rw [List.flatten_cons, List.flatMap_cons]
        exact List.rel_append hgives hrest
  obtain ⟨rows, hrows, hgives⟩ := hrows
  exact ⟨rows.flatten, bind_eq_ok_iff.mpr ⟨sections, hsections, bind_eq_ok_iff.mpr ⟨rows, hrows, rfl⟩⟩,
    hgives⟩

end Listing

end OpcodeAtlas
