import OpcodeAtlas.Proofs.Documents.Rows
import OpcodeAtlas.Proofs.Documents.Union
import OpcodeAtlas.Proofs.Text.Case
import OpcodeAtlas.Proofs.Text.Pieces
import Mathlib.Data.List.Perm.Subperm

namespace OpcodeAtlas

/-- What a row that is read makes sure of: the opcode is a byte, a variant of the page has a note exactly
if it has a penalty, and one of the listing has no note and no branch penalty. -/
structure Variant.WellRead (variant : Variant) : Prop where
  byte : 0 ≤ variant.opcode ∧ variant.opcode ≤ 255
  note_eq_nil_iff : variant.official = true →
    (variant.cycleNote = [] ↔ variant.cycleMode = .fixed)
  unannotated : variant.official = false →
    variant.cycleNote = [] ∧ variant.cycleMode ≠ .branchTakenPenalty

namespace Reference

theorem notePhrases_ne_fixed : ∀ phrase ∈ notePhrases, phrase.2 ≠ .fixed := by
  decide

/-- A count is fixed exactly if the note behind it is blank. -/
theorem cycleMode_eq_fixed_iff {note : Text} {location? : Option Location} {mode : CycleMode}
    (hmode : cycleMode note location? = .ok mode) :
    mode = .fixed ↔ Text.isAllBlank note = true := by
  rw [← Text.collapse_eq_nil_iff, ← Text.toLower_eq_nil_iff, ← List.isEmpty_iff]
  unfold cycleMode at hmode
  dsimp only at hmode
  split at hmode
  · next hblank => exact iff_of_true (Except.ok.inj hmode).symm hblank
  · next hnote =>
    refine iff_of_false ?_ hnote
    split at hmode
    · next phrase hfind =>
      obtain rfl := Except.ok.inj hmode
      exact notePhrases_ne_fixed phrase (List.mem_of_find?_eq_some hfind)
    · cases hmode

theorem wellRead_of_rowGives {row : Markup.Start} {variant : Variant} (hgives : RowGives row variant) :
    variant.WellRead ∧ variant.official = true := by
  obtain ⟨mnemonic, location, hread⟩ := hgives
  obtain ⟨_, _, _, cyclesCell, _, -, -, hopcode, -, -, hmode, hnote, -, hofficial⟩ :=
    readVariantRow_eq_ok_iff.mp hread
  refine ⟨⟨(opcode_eq_ok_iff.mp hopcode).2, fun _ => ?_, fun hunofficial => ?_⟩, hofficial⟩
  · rw [cycleMode_eq_fixed_iff hmode, hnote]
    exact Text.isAllBlank_trim_iff.symm
  · rw [hofficial] at hunofficial
    cases hunofficial

theorem wellRead_of_rows {rows : List Markup.Start} {variants : List Variant}
    (hrows : List.Forall₂ RowGives rows variants) {variant : Variant} (hvariant : variant ∈ variants) :
    variant.WellRead ∧ variant.official = true := by
  obtain ⟨row, -, hgives⟩ := exists_mem_of_forall₂ hrows hvariant
  exact wellRead_of_rowGives hgives

theorem variants_ne_nil_of_extract {page : List Markup.Node} {source : Source}
    (hextract : (extract page).outcome = .ok source) : source.variants ≠ [] := by
  obtain ⟨names, _, -, hne, -, -, hsource⟩ := extract_eq_ok_iff.mp hextract
  obtain ⟨name, hname⟩ := List.exists_mem_of_ne_nil _ hne
  have hlisted : name ∈ source.mnemonics := by rwa [hsource]
  obtain ⟨variant, hvariant, -⟩ := exists_variant_of_extract hextract hlisted
  exact List.ne_nil_of_mem hvariant

end Reference

namespace Listing

theorem cycleMode_ne_branchTakenPenalty (cell : Text) : cycleMode cell ≠ .branchTakenPenalty := by
  unfold cycleMode
  split
  · exact CycleMode.noConfusion
  · exact CycleMode.noConfusion

theorem wellRead_of_rowGives {row : Text} {variant : Variant} (hgives : RowGives row variant) :
    variant.WellRead ∧ variant.official = false := by
  obtain ⟨mnemonic, location?, hread⟩ := hgives
  obtain ⟨_, _, _, _, cyclesCell, -, hopcode, -, -, -, -, hmode, hofficial, hnote⟩ :=
    readRow_eq_ok_iff.mp hread
  obtain ⟨_, -, -, hrange⟩ := opcode_eq_ok_iff.mp hopcode
  refine ⟨⟨hrange, fun hmarked => ?_, fun _ => ⟨hnote, ?_⟩⟩, hofficial⟩
  · rw [hofficial] at hmarked
    cases hmarked
  · rw [hmode]
    exact cycleMode_ne_branchTakenPenalty cyclesCell

theorem wellRead_of_rows {rows : List Text} {variants : List Variant}
    (hrows : List.Forall₂ RowGives rows variants) {variant : Variant} (hvariant : variant ∈ variants) :
    variant.WellRead ∧ variant.official = false := by
  obtain ⟨row, -, hgives⟩ := exists_mem_of_forall₂ hrows hvariant
  exact wellRead_of_rowGives hgives

theorem variants_ne_nil_of_extract {document : Text} {source : Source}
    (hextract : (extract document).outcome = .ok source) : source.variants ≠ [] := by
  obtain ⟨sections, parts, -, hne, hparts, hsource⟩ := extract_eq_ok_iff.mp hextract
  obtain ⟨part, hpart⟩ := List.exists_mem_of_ne_nil _ (ne_nil_of_mapM_eq_ok hparts hne)
  have hlisted : part.1 ∈ source.mnemonics := by
    rw [hsource]
    exact List.mem_eraseDups.mpr (List.mem_map_of_mem hpart)
  obtain ⟨variant, hvariant, -⟩ := exists_variant_of_extract hextract hlisted
  exact List.ne_nil_of_mem hvariant

end Listing

/-- What the emulator relies on in a table of both documents. -/
structure Table.WellFormed (table : Table) : Prop where
  key_eq : ∀ entry ∈ table.opcodes.entries, entry.1 = entry.2.opcode
  key_byte : ∀ entry ∈ table.opcodes.entries, 0 ≤ entry.1 ∧ entry.1 ≤ 255
  size_eq : ∀ variant ∈ table.variants, variant.size = variant.mode.size
  size_le : table.size ≤ 256
  exists_official : ∃ variant ∈ table.variants, variant.official = true
  exists_undocumented : ∃ variant ∈ table.variants, variant.official = false
  official_first : table.variants.Pairwise fun variant later =>
    variant.official = false → later.official = false
  note_eq_nil_iff : ∀ variant ∈ table.variants, variant.official = true →
    (variant.cycleNote = [] ↔ variant.cycleMode = .fixed)
  unannotated : ∀ variant ∈ table.variants, variant.official = false →
    variant.cycleNote = [] ∧ variant.cycleMode ≠ .branchTakenPenalty

/-- There are no more bytes than these. -/
theorem length_le_of_bytes {keys : List Int} (hnodup : keys.Nodup)
    (hbytes : ∀ key ∈ keys, 0 ≤ key ∧ key ≤ 255) : keys.length ≤ 256 := by
  have hsubset : keys ⊆ (List.range 256).map Int.ofNat := by
    intro key hkey
    obtain ⟨hnonneg, hle⟩ := hbytes key hkey
    refine List.mem_map.mpr ⟨key.toNat, List.mem_range.mpr ?_, ?_⟩
    · omega
    · exact Int.toNat_of_nonneg hnonneg
  simpa using (hnodup.subperm hsubset).length_le

namespace Documents

/-- The two parts of a table that is built: the variants of the page, and behind them those of the
listing. -/
theorem variants_of_table {documents : Documents} {table : Table} {stats : Stats}
    (hbuilt : documents.table.outcome = .ok (table, stats)) :
    ∃ official undocumented, table.variants = official ++ undocumented ∧
      official ≠ [] ∧ undocumented ≠ [] ∧
      List.Forall₂ Reference.RowGives (Reference.variantRows documents.page) official ∧
      ∃ rows, Listing.variantRows documents.listing = .ok rows ∧
        List.Forall₂ Listing.RowGives rows undocumented := by
  obtain ⟨official, undocumented, hofficial, hundocumented, hmerge, -⟩ :=
    table_eq_ok_iff.mp hbuilt
  refine ⟨official.variants, undocumented.variants, ?_,
    Reference.variants_ne_nil_of_extract hofficial,
    Listing.variants_ne_nil_of_extract hundocumented, Reference.rowGives_of_extract hofficial,
    Listing.rowGives_of_extract hundocumented⟩
  simp [Table.variants_of_merge hmerge, Table.extracted]

/-- Every variant of a table that is built was read from a row of one of the documents. -/
theorem wellRead_of_table {documents : Documents} {table : Table} {stats : Stats}
    (hbuilt : documents.table.outcome = .ok (table, stats)) {variant : Variant}
    (hvariant : variant ∈ table.variants) : variant.WellRead := by
  obtain ⟨official, undocumented, hvariants, -, -, hpage, rows, -, hlisting⟩ :=
    variants_of_table hbuilt
  rw [hvariants, List.mem_append] at hvariant
  obtain hofficial | hundocumented := hvariant
  · exact (Reference.wellRead_of_rows hpage hofficial).1
  · exact (Listing.wellRead_of_rows hlisting hundocumented).1

/-- The opcodes of a table that is built from documents are bytes. -/
theorem byte_of_key {documents : Documents} {table : Table} {collected : Stats}
    (hbuilt : documents.table.outcome = .ok (table, collected)) {key : Int}
    (hkey : key ∈ table.opcodes.keys) : 0 ≤ key ∧ key ≤ 255 := by
  obtain ⟨_, _, -, -, hmerge, -⟩ := table_eq_ok_iff.mp hbuilt
  obtain ⟨entry, hentry, rfl⟩ := List.mem_map.mp hkey
  obtain ⟨heq, hvariant⟩ := Table.mem_of_entry hmerge hentry
  exact heq ▸ (wellRead_of_table hbuilt hvariant).byte

theorem pairwise_official_first {official undocumented : List Variant}
    (hofficial : ∀ variant ∈ official, variant.official = true)
    (hundocumented : ∀ variant ∈ undocumented, variant.official = false) :
    (official ++ undocumented).Pairwise fun variant later =>
      variant.official = false → later.official = false := by
  rw [List.pairwise_append]
  refine ⟨?_, ?_, fun _ _ later hlater _ => hundocumented later hlater⟩
  · apply List.pairwise_of_forall_mem_list
    intro variant hvariant _ _ hunofficial
    rw [hofficial variant hvariant] at hunofficial
    cases hunofficial
  · apply List.pairwise_of_forall_mem_list
    exact fun _ _ later hlater _ => hundocumented later hlater

/-- A table that is built from two documents holds at most one variant for each byte, first those of
the page and then those of the listing, all of them with the size of their mode, and with a note
exactly where the page has a penalty. -/
theorem table_wellFormed {documents : Documents} {table : Table} {stats : Stats}
    (hbuilt : documents.table.outcome = .ok (table, stats)) : table.WellFormed := by
  obtain ⟨_, _, -, -, hmerge, -⟩ := table_eq_ok_iff.mp hbuilt
  obtain ⟨official, undocumented, hvariants, hsome, hsome', hpage, rows, -, hlisting⟩ :=
    variants_of_table hbuilt
  have hofficial : ∀ variant ∈ official, variant.official = true :=
    fun _ hvariant => (Reference.wellRead_of_rows hpage hvariant).2
  have hundocumented : ∀ variant ∈ undocumented, variant.official = false :=
    fun _ hvariant => (Listing.wellRead_of_rows hlisting hvariant).2
  -- The merge files each variant under its own opcode, and the rows hold the opcodes to bytes.
  have hbyte : ∀ entry ∈ table.opcodes.entries, 0 ≤ entry.1 ∧ entry.1 ≤ 255 := by
    intro entry hentry
    obtain ⟨hkey, hvariant⟩ := Table.mem_of_entry hmerge hentry
    exact hkey ▸ (wellRead_of_table hbuilt hvariant).byte
  constructor
  case key_eq => exact fun _ hentry => (Table.mem_of_entry hmerge hentry).1
  case key_byte => exact hbyte
  case size_eq => exact fun _ hvariant => Table.size_of_merge hmerge hvariant
  case size_le =>
    have hlength := length_le_of_bytes table.opcodes.nodup_keys (List.forall_mem_map.mpr hbyte)
    rwa [List.length_map] at hlength
  case exists_official =>
    obtain ⟨variant, hvariant⟩ := List.exists_mem_of_ne_nil _ hsome
    exact ⟨variant, hvariants ▸ List.mem_append_left _ hvariant, hofficial variant hvariant⟩
  case exists_undocumented =>
    obtain ⟨variant, hvariant⟩ := List.exists_mem_of_ne_nil _ hsome'
    exact ⟨variant, hvariants ▸ List.mem_append_right _ hvariant, hundocumented variant hvariant⟩
  case official_first => exact hvariants ▸ pairwise_official_first hofficial hundocumented
  case note_eq_nil_iff =>
    exact fun _ hvariant => (wellRead_of_table hbuilt hvariant).note_eq_nil_iff
  case unannotated =>
    exact fun _ hvariant => (wellRead_of_table hbuilt hvariant).unannotated

/-- Two documents with a penalty each. -/
def penalties : Documents where
  page := [Reference.heading "BCC", Reference.plainTable [],
    Reference.plainTable [[], ["Relative", "$90", "2", "2 (+1 if branch succeeds)"]]]
  listing := "LAX (lax)\n===\n---\n(Indirect),Y|LAX|$B3|2|5*"

theorem penalties_wellFormed :
    ∃ built, penalties.table.outcome = .ok built ∧ built.1.WellFormed ∧
      built.1.variants.map Variant.cycleNote = ["(+1 if branch succeeds)".toList, []] := by
  obtain ⟨built, hbuilt⟩ : ∃ built, penalties.table.outcome = .ok built := ⟨_, rfl⟩
  refine ⟨built, hbuilt, table_wellFormed hbuilt, ?_⟩
  obtain rfl := Except.ok.inj hbuilt
  rfl

end Documents

end OpcodeAtlas
