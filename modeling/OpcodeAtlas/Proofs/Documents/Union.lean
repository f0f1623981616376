import OpcodeAtlas.Proofs.Documents.Outcome
import OpcodeAtlas.Proofs.Reference.Ownership
import OpcodeAtlas.Proofs.Table.Registry

namespace OpcodeAtlas

open Markup (Start Node)

namespace Reference

theorem exists_variant_of_readInstruction {mnemonic : Text} {status variants : Start}
    {instruction : Instruction}
    (hread : readInstruction mnemonic status variants = .ok instruction) :
    ∃ variant ∈ instruction.variants, variant.mnemonic = mnemonic := by
  obtain ⟨-, hvariants, -⟩ := readInstruction_eq_ok_iff.mp hread
  obtain ⟨hrows, hvariants⟩ := readVariantTable_eq_ok_iff.mp hvariants
  have hne := ne_nil_of_mapM_eq_ok hvariants (mt List.zipIdx_eq_nil_iff.mp hrows)
  obtain ⟨variant, hvariant⟩ := List.exists_mem_of_ne_nil _ hne
  exact ⟨variant, hvariant, (mem_of_readInstruction hread hvariant).1⟩

/-- Each anchor of a page has its two tables, since their number fits, and its variant table has a
row. -/
theorem exists_variant_of_extract {page : List Node} {source : Source}
    (hextract : (extract page).outcome = .ok source) {name : Text}
    (hname : name ∈ source.mnemonics) : ∃ variant ∈ source.variants, variant.mnemonic = name := by
  obtain ⟨names, instructions, -, -, hcount, hinstructions, rfl⟩ := extract_eq_ok_iff.mp hextract
  obtain ⟨index, hindex⟩ := List.mem_iff_getElem?.mp hname
  -- No name is left out in the pairing, since there are as many pairs of tables as names.
  have hlength : (pairs (tables page)).length = names.length := by
    rw [length_pairs, hcount]
    omega
  have hbound : index < (pairs (tables page)).length :=
    hlength ▸ (List.getElem?_eq_some_iff.mp hindex).1
  have howned : (names.zip (pairs (tables page)))[index]? =
      some (name, (pairs (tables page))[index]) :=
    List.getElem?_zip_eq_some.mpr ⟨hindex, List.getElem?_eq_getElem hbound⟩
  obtain ⟨instruction, hread, hinstruction⟩ := exists_getElem?_of_mapM_eq_ok hinstructions howned
  obtain ⟨variant, hvariant, hmnemonic⟩ := exists_variant_of_readInstruction hread
  exact ⟨variant, List.mem_flatMap.mpr ⟨instruction, List.mem_of_getElem? hinstruction, hvariant⟩,
    hmnemonic⟩

end Reference

namespace Listing

theorem rows_ne_nil {part : Section} {rows : List Text} (hrows : part.rows = .ok rows) :
    rows ≠ [] := by
  unfold Section.rows at hrows
  split at hrows
  · cases hrows
  · split at hrows
    · cases hrows
    · next hne =>
      obtain rfl := Except.ok.inj hrows
      exact hne

theorem exists_variant_of_read {part : Section} {mnemonic : Text} {variants : List Variant}
    (hread : part.read = .ok (mnemonic, variants)) :
    ∃ variant ∈ variants, variant.mnemonic = mnemonic := by
  obtain ⟨-, rows, hrows, hvariants⟩ := read_eq_ok_iff.mp hread
  have hne := ne_nil_of_mapM_eq_ok hvariants (mt List.zipIdx_eq_nil_iff.mp (rows_ne_nil hrows))
  obtain ⟨variant, hvariant⟩ := List.exists_mem_of_ne_nil _ hne
  exact ⟨variant, hvariant, (mem_of_read hread hvariant).1⟩

theorem exists_variant_of_extract {document : Text} {source : Source}
    (hextract : (extract document).outcome = .ok source) {name : Text}
    (hname : name ∈ source.mnemonics) : ∃ variant ∈ source.variants, variant.mnemonic = name := by
  obtain ⟨sections, parts, -, -, hparts, rfl⟩ := extract_eq_ok_iff.mp hextract
  obtain ⟨⟨mnemonic, variants⟩, hpart, rfl⟩ := List.mem_map.mp (List.mem_eraseDups.mp hname)
  obtain ⟨part, -, hread⟩ := exists_mem_of_mapM_eq_ok hparts hpart
  obtain ⟨variant, hvariant, hmnemonic⟩ := exists_variant_of_read hread
  exact ⟨variant, List.mem_flatMap.mpr ⟨_, hpart, hvariant⟩, hmnemonic⟩

/-- The mnemonics in the titles of a listing, section by section. -/
def sectionNames (document : Text) : Except Fault (List Text) := do
  let sections ← sectionsOf document.lines
  sections.mapM fun part => mnemonicOf part.title

/-- A listing brings up the mnemonics in the order of its titles, each once. -/
theorem mnemonics_of_extract {document : Text} {source : Source}
    (hextract : (extract document).outcome = .ok source) :
    ∃ names, sectionNames document = .ok names ∧ source.mnemonics = names.eraseDups := by
  obtain ⟨sections, parts, hsections, -, hparts, rfl⟩ := extract_eq_ok_iff.mp hextract
  refine ⟨parts.map Prod.fst, bind_eq_ok_iff.mpr ⟨sections, hsections, ?_⟩, rfl⟩
  rw [mapM_eq_ok_iff, List.forall₂_map_right_iff]
  refine (mapM_eq_ok_iff.mp hparts).imp fun part read hread => ?_
  exact (read_eq_ok_iff.mp hread).1

end Listing

namespace Documents

variable {documents : Documents} {official undocumented : Source}

/-- Every mnemonic that one of the documents lists has a variant in the same document. -/
theorem mnemonics_used (hofficial : (Reference.extract documents.page).outcome = .ok official)
    (hundocumented : (Listing.extract documents.listing).outcome = .ok undocumented) :
    ∀ source ∈ [official, undocumented], ∀ name ∈ source.mnemonics,
      ∃ variant ∈ Table.extracted [official, undocumented], variant.mnemonic = name := by
  intro source hsource name hname
  have hvariant : ∃ variant ∈ source.variants, variant.mnemonic = name := by
    obtain rfl | hsource := List.mem_cons.mp hsource
    · exact Reference.exists_variant_of_extract hofficial hname
    · obtain rfl := List.mem_singleton.mp hsource
      exact Listing.exists_variant_of_extract hundocumented hname
  obtain ⟨variant, hvariant, hmnemonic⟩ := hvariant
  exact ⟨variant, List.mem_flatMap.mpr ⟨source, hsource, hvariant⟩, hmnemonic⟩

theorem merge_eq_error_iff (hofficial : (Reference.extract documents.page).outcome = .ok official)
    (hundocumented : (Listing.extract documents.listing).outcome = .ok undocumented)
    {fault : Fault} :
    (Table.merge [official, undocumented]).outcome = .error fault ↔
      Table.FirstRefusal [official, undocumented] fault := by
  rw [Table.merge_eq_error_iff]
  refine or_iff_left ?_
  rintro ⟨opcodes, hextends, horphans, -⟩
  exact horphans ((Table.orphans_eq_nil_iff hextends.values_eq).mpr
    (mnemonics_used hofficial hundocumented))

/-- The variants of a document bring up no mnemonic that their document does not list. -/
theorem registryOf_documents
    (hofficial : (Reference.extract documents.page).outcome = .ok official)
    (hundocumented : (Listing.extract documents.listing).outcome = .ok undocumented)
    {names : List Text} (hnames : undocumented.mnemonics = names.eraseDups) :
    Table.registryOf [official, undocumented] =
      (Reference.anchorNames documents.page ++ names).eraseDups := by
  obtain ⟨hanchors, -, hreference⟩ := Reference.names_of_extract hofficial
  obtain ⟨-, hlisting⟩ := Listing.names_of_extract hundocumented
  have hofficial' : official.variants.map Variant.mnemonic ⊆ official.mnemonics :=
    List.forall_mem_map.mpr fun variant hvariant => (hreference variant hvariant).1
  have hundocumented' :
      undocumented.variants.map Variant.mnemonic ⊆ official.mnemonics ++ undocumented.mnemonics :=
    List.forall_mem_map.mpr fun variant hvariant =>
      List.mem_append_right _ (hlisting variant hvariant).1
  calc Table.registryOf [official, undocumented]
    _ = (official.mnemonics ++ official.variants.map Variant.mnemonic ++
          (undocumented.mnemonics ++ undocumented.variants.map Variant.mnemonic)).eraseDups := by
        simp [Table.registryOf, Source.discovered]
    _ = (official.mnemonics ++ (undocumented.mnemonics ++
          undocumented.variants.map Variant.mnemonic)).eraseDups :=
        Table.eraseDups_append_append_of_subset hofficial' _
    _ = (official.mnemonics ++ undocumented.mnemonics).eraseDups := by
        rw [← List.append_assoc, Table.eraseDups_append_of_subset hundocumented']
    _ = (Reference.anchorNames documents.page ++ names).eraseDups := by
        rw [hnames, Table.eraseDups_append_eraseDups, hanchors]

/-- A table that is built can be rendered, so that only what keeps it from being built can keep the
module from being made. -/
theorem rustModule_blamesDocuments (documents : Documents) :
    BlamesDocuments documents.rustModule.outcome := by
  intro fault herror
  simp only [rustModule, Logged.outcome_bind, Logged.outcome_of, bind_eq_error_iff] at herror
  obtain herror | ⟨⟨table, stats⟩, hbuilt, herror⟩ := herror
  · exact table_blamesDocuments documents fault herror
  · obtain ⟨official, undocumented, -, -, hmerge, -⟩ := table_eq_ok_iff.mp hbuilt
    obtain ⟨text, htext⟩ := Table.exists_render_of_merge hmerge
    rw [htext] at herror
    obtain herror | ⟨_, -, herror⟩ := herror
    · cases herror
    · cases herror

/-- Two documents that can be read give sources whose mnemonics all have variants, so a merge of them
fails for nothing but a variant that is refused. Where it succeeds the module is made, and its
registry names the anchors of the page and then the titles of the listing, each name where it stands
first. Whatever the documents are, the module is never refused for a variant without an arm. -/
theorem extracted_sources_merge (documents : Documents) :
    (∀ official undocumented, (Reference.extract documents.page).outcome = .ok official →
      (Listing.extract documents.listing).outcome = .ok undocumented →
        (∀ fault, (Table.merge [official, undocumented]).outcome = .error fault ↔
          Table.FirstRefusal [official, undocumented] fault) ∧
        ∀ table, (Table.merge [official, undocumented]).outcome = .ok table →
          (∃ text, RustModule.render table = .ok text ∧
            documents.rustModule.outcome = .ok (table, text)) ∧
          ∃ names, Listing.sectionNames documents.listing = .ok names ∧
            table.registry = (Reference.anchorNames documents.page ++ names).eraseDups) ∧
      ∀ fault, documents.rustModule.outcome = .error fault →
        fault.kind ≠ .unmapped ∧ fault.InDocuments := by
  refine ⟨fun official undocumented hofficial hundocumented => ⟨fun fault => ?_, ?_⟩, ?_⟩
  · exact merge_eq_error_iff hofficial hundocumented
  · intro table hmerge
    obtain ⟨text, hrender⟩ := Table.exists_render_of_merge hmerge
    have hbuilt : documents.table.outcome =
        .ok (table, Stats.collect [official, undocumented] table) :=
      table_eq_ok_iff.mpr ⟨official, undocumented, hofficial, hundocumented, hmerge, rfl⟩
    obtain ⟨names, hnames, hmnemonics⟩ := Listing.mnemonics_of_extract hundocumented
    refine ⟨⟨text, hrender, rustModule_eq_ok_iff.mpr ⟨_, hbuilt, hrender⟩⟩, names, hnames, ?_⟩
    rw [Table.registry_of_merge hmerge]
    exact registryOf_documents hofficial hundocumented hmnemonics
  · intro fault herror
    have hfault := rustModule_blamesDocuments documents fault herror
    refine ⟨fun hkind => ?_, hfault⟩
    obtain hshape | hlabel | hcollision := hfault
    · cases hkind.symm.trans hshape
    · cases hkind.symm.trans hlabel
    · cases hkind.symm.trans hcollision

/-- Two documents that share a mnemonic. -/
def sharedNames : Documents where
  page := [Reference.heading "NOP", Reference.plainTable [],
    Reference.plainTable [[], ["Implied", "$EA", "1", "2"]],
    Reference.heading "CLC", Reference.plainTable [],
    Reference.plainTable [[], ["Implied", "$18", "1", "2"]]]
  listing := "KIL (kil)\n===\n---\nImplied|KIL|$02|1|0\n\nNOP (nop)\n===\n---\nImplied|NOP|$1A|1|2"

theorem sharedNames_merge :
    ∃ official undocumented table,
      (Reference.extract sharedNames.page).outcome = .ok official ∧
      (Listing.extract sharedNames.listing).outcome = .ok undocumented ∧
      (Table.merge [official, undocumented]).outcome = .ok table ∧
      table.registry = ["NOP".toList, "CLC".toList, "KIL".toList] ∧
      ∃ text, sharedNames.rustModule.outcome = .ok (table, text) := by
  obtain ⟨-, hmerged⟩ := (extracted_sources_merge sharedNames).1 _ _ rfl rfl
  obtain ⟨⟨text, -, htext⟩, -⟩ := hmerged _ rfl
  exact ⟨_, _, _, rfl, rfl, rfl, rfl, text, htext⟩

end Documents

end OpcodeAtlas
