import OpcodeAtlas.Proofs.Documents.Outcome
import OpcodeAtlas.Proofs.Reference.Ownership
import OpcodeAtlas.Proofs.Table.Registry

namespace OpcodeAtlas.Documents

/-- The names in a table that is built are bare where they come from the listing. The anchors of
the page are asked for no more than some name, which is taken as it stands; so all names are bare
exactly if the anchors have bare names. -/
theorem bare_names_iff {documents : Documents} {table : Table} {stats : Stats}
    (hbuilt : documents.table.outcome = .ok (table, stats)) :
    (∀ variant ∈ table.variants, variant.official = false → IsBareName variant.mnemonic) ∧
      (∀ name ∈ table.registry,
        name ≠ [] ∧ (name ∈ Reference.anchorNames documents.page ∨ IsBareName name)) ∧
      ((∀ name ∈ table.registry, IsBareName name) ↔
        ∀ name ∈ Reference.anchorNames documents.page, IsBareName name) ∧
      ((∀ variant ∈ table.variants, IsBareName variant.mnemonic) ↔
        ∀ name ∈ Reference.anchorNames documents.page, IsBareName name) := by
  obtain ⟨official, undocumented, hofficial, hundocumented, hmerge, -⟩ :=
    table_eq_ok_iff.mp hbuilt
  obtain ⟨hanchors, hne, hreference⟩ := Reference.names_of_extract hofficial
  obtain ⟨hbare, hlisting⟩ := Listing.names_of_extract hundocumented
  have hvariants : ∀ variant ∈ table.variants,
      variant ∈ official.variants ∨ variant ∈ undocumented.variants := by
    intro variant hvariant
    simpa [Table.variants_of_merge hmerge, Table.extracted] using hvariant
  -- A name of the registry is carried by a variant, and the variant by one of the two documents.
  have hnames : ∀ name ∈ table.registry,
      name ≠ [] ∧ (name ∈ Reference.anchorNames documents.page ∨ IsBareName name) := by
    intro name hname
    obtain ⟨variant, hvariant, rfl⟩ := (Table.mem_registry_iff hmerge).mp hname
    obtain hvariant | hvariant := hvariants variant hvariant
    · have hname := (hreference variant hvariant).1
      exact ⟨hne _ hname, Or.inl (hanchors ▸ hname)⟩
    · have hname := hbare _ (hlisting variant hvariant).1
      exact ⟨hname.ne_nil, Or.inr hname⟩
  have hregistry : (∀ name ∈ table.registry, IsBareName name) ↔
      ∀ name ∈ Reference.anchorNames documents.page, IsBareName name := by
    constructor
    · intro hall name hname
      refine hall name ?_
      rw [Table.registry_of_merge hmerge, List.mem_eraseDups]
      refine List.mem_flatMap.mpr ⟨official, List.mem_cons_self, List.mem_append_left _ ?_⟩
      exact hanchors ▸ hname
    · intro hall name hname
      exact (hnames name hname).2.elim (hall name) id
  refine ⟨fun variant hvariant hunofficial => ?_, hnames, hregistry, ?_⟩
  · obtain hvariant | hvariant := hvariants variant hvariant
    · rw [(hreference variant hvariant).2] at hunofficial
      cases hunofficial
    · exact hbare _ (hlisting variant hvariant).1
  · rw [← hregistry]
    simp [Table.mem_registry_iff hmerge]

/-- An anchor whose name carries the mark of the undocumented instructions. -/
def markedAnchor : Documents where
  page := [Reference.heading "*NOP", Reference.plainTable [["C", "Carry Flag", "Not affected"]],
    Reference.plainTable [[], ["Implied", "$EA", "1", "2"]]]
  listing := "NOP (nop)\n=====\n---\nImplied|NOP|$1A|1|2"

theorem markedAnchor_bare_names_iff :
    ∃ built, markedAnchor.table.outcome = .ok built ∧
      ((∀ name ∈ built.1.registry, IsBareName name) ↔
        ∀ name ∈ Reference.anchorNames markedAnchor.page, IsBareName name) := by
  have hbuilt : ∃ built, markedAnchor.table.outcome = .ok built := ⟨_, rfl⟩
  obtain ⟨⟨table, stats⟩, hbuilt⟩ := hbuilt
  exact ⟨(table, stats), hbuilt, (bare_names_iff hbuilt).2.2.1⟩

/-- The table is built, and it holds a name that is not bare. -/
theorem markedAnchor_not_bare :
    markedAnchor.table.outcome.map (fun built => built.1.registry) =
        .ok ["*NOP".toList, "NOP".toList] ∧
      ¬IsBareName "*NOP".toList := by
  refine ⟨rfl, fun hbare => ?_⟩
  exact absurd (hbare.letters '*' (by decide)) (by decide)

end OpcodeAtlas.Documents
