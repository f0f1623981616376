import OpcodeAtlas.Proofs.Table.Progress
import OpcodeAtlas.Proofs.Table.Registry

namespace OpcodeAtlas.Table

section Reordered

variable {sources reordered : List Source} (hperm : sources.Perm reordered)

include hperm

theorem extracted_perm : (extracted sources).Perm (extracted reordered) :=
  hperm.flatMap_right _

/-- None of the conditions for a union depends on the order of the sources. In particular a mnemonic
that one source lists may be carried by a source before it or behind it. -/
theorem Mergeable.perm (hmergeable : Mergeable sources) : Mergeable reordered := by
  have hvariants := extracted_perm hperm
  refine ⟨fun variant hmem => ?_, ?_, fun source hsource name hname => ?_⟩
  · exact hmergeable.size_eq variant (hvariants.mem_iff.mpr hmem)
  · exact (hvariants.map Variant.opcode).nodup_iff.mp hmergeable.nodup_opcodes
  · obtain ⟨variant, hmem, hused⟩ :=
      hmergeable.mnemonic_used source (hperm.mem_iff.mpr hsource) name hname
    exact ⟨variant, hvariants.mem_iff.mp hmem, hused⟩

variable {table other : Table} (hmerge : (merge sources).outcome = .ok table)
  (hother : (merge reordered).outcome = .ok other)

include hmerge hother

theorem entries_merge_perm : table.opcodes.entries.Perm other.opcodes.entries := by
  rw [entries_of_merge hmerge, entries_of_merge hother]
  exact (extracted_perm hperm).map _

/-- Each name is in the registry once, whichever source brings it up first. -/
theorem registry_merge_perm : table.registry.Perm other.registry := by
  have hvariants : table.variants.Perm other.variants :=
    (entries_merge_perm hperm hmerge hother).map Prod.snd
  rw [List.perm_ext_iff_of_nodup (nodup_registry hmerge) (nodup_registry hother)]
  intro name
  simp only [mem_registry_iff hmerge, mem_registry_iff hother, hvariants.mem_iff]

/-- The line of each source goes with it, and the totals at the end are the same. -/
theorem merge_log_perm : (merge sources).log.Perm (merge reordered).log := by
  have hsize : table.size = other.size := (entries_merge_perm hperm hmerge hother).length_eq
  have hregistry := (registry_merge_perm hperm hmerge hother).length_eq
  rw [merge_log_of_ok hmerge, merge_log_of_ok hother, hsize, hregistry]
  exact ((hperm.map tally).append_left _).append_right _

end Reordered

/-- A union does not depend on the order of its sources, but for the order of what it lists. Sources
in another order can be united exactly if they could be before, and then every opcode leads to the
same variant, and the entries, the registry, the names of the sources and the log are the same up to
their order. -/
theorem merge_order_irrelevant {sources reordered : List Source} (hperm : sources.Perm reordered) :
    ((∃ table, (merge sources).outcome = .ok table) ↔
      ∃ table, (merge reordered).outcome = .ok table) ∧
    ∀ table other, (merge sources).outcome = .ok table → (merge reordered).outcome = .ok other →
      (∀ opcode, table.lookup opcode = other.lookup opcode) ∧
        table.size = other.size ∧
        table.registry.Perm other.registry ∧
        table.opcodes.entries.Perm other.opcodes.entries ∧
        table.sources.Perm other.sources ∧
        (merge sources).log.Perm (merge reordered).log := by
  constructor
  · rw [exists_merge_iff, exists_merge_iff]
    exact ⟨Mergeable.perm hperm, Mergeable.perm hperm.symm⟩
  · intro table other hmerge hother
    have hentries := entries_merge_perm hperm hmerge hother
    refine ⟨OrderedMap.get?_eq_of_perm hentries, hentries.length_eq,
      registry_merge_perm hperm hmerge hother, hentries, ?_, merge_log_perm hperm hmerge hother⟩
    rw [sources_of_merge hmerge, sources_of_merge hother]
    exact hperm.map Source.name

/-- In the other order the second document's mnemonics are discovered first. -/
theorem sharedSources_order_irrelevant :
    ∃ table other, (merge sharedSources).outcome = .ok table ∧
      (merge sharedSources.reverse).outcome = .ok other ∧
      table.registry = ["NOP".toList, "LDA".toList, "LAX".toList, "nop".toList] ∧
      other.registry = ["LAX".toList, "NOP".toList, "nop".toList, "LDA".toList] ∧
      table.registry.Perm other.registry ∧
      ∀ opcode, table.lookup opcode = other.lookup opcode := by
  have hperm : sharedSources.Perm sharedSources.reverse := (List.reverse_perm _).symm
  obtain ⟨hlookup, -, hregistry, -⟩ := (merge_order_irrelevant hperm).2 _ _ rfl rfl
  exact ⟨_, _, rfl, rfl, rfl, rfl, hregistry, hlookup⟩

end OpcodeAtlas.Table
