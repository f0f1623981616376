import OpcodeAtlas.Proofs.Table.Union
import OpcodeAtlas.RustModule
import Mathlib.Data.List.Induction

namespace OpcodeAtlas

namespace RustModule

/-- The dispatch is accepted exactly if the registry names the mnemonic of every variant. -/
theorem checkDispatch_eq_ok_iff {table : Table} :
    checkDispatch table = .ok () ↔ ∀ variant ∈ table.variants, variant.mnemonic ∈ table.registry := by
  have hnone : table.variants.find? (fun variant => !table.registry.contains variant.mnemonic) =
      none ↔ ∀ variant ∈ table.variants, variant.mnemonic ∈ table.registry := by
    simp [List.find?_eq_none]
  rw [← hnone, checkDispatch]
  cases table.variants.find? fun variant => !table.registry.contains variant.mnemonic with
  | none => exact iff_of_true rfl rfl
  | some variant => exact iff_of_false nofun nofun

/-- Nothing but the dispatch can be refused in a module. -/
theorem exists_render_eq_ok {table : Table}
    (hcovered : ∀ variant ∈ table.variants, variant.mnemonic ∈ table.registry) :
    ∃ text, render table = .ok text :=
  ⟨_, bind_eq_ok_iff.mpr ⟨(), checkDispatch_eq_ok_iff.mpr hcovered, rfl⟩⟩

end RustModule

namespace Table

/-- Every mnemonic of the sources as a reader of them comes upon it. -/
def discoveries (sources : List Source) : List Text :=
  sources.flatMap Source.discovered

section EraseDups

variable {α : Type} [BEq α] [LawfulBEq α]

/-- An item at the end is kept exactly if it is new. -/
theorem eraseDups_concat_of_mem {items : List α} {last : α} (hseen : last ∈ items) :
    (items ++ [last]).eraseDups = items.eraseDups := by
  simp [List.eraseDups_append, List.removeAll, hseen]

theorem eraseDups_concat_of_not_mem {items : List α} {last : α} (hnew : last ∉ items) :
    (items ++ [last]).eraseDups = items.eraseDups ++ [last] := by
  simp [List.eraseDups_append, List.removeAll, hnew, List.eraseDups_cons]

/-- What occurred before can be repeated. -/
theorem eraseDups_append_of_subset {items more : List α} (hmore : more ⊆ items) :
    (items ++ more).eraseDups = items.eraseDups := by
  induction more using List.reverseRecOn with
  | nil => rw [List.append_nil]
  | append_singleton earlier last ih =>
    have hlast : last ∈ items ++ earlier :=
      List.mem_append_left _ (hmore (List.mem_append_right _ List.mem_cons_self))
    rw [← List.append_assoc, eraseDups_concat_of_mem hlast]
    exact ih (List.Subset.trans (List.subset_append_left _ _) hmore)

theorem eraseDups_append_append_of_subset {items again : List α} (hagain : again ⊆ items)
    (more : List α) : (items ++ again ++ more).eraseDups = (items ++ more).eraseDups := by
  have hrest : more.removeAll (items ++ again) = more.removeAll items := by
    refine List.filter_congr fun item _ => ?_
    have hmem : item ∈ items ++ again ↔ item ∈ items := by
      rw [List.mem_append, or_iff_left_of_imp (@hagain item)]
    simp only [List.elem_eq_contains, List.contains_eq_mem, hmem]
  rw [List.eraseDups_append, hrest, eraseDups_append_of_subset hagain, ← List.eraseDups_append]

/-- Repetitions can be dropped from a part before they are dropped from the whole. -/
theorem eraseDups_append_eraseDups (items more : List α) :
    (items ++ more.eraseDups).eraseDups = (items ++ more).eraseDups := by
  induction more using List.reverseRecOn with
  | nil => rfl
  | append_singleton earlier last ih =>
    by_cases hseen : last ∈ earlier
    · rw [eraseDups_concat_of_mem hseen, ← List.append_assoc,
        eraseDups_concat_of_mem (List.mem_append_right _ hseen), ih]
    · rw [eraseDups_concat_of_not_mem hseen, ← List.append_assoc, ← List.append_assoc]
      by_cases hitems : last ∈ items
      · rw [eraseDups_concat_of_mem (List.mem_append_left _ hitems),
          eraseDups_concat_of_mem (List.mem_append_left _ hitems), ih]
      · have hearlier : last ∉ items ++ earlier := by simp [hitems, hseen]
        have hdistinct : last ∉ items ++ earlier.eraseDups := by simp [hitems, hseen]
        rw [eraseDups_concat_of_not_mem hearlier, eraseDups_concat_of_not_mem hdistinct, ih]

/-- Of the occurrences of an item the first one is kept. -/
theorem pairwise_idxOf_eraseDups (items : List α) :
    items.eraseDups.Pairwise fun item later => items.idxOf item < items.idxOf later := by
  induction items using List.reverseRecOn with
  | nil => exact List.Pairwise.nil
  | append_singleton earlier last ih =>
    have hkept : earlier.eraseDups.Pairwise fun item later =>
        (earlier ++ [last]).idxOf item < (earlier ++ [last]).idxOf later := by
      refine ih.imp_of_mem fun {item later} hitem hlater hlt => ?_
      rw [List.idxOf_append_of_mem (List.mem_eraseDups.mp hitem),
        List.idxOf_append_of_mem (List.mem_eraseDups.mp hlater)]
      exact hlt
    by_cases hseen : last ∈ earlier
    · rwa [eraseDups_concat_of_mem hseen]
    · rw [eraseDups_concat_of_not_mem hseen, List.pairwise_append]
      refine ⟨hkept, List.pairwise_singleton _ _, fun item hitem later hlater => ?_⟩
      obtain rfl := List.mem_singleton.mp hlater
      have hitem := List.mem_eraseDups.mp hitem
      rw [List.idxOf_append_of_mem hitem, List.idxOf_append_of_notMem hseen]
      exact Nat.lt_add_right _ (List.idxOf_lt_length_of_mem hitem)

end EraseDups

/-- Sorting items by a key takes each of them to one place, if every key that occurs is among the
keys and none is named twice. -/
theorem flatMap_filter_perm {α κ : Type} [DecidableEq κ] (key : α → κ) {keys : List κ}
    {items : List α} (hnodup : keys.Nodup) (hkeys : ∀ item ∈ items, key item ∈ keys) :
    (keys.flatMap fun name => items.filter (key · = name)).Perm items := by
  induction keys generalizing items with
  | nil =>
    rw [List.eq_nil_iff_forall_not_mem.mpr fun item hitem => List.not_mem_nil (hkeys item hitem)]
    exact List.Perm.refl _
  | cons name rest ih =>
    obtain ⟨hname, hrest⟩ := List.nodup_cons.mp hnodup
    -- The items with the first key are taken out, and the others go to the other keys.
    let others := items.filter fun item => !decide (key item = name)
    have hothers : ∀ item ∈ others, key item ∈ rest := by
      intro item hitem
      obtain ⟨hitem, hne⟩ := List.mem_filter.mp hitem
      exact (List.mem_cons.mp (hkeys item hitem)).resolve_left (by simpa using hne)
    have hparts : (rest.flatMap fun other => items.filter (key · = other)) =
        rest.flatMap fun other => others.filter (key · = other) := by
      refine List.flatMap_congr fun other hother => ?_
      rw [List.filter_filter]
      refine List.filter_congr fun item _ => ?_
      by_cases hkey : key item = other
      · have hne : other ≠ name := fun heq => hname (heq ▸ hother)
        simp [hkey, hne]
      · simp [hkey]
    rw [List.flatMap_cons, hparts]
    exact ((ih hrest hothers).append_left _).trans (List.filter_append_perm _ _)

variable {sources : List Source} {table : Table}

theorem variants_of_merge (hmerge : (merge sources).outcome = .ok table) :
    table.variants = extracted sources :=
  (merge_outcome_eq_ok_iff.mp hmerge).1.values_eq

theorem entries_of_merge (hmerge : (merge sources).outcome = .ok table) :
    table.opcodes.entries = (extracted sources).map fun variant => (variant.opcode, variant) := by
  simpa [OrderedMap.empty] using (merge_outcome_eq_ok_iff.mp hmerge).1.entries_eq

theorem sources_of_merge (hmerge : (merge sources).outcome = .ok table) :
    table.sources = sources.map Source.name :=
  (merge_outcome_eq_ok_iff.mp hmerge).2.2.2

theorem mem_of_entry (hmerge : (merge sources).outcome = .ok table) {entry : Int × Variant}
    (hentry : entry ∈ table.opcodes.entries) :
    entry.1 = entry.2.opcode ∧ entry.2 ∈ table.variants := by
  rw [entries_of_merge hmerge] at hentry
  obtain ⟨variant, hvariant, rfl⟩ := List.mem_map.mp hentry
  exact ⟨rfl, variants_of_merge hmerge ▸ hvariant⟩

theorem size_of_merge (hmerge : (merge sources).outcome = .ok table) {variant : Variant}
    (hvariant : variant ∈ table.variants) : variant.size = variant.mode.size :=
  (merge_outcome_eq_ok_iff.mp hmerge).1.size_eq variant (variants_of_merge hmerge ▸ hvariant)

theorem registry_of_merge (hmerge : (merge sources).outcome = .ok table) :
    table.registry = (discoveries sources).eraseDups :=
  (merge_outcome_eq_ok_iff.mp hmerge).2.2.1

theorem nodup_registry (hmerge : (merge sources).outcome = .ok table) : table.registry.Nodup := by
  rw [registry_of_merge hmerge]
  refine (pairwise_idxOf_eraseDups (discoveries sources)).imp fun {name later} hlt => ?_
  rintro rfl
  exact Nat.lt_irrefl _ hlt

/-- The merge refuses a mnemonic without a variant, and no variant is without its mnemonic. -/
theorem mem_registry_iff (hmerge : (merge sources).outcome = .ok table) {name : Text} :
    name ∈ table.registry ↔ ∃ variant ∈ table.variants, variant.mnemonic = name := by
  obtain ⟨hextends, hused, hregistry, -⟩ := merge_outcome_eq_ok_iff.mp hmerge
  rw [hregistry, mem_registryOf_iff, variants_of_merge hmerge]
  constructor
  · rintro (⟨source, hsource, hname⟩ | hvariant)
    · exact hused source hsource name hname
    · exact hvariant
  · exact Or.inr

theorem mem_variantsFor {variant : Variant} {name : Text} :
    variant ∈ table.variantsFor name ↔ variant ∈ table.variants ∧ variant.mnemonic = name := by
  simp [variantsFor]

theorem variantsFor_ne_nil_iff (hmerge : (merge sources).outcome = .ok table) {name : Text} :
    table.variantsFor name ≠ [] ↔ name ∈ table.registry := by
  rw [mem_registry_iff hmerge, variantsFor, Ne, List.filter_eq_nil_iff]
  simp

/-- The registry shares out the entries of the table among its names. -/
theorem entries_perm (hmerge : (merge sources).outcome = .ok table) :
    (table.registry.flatMap fun name =>
        (table.variantsFor name).map fun variant => (variant.opcode, variant)).Perm
      table.opcodes.entries := by
  have hkeys : ∀ variant ∈ table.variants, variant.mnemonic ∈ table.registry :=
    fun variant hvariant => (mem_registry_iff hmerge).mpr ⟨variant, hvariant, rfl⟩
  rw [entries_of_merge hmerge, ← variants_of_merge hmerge, ← List.map_flatMap]
  exact (flatMap_filter_perm Variant.mnemonic (nodup_registry hmerge) hkeys).map _

theorem exists_render_of_merge (hmerge : (merge sources).outcome = .ok table) :
    ∃ text, RustModule.render table = .ok text :=
  RustModule.exists_render_eq_ok fun variant hvariant =>
    (mem_registry_iff hmerge).mpr ⟨variant, hvariant, rfl⟩

/-- The registry of a merged table names each mnemonic of the variants once, in the order in which
the sources first bring it up. So every name has variants, the variants of the names are all
entries and no entry falls to two names, and a module can be rendered. -/
theorem registry_covers (hmerge : (merge sources).outcome = .ok table) :
    table.registry.Nodup ∧
      (∀ name, name ∈ table.registry ↔ ∃ variant ∈ table.variants, variant.mnemonic = name) ∧
      (∀ name, name ∈ table.registry ↔ name ∈ discoveries sources) ∧
      (table.registry.Pairwise fun name later =>
        (discoveries sources).idxOf name < (discoveries sources).idxOf later) ∧
      (∀ name, table.variantsFor name ≠ [] ↔ name ∈ table.registry) ∧
      (table.registry.flatMap fun name =>
          (table.variantsFor name).map fun variant => (variant.opcode, variant)).Perm
        table.opcodes.entries ∧
      (table.registry.Pairwise fun name other =>
        (table.variantsFor name).Disjoint (table.variantsFor other)) ∧
      ∃ text, RustModule.render table = .ok text := by
  have hregistry := registry_of_merge hmerge
  refine ⟨nodup_registry hmerge, fun name => mem_registry_iff hmerge, fun name => ?_, ?_,
    fun name => variantsFor_ne_nil_iff hmerge, entries_perm hmerge, ?_, ?_⟩
  · rw [hregistry, List.mem_eraseDups]
  · rw [hregistry]
    exact pairwise_idxOf_eraseDups (discoveries sources)
  · refine (nodup_registry hmerge).imp fun {name other} hne variant hname hother => ?_
    exact hne ((mem_variantsFor.mp hname).2.symm.trans (mem_variantsFor.mp hother).2)
  · exact RustModule.exists_render_eq_ok fun variant hvariant =>
      (mem_registry_iff hmerge).mpr ⟨variant, hvariant, rfl⟩

/-- Two documents that share a mnemonic. The second one has a variant whose mnemonic it does not
list, and one whose mnemonic differs from another in case only. -/
def sharedSources : List Source :=
  [{ name := "official", mnemonics := ["NOP", "LDA"],
     variants := [
       { opcode := 0xA9, mnemonic := "LDA", size := 2, cycles := 2, cycleMode := .fixed,
         mode := .immediate },
       { opcode := 0xEA, mnemonic := "NOP", size := 1, cycles := 2, cycleMode := .fixed,
         mode := .implied }] },
   { name := "undocumented", mnemonics := ["LAX", "NOP"],
     variants := [
       { opcode := 0x1A, mnemonic := "NOP", size := 1, cycles := 2, cycleMode := .fixed,
         mode := .implied, official := false },
       { opcode := 0xA7, mnemonic := "LAX", size := 2, cycles := 3, cycleMode := .fixed,
         mode := .zeroPage, official := false },
       { opcode := 0x3A, mnemonic := "nop", size := 1, cycles := 2, cycleMode := .fixed,
         mode := .implied, official := false }] }]

theorem sharedSources_registry_covers :
    ∃ table, (merge sharedSources).outcome = .ok table ∧
      table.registry = ["NOP".toList, "LDA".toList, "LAX".toList, "nop".toList] ∧
      (∀ name, table.variantsFor name ≠ [] ↔ name ∈ table.registry) ∧
      ∃ text, RustModule.render table = .ok text := by
  obtain ⟨-, -, -, -, hvariants, -, -, hrender⟩ := @registry_covers sharedSources _ rfl
  exact ⟨_, rfl, rfl, hvariants, hrender⟩

end Table

end OpcodeAtlas
