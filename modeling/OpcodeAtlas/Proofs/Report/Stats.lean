import OpcodeAtlas.Proofs.Table.Order
import OpcodeAtlas.Report.Stats

namespace OpcodeAtlas.Stats

/-- The flag effects that all instructions of the sources have together. -/
def flagEffectsOf (sources : List Source) : Nat :=
  ((sources.flatMap Source.instructions).map fun instruction =>
    instruction.flagEffects.length).sum

/-- What a source is recorded with, under its name. -/
def contributionOf (source : Source) : Text × Contribution :=
  (source.name, ⟨source.variants.length, source.mnemonics⟩)

/-- Recording sources touches neither the modes nor the total. -/
theorem foldl_recordSource (sources : List Source) (stats : Stats) :
    sources.foldl recordSource stats = { stats with
      bySource := (sources.map contributionOf).foldl
        (fun map entry => map.insert entry.1 entry.2) stats.bySource
      flagEffects := stats.flagEffects + flagEffectsOf sources } := by
  induction sources generalizing stats with
  | nil => rfl
  | cons source rest ih =>
    have heffects : flagEffectsOf (source :: rest) =
        (source.instructions.flatMap Instruction.flagEffects).length + flagEffectsOf rest := by
      rw [flagEffectsOf, List.flatMap_cons, List.map_append, List.sum_append, List.length_flatMap]
      rfl
    rw [List.foldl_cons, ih, heffects, ← Nat.add_assoc]
    rfl

/-- Each variant counts once for its cycle mode and once for its mode, and for nothing else. -/
theorem foldl_recordVariant (variants : List Variant) (stats : Stats) :
    variants.foldl recordVariant stats = { stats with
      byCycleMode := (variants.map Variant.cycleMode).foldl OrderedMap.increment stats.byCycleMode
      byMode := (variants.map Variant.mode).foldl OrderedMap.increment stats.byMode } := by
  induction variants generalizing stats with
  | nil => rfl
  | cons variant rest ih => exact ih (stats.recordVariant variant)

theorem collect_eq (sources : List Source) (table : Table) :
    collect sources table = {
      bySource := .ofList (sources.map contributionOf)
      byCycleMode := (table.variants.map Variant.cycleMode).foldl OrderedMap.increment .empty
      byMode := (table.variants.map Variant.mode).foldl OrderedMap.increment .empty
      flagEffects := flagEffectsOf sources
      totalOpcodes := table.size } := by
  rw [collect, recordTable, foldl_recordVariant, foldl_recordSource, Nat.zero_add]
  rfl

/-- Sources with names of their own contribute all their variants. -/
theorem sum_contributions {sources : List Source} (hnames : (sources.map Source.name).Nodup) :
    ((OrderedMap.ofList (sources.map contributionOf)).values.map Contribution.variants).sum =
      (Table.extracted sources).length := by
  have hkeys : ((sources.map contributionOf).map Prod.fst).Nodup := by
    rw [List.map_map]
    exact hnames
  rw [OrderedMap.values, OrderedMap.entries_ofList hkeys, List.map_map, List.map_map,
    Table.extracted, List.length_flatMap]
  rfl

/-- The statistics of a whole run count every opcode of the table once in each of their three
listings: under the one source that brought it, under its cycle mode and under its mode. A mode is
listed with the number of its opcodes, and only if there is one. -/
theorem collect_counts_each_opcode {sources : List Source} {table : Table}
    (hnames : (sources.map Source.name).Nodup) (hmerge : (Table.merge sources).outcome = .ok table) :
    let stats := collect sources table
    stats.totalOpcodes = table.size ∧
      (stats.bySource.values.map Contribution.variants).sum = stats.totalOpcodes ∧
      stats.byCycleMode.values.sum = stats.totalOpcodes ∧
      stats.byMode.values.sum = stats.totalOpcodes ∧
      (∀ mode n, stats.byCycleMode.get? mode = some n ↔
        0 < n ∧ (table.variants.map Variant.cycleMode).count mode = n) ∧
      (∀ mode n, stats.byMode.get? mode = some n ↔
        0 < n ∧ (table.variants.map Variant.mode).count mode = n) ∧
      stats.flagEffects = flagEffectsOf sources := by
  rw [collect_eq]
  have hmerged : (Table.extracted sources).length = table.size := by
    rw [← Table.variants_of_merge hmerge]
    exact List.length_map _
  have hcounted : ∀ {κ : Type} (key : Variant → κ), (table.variants.map key).length = table.size := by
    intro κ key
    rw [List.length_map]
    exact List.length_map _
  refine ⟨rfl, (sum_contributions hnames).trans hmerged,
    (OrderedMap.sum_counted _).trans (hcounted _), (OrderedMap.sum_counted _).trans (hcounted _),
    OrderedMap.counts_foldl_increment _, OrderedMap.counts_foldl_increment _, rfl⟩

/-- Two documents, one of them with instructions and their flag effects. No variant is that of a
branch. -/
def flaggedSources : List Source :=
  let load : Variant :=
    { opcode := 0xBD, mnemonic := "LDA", size := 3, cycles := 4, cycleMode := .pageCrossPenalty,
      mode := .absoluteX, cycleNote := "(+1 if page crossed)" }
  let shift : Variant :=
    { opcode := 0x0A, mnemonic := "ASL", size := 1, cycles := 2, cycleMode := .fixed,
      mode := .accumulator }
  [{ name := "official", mnemonics := ["LDA", "ASL"], variants := [load, shift],
     instructions := [
       ⟨"LDA", [("Z", "Set if A = 0"), ("N", "Set if bit 7 of A is set")], [load]⟩,
       ⟨"ASL", [("C", "Set to contents of old bit 7")], [shift]⟩] },
   { name := "undocumented", mnemonics := ["LAX"],
     variants := [
       { opcode := 0xBF, mnemonic := "LAX", size := 3, cycles := 4, cycleMode := .pageCrossPenalty,
         mode := .absoluteY, official := false }] }]

theorem flaggedSources_counts :
    (flaggedSources.map Source.name).Nodup ∧
      ∃ table, (Table.merge flaggedSources).outcome = .ok table ∧
        let stats := collect flaggedSources table
        stats.totalOpcodes = 3 ∧
          (stats.bySource.values.map Contribution.variants).sum = 3 ∧
          stats.byCycleMode.values.sum = 3 ∧
          stats.byCycleMode.get? .pageCrossPenalty = some 2 ∧
          stats.byCycleMode.get? .branchTakenPenalty = none ∧
          stats.flagEffects = 3 := by
  have hnames : (flaggedSources.map Source.name).Nodup := by decide
  obtain ⟨htotal, hsource, hcycle, -, hmode, -, hflags⟩ :=
    @collect_counts_each_opcode flaggedSources _ hnames rfl
  refine ⟨hnames, _, rfl, htotal, hsource.trans htotal, hcycle.trans htotal, ?_, ?_, hflags⟩
  · exact (hmode .pageCrossPenalty 2).mpr (by decide)
  · rw [Option.eq_none_iff_forall_ne_some]
    intro n hsome
    obtain ⟨hpos, hcount⟩ := (hmode .branchTakenPenalty n).mp hsome
    exact absurd hcount (Nat.ne_of_lt hpos)

end OpcodeAtlas.Stats
