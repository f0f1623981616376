import OpcodeAtlas.Proofs.Report.Stats
import OpcodeAtlas.Report.Render
import Mathlib.Data.List.Infix

namespace OpcodeAtlas

namespace Report

/-- The line that shows the number of opcodes of a cycle mode. -/
def cycleLine (total : Nat) (entry : CycleMode × Nat) : Text :=
  entry.1.name.padRight 20 ++ ": " ++ Numeral.ofNat entry.2 ++ "/" ++ Numeral.ofNat total ++ " (" ++
    percent entry.2 total ++ "%)"

/-- The cycle modes that are shown, with their numbers of opcodes. -/
def shownCycleModes (stats : Stats) : List (CycleMode × Nat) :=
  sortedByName CycleMode.name stats.byCycleMode.entries

theorem byCycleMode_eq (stats : Stats) :
    byCycleMode stats = heading "CYCLE COST MODES" ++
      (shownCycleModes stats).map (cycleLine stats.totalOpcodes) :=
  rfl

theorem mem_shownCycleModes {stats : Stats} {mode : CycleMode} {count : Nat} :
    (mode, count) ∈ shownCycleModes stats ↔ stats.byCycleMode.get? mode = some count := by
  rw [OrderedMap.get?_eq_some_iff]
  exact List.mem_mergeSort

end Report

namespace Stats

/-- The tables that are recorded, in the order of the calls. -/
def tables (calls : List Call) : List Table :=
  calls.filterMap fun
    | .source _ => none
    | .table table => some table

/-- The variants of the table that is recorded last. -/
def latestVariants (calls : List Call) : List Variant :=
  ((tables calls).getLast?.map Table.variants).getD []

/-- The variants of the tables that are recorded before the last one. -/
def earlierVariants (calls : List Call) : List Variant :=
  (tables calls).dropLast.flatMap Table.variants

/-- The opcodes of the total are those that are counted by cycle mode, and those that are counted by
mode. -/
structure Balanced (stats : Stats) : Prop where
  sum_byCycleMode : stats.byCycleMode.values.sum = stats.totalOpcodes
  sum_byMode : stats.byMode.values.sum = stats.totalOpcodes

/-- The counts by mode go on from table to table, while the total starts anew. -/
structure Recorded (stats : Stats) (tables : List Table) (next : Stats) : Prop where
  byCycleMode : next.byCycleMode = ((tables.flatMap Table.variants).map Variant.cycleMode).foldl
    OrderedMap.increment stats.byCycleMode
  byMode : next.byMode = ((tables.flatMap Table.variants).map Variant.mode).foldl
    OrderedMap.increment stats.byMode
  totalOpcodes : next.totalOpcodes = (tables.getLast?.map Table.size).getD stats.totalOpcodes

theorem recorded_source (stats : Stats) (source : Source) :
    Recorded stats [] (stats.recordSource source) :=
  ⟨rfl, rfl, rfl⟩

theorem recorded_table (stats : Stats) (table : Table) :
    Recorded stats [table] (stats.recordTable table) := by
  rw [recordTable, foldl_recordVariant]
  exact ⟨by rw [List.flatMap_singleton], by rw [List.flatMap_singleton], rfl⟩

theorem Recorded.append {stats next last : Stats} {first second : List Table}
    (hfirst : Recorded stats first next) (hsecond : Recorded next second last) :
    Recorded stats (first ++ second) last := by
  refine ⟨?_, ?_, ?_⟩
  · rw [hsecond.byCycleMode, hfirst.byCycleMode, List.flatMap_append, List.map_append,
      List.foldl_append]
  · rw [hsecond.byMode, hfirst.byMode, List.flatMap_append, List.map_append, List.foldl_append]
  · rw [hsecond.totalOpcodes, hfirst.totalOpcodes, List.getLast?_append]
    cases second.getLast? <;> rfl

theorem recorded_run (calls : List Call) (stats : Stats) :
    Recorded stats (tables calls) (stats.run calls) := by
  induction calls generalizing stats with
  | nil => exact ⟨rfl, rfl, rfl⟩
  | cons call rest ih =>
    cases call with
    | source source => exact (recorded_source stats source).append (ih _)
    | table table => exact (recorded_table stats table).append (ih _)

theorem flatMap_tables (calls : List Call) :
    (tables calls).flatMap Table.variants = earlierVariants calls ++ latestVariants calls := by
  rw [earlierVariants, latestVariants]
  cases hlast : (tables calls).getLast? with
  | none =>
    rw [List.getLast?_eq_none_iff.mp hlast]
    rfl
  | some table =>
    obtain ⟨earlier, htables⟩ := List.getLast?_eq_some_iff.mp hlast
    rw [htables, List.dropLast_concat, List.flatMap_append, List.flatMap_singleton]
    rfl

/-- What the statistics of a history amount to. -/
theorem run_totals (calls : List Call) :
    let stats := run {} calls
    stats.totalOpcodes = (latestVariants calls).length ∧
      stats.byCycleMode.values.sum = (earlierVariants calls).length + (latestVariants calls).length ∧
      stats.byMode.values.sum = (earlierVariants calls).length + (latestVariants calls).length := by
  obtain ⟨hcycle, hmode, htotal⟩ := recorded_run calls {}
  refine ⟨?_, ?_, ?_⟩
  · rw [htotal, latestVariants]
    cases (tables calls).getLast? with
    | none => rfl
    | some table => exact (List.length_map Prod.snd).symm
  · rw [hcycle, flatMap_tables, OrderedMap.sum_counted, List.length_map, List.length_append]
  · rw [hmode, flatMap_tables, OrderedMap.sum_counted, List.length_map, List.length_append]

theorem balanced_run_iff (calls : List Call) :
    Balanced (run {} calls) ↔ earlierVariants calls = [] := by
  obtain ⟨htotal, hcycle, hmode⟩ := run_totals calls
  rw [← List.length_eq_zero_iff]
  constructor
  · rintro ⟨hsum, -⟩
    omega
  · intro hearlier
    exact ⟨by omega, by omega⟩

theorem collect_eq_run (sources : List Source) (table : Table) :
    collect sources table = run {} (sources.map .source ++ [.table table]) := by
  rw [run, List.foldl_append, List.foldl_map]
  rfl

/-- A whole run records one table only, whichever that is. -/
theorem balanced_collect (sources : List Source) (table : Table) :
    Balanced (collect sources table) := by
  have htables : tables (sources.map .source ++ [.table table]) = [table] := by
    simp [tables]
  rw [collect_eq_run, balanced_run_iff, earlierVariants, htables]
  rfl

/-- A table that was recorded before the last one stays so when more is recorded. -/
theorem earlierVariants_isPrefix {before calls : List Call} (hbefore : before <+: calls) :
    earlierVariants before <+: earlierVariants calls := by
  have htables : tables before <+: tables calls := hbefore.filterMap _
  refine List.IsPrefix.flatMap ?_ Table.variants
  obtain ⟨more, hmore⟩ := htables
  rw [← hmore]
  cases more with
  | nil => rw [List.append_nil]
  | cons table more =>
    rw [List.dropLast_append_of_ne_nil (List.cons_ne_nil table more)]
    exact (List.dropLast_prefix _).trans (List.prefix_append _ _)

/-- A mode is shown with the number of its variants in all tables. -/
theorem shown_above_total_iff (calls : List Call) (mode : CycleMode) :
    (∃ count, (mode, count) ∈ Report.shownCycleModes (run {} calls) ∧
        (run {} calls).totalOpcodes < count) ↔
      (latestVariants calls).countP (·.cycleMode ≠ mode) <
        (earlierVariants calls).countP (·.cycleMode = mode) := by
  obtain ⟨htotal, -, -⟩ := run_totals calls
  have hshown (count : Nat) : (mode, count) ∈ Report.shownCycleModes (run {} calls) ↔
      0 < count ∧ (earlierVariants calls).countP (·.cycleMode = mode) +
        (latestVariants calls).countP (·.cycleMode = mode) = count := by
    rw [Report.mem_shownCycleModes, (recorded_run calls {}).byCycleMode,
      OrderedMap.counts_foldl_increment, flatMap_tables, List.count_eq_countP, List.countP_map,
      List.countP_append]
    rfl
  have hlength : (latestVariants calls).length =
      (latestVariants calls).countP (·.cycleMode = mode) +
        (latestVariants calls).countP (·.cycleMode ≠ mode) := by
    rw [List.length_eq_countP_add_countP (·.cycleMode = mode)]
    simp only [decide_eq_true_eq, ne_eq]
  constructor
  · rintro ⟨count, hmem, habove⟩
    obtain ⟨-, hcount⟩ := (hshown count).mp hmem
    omega
  · intro hmore
    exact ⟨_, (hshown _).mpr ⟨by omega, rfl⟩, by omega⟩

/-- The counts by mode of a history sum up to the number of variants in all its tables, while its
total is that of the last table. So they agree after every call exactly if no table but the last one
has variants. A cycle mode is shown with more opcodes than there are in total exactly if the earlier
tables have more of its variants than the last one has of all other modes. -/
theorem balanced_throughout_iff (calls : List Call) :
    let stats := run {} calls
    let earlier := earlierVariants calls
    let latest := latestVariants calls
    stats.totalOpcodes = latest.length ∧
      stats.byCycleMode.values.sum = earlier.length + latest.length ∧
      stats.byMode.values.sum = earlier.length + latest.length ∧
      ((∀ before, before <+: calls → Balanced (run {} before)) ↔ earlier = []) ∧
      ∀ mode, (∃ count, (mode, count) ∈ Report.shownCycleModes stats ∧ stats.totalOpcodes < count) ↔
        latest.countP (·.cycleMode ≠ mode) < earlier.countP (·.cycleMode = mode) := by
  obtain ⟨htotal, hcycle, hmode⟩ := run_totals calls
  refine ⟨htotal, hcycle, hmode, ?_, shown_above_total_iff calls⟩
  constructor
  · exact fun hall => (balanced_run_iff calls).mp (hall calls List.prefix_rfl)
  · intro hearlier before hbefore
    have hprefix := earlierVariants_isPrefix hbefore
    rw [hearlier, List.prefix_nil] at hprefix
    exact (balanced_run_iff before).mpr hprefix

/-- One table recorded twice. -/
def repeatedTable : List Call :=
  let variant : Variant :=
    { opcode := 0xEA, mnemonic := "NOP", size := 1, cycles := 2, cycleMode := .fixed,
      mode := .implied }
  let table : Table := ⟨.ofList [(0xEA, variant)], ["NOP"], ["official"]⟩
  [.table table, .table table]

theorem repeatedTable_not_balanced :
    ¬Balanced (run {} repeatedTable) ∧
      "Fixed               : 2/1 (200.0%)".toList ∈ Report.byCycleMode (run {} repeatedTable) := by
  constructor
  · rintro ⟨hsum, -⟩
    exact absurd hsum (by decide)
  · have hshown : (CycleMode.fixed, 2) ∈ Report.shownCycleModes (run {} repeatedTable) :=
      Report.mem_shownCycleModes.mpr rfl
    rw [Report.byCycleMode_eq]
    refine List.mem_append_right _ (List.mem_map.mpr ⟨_, hshown, ?_⟩)
    decide +kernel

end Stats

end OpcodeAtlas
