import OpcodeAtlas.Proofs.Documents.Entries
import OpcodeAtlas.Proofs.Text.Sign

namespace OpcodeAtlas

/-- The text of a cycle cell gives the count. A dash stands for an unknown count, which is taken as
zero; a page with such a cell is refused. -/
def Cell.Counts (cell : Text) (count : Int) : Prop :=
  if cell = "-" then count = 0 else Numeral.readInt? .decimal cell = some count

theorem Cell.neg_iff_of_counts {cell : Text} {count : Int} (hcounts : Counts cell count) :
    count < 0 ↔ Numeral.IsNegative cell := by
  unfold Counts at hcounts
  split at hcounts
  · next hdash =>
    refine iff_of_false (by omega) ?_
    rintro ⟨magnitude, hstrip, c, hc, -⟩
    rw [hdash] at hstrip
    obtain rfl : [] = magnitude := (List.cons.inj hstrip).2
    cases hc
  · exact Numeral.readInt?_neg_iff hcounts

namespace Reference

/-- The part of the fourth cell of a row that stands in front of the note. -/
def countCell (row : Markup.Start) : Text :=
  match (row.descendants "td")[3]? with
  | some cell => Text.trim (countAndNote (cellText cell)).1
  | none => []

theorem counts_of_rowGives {row : Markup.Start} {variant : Variant} (hgives : RowGives row variant) :
    Cell.Counts (countCell row) variant.cycles := by
  obtain ⟨mnemonic, location, hread⟩ := hgives
  obtain ⟨_, _, _, cyclesCell, _, hcells, -, -, -, hcycles, -, -, -, -⟩ :=
    readVariantRow_eq_ok_iff.mp hread
  have hcount := Cell.number_eq_ok_iff.mp hcycles
  have hcell : countCell row = Text.trim (countAndNote (cellText cyclesCell)).1 := by
    rw [countCell, hcells]
    rfl
  -- A dash is no numeral, so a count that is read is not one.
  rw [Cell.Counts, hcell, if_neg]
  · exact hcount
  · intro hdash
    rw [hdash] at hcount
    cases hcount

end Reference

namespace Listing

/-- The fifth column of a row without the marks of a penalty. -/
def countCell (row : Text) : Text :=
  match (row.splitOn '|')[4]? with
  | some cell => Text.trim ((Text.trim cell).filter (· != pageCrossMark))
  | none => []

theorem counts_of_rowGives {row : Text} {variant : Variant} (hgives : RowGives row variant) :
    Cell.Counts (countCell row) variant.cycles := by
  obtain ⟨mnemonic, location?, hread⟩ := hgives
  obtain ⟨_, _, _, _, cyclesCell, hcells, -, -, hcycles, -, -, -, -, -⟩ :=
    readRow_eq_ok_iff.mp hread
  have hcell : countCell row = Text.trim (cyclesCell.filter (· != pageCrossMark)) := by
    have hfifth := congrArg (·[4]?) hcells
    simp only [List.getElem?_map] at hfifth
    obtain ⟨cell, hget, rfl⟩ := Option.map_eq_some_iff.mp hfifth
    rw [countCell, hget]
  unfold cycles at hcycles
  dsimp only at hcycles
  rw [← hcell] at hcycles
  unfold Cell.Counts
  split at hcycles
  · next hdash =>
    rw [if_pos hdash]
    exact (Except.ok.inj hcycles).symm
  · next hdash =>
    rw [if_neg hdash]
    exact Cell.number_eq_ok_iff.mp hcycles

end Listing

namespace Documents

/-- The texts that the cycle counts are read from, first those of the page. -/
def countCells (documents : Documents) : Except Fault (List Text) := do
  let rows ← Listing.variantRows documents.listing
  return (Reference.variantRows documents.page).map Reference.countCell ++
    rows.map Listing.countCell

/-- The counts of a table that is built are what the cycle cells print, sign included, and nothing
else is asked of them. So none of them is negative exactly if no cell prints a negative number. -/
theorem cycles_nonneg_iff {documents : Documents} {table : Table} {stats : Stats}
    (hbuilt : documents.table.outcome = .ok (table, stats)) :
    ∃ cells, documents.countCells = .ok cells ∧
      List.Forall₂ (fun cell variant => Cell.Counts cell variant.cycles) cells table.variants ∧
      ((∀ variant ∈ table.variants, 0 ≤ variant.cycles) ↔
        ∀ cell ∈ cells, ¬Numeral.IsNegative cell) := by
  obtain ⟨official, undocumented, hvariants, -, -, hpage, rows, hrows, hlisting⟩ :=
    variants_of_table hbuilt
  have hcounts : List.Forall₂ (fun cell variant => Cell.Counts cell (Variant.cycles variant))
      ((Reference.variantRows documents.page).map Reference.countCell ++
        rows.map Listing.countCell) table.variants := by
    rw [hvariants]
    apply List.rel_append
    · rw [List.forall₂_map_left_iff]
      exact hpage.imp fun _ _ => Reference.counts_of_rowGives
    · rw [List.forall₂_map_left_iff]
      exact hlisting.imp fun _ _ => Listing.counts_of_rowGives
  refine ⟨_, bind_eq_ok_iff.mpr ⟨rows, hrows, rfl⟩, hcounts, Iff.symm ?_⟩
  apply forall_mem_iff_of_forall₂ hcounts
  intro cell variant hcell
  rw [← Cell.neg_iff_of_counts hcell, Int.not_lt]

/-- A row of each document whose count is negative. -/
def negativeCounts : Documents where
  page := [Reference.heading "ADC", Reference.plainTable [["C", "Carry Flag", "Set"]],
    Reference.plainTable [[], ["Immediate", "$69", "2", "-2"]]]
  listing := "LAX (lax)\n=====\n---\nAbsolute|LAX abcd|$AF|3|-3*"

theorem negativeCounts_nonneg_iff :
    ∃ built cells, negativeCounts.table.outcome = .ok built ∧ negativeCounts.countCells = .ok cells ∧
      ((∀ variant ∈ built.1.variants, 0 ≤ variant.cycles) ↔
        ∀ cell ∈ cells, ¬Numeral.IsNegative cell) := by
  obtain ⟨built, hbuilt⟩ : ∃ built, negativeCounts.table.outcome = .ok built := ⟨_, rfl⟩
  obtain ⟨cells, hcells, -, hiff⟩ := cycles_nonneg_iff hbuilt
  exact ⟨built, cells, hbuilt, hcells, hiff⟩

/-- The table is built, with the negative counts in it. -/
theorem negativeCounts_negative :
    ∃ built, negativeCounts.table.outcome = .ok built ∧
      built.1.variants.map Variant.cycles = [-2, -3] ∧
      ¬∀ variant ∈ built.1.variants, 0 ≤ variant.cycles := by
  refine ⟨_, rfl, rfl, fun hnonneg => ?_⟩
  exact absurd (hnonneg _ List.mem_cons_self) (by decide)

end Documents

end OpcodeAtlas
