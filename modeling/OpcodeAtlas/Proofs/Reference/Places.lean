import OpcodeAtlas.Reference.Extract
import Mathlib.Data.List.TakeWhile

namespace OpcodeAtlas.Reference

open Markup (Node Start starts)

/-- The elements of a page, each with its place in the order of the start tags. -/
def placed (page : List Node) : List (Start × Nat) :=
  (starts none page).zipIdx

/-- The anchors of the instructions with their places. -/
def placedAnchors (page : List Node) : List (Start × Nat) :=
  (placed page).filter fun start => isMnemonicAnchor start.1

/-- The tables behind the first anchor with their places. -/
def placedTables (page : List Node) : List (Start × Nat) :=
  ((placed page).dropWhile fun start => !isMnemonicAnchor start.1).filter
    fun start => start.1.tag = "table"

/-- A table starts behind the anchor of an index and before the next anchor, if there is one. -/
def inSection (page : List Node) (index : Nat) (table : Start × Nat) : Bool :=
  (placedAnchors page)[index]?.any (·.2 < table.2) &&
    (placedAnchors page)[index + 1]?.all (table.2 < ·.2)

/-- The tables between the anchor of an index and the next one. -/
def sectionTables (page : List Node) (index : Nat) : List (Start × Nat) :=
  (placedTables page).filter (inSection page index)

theorem map_fst_placedAnchors (page : List Node) :
    (placedAnchors page).map Prod.fst = anchors page := by
  have hmap := List.filter_map (f := Prod.fst) (p := isMnemonicAnchor) (l := placed page)
  rw [placed, List.zipIdx_map_fst] at hmap
  exact hmap.symm

theorem map_fst_placedTables (page : List Node) :
    (placedTables page).map Prod.fst = tables page := by
  have hmap := List.dropWhile_map (f := Prod.fst) (p := (!isMnemonicAnchor ·)) (l := placed page)
  rw [placed, List.zipIdx_map_fst] at hmap
  rw [tables, hmap, List.filter_map]
  rfl

theorem length_placedAnchors (page : List Node) :
    (placedAnchors page).length = (anchors page).length := by
  rw [← map_fst_placedAnchors, List.length_map]

theorem length_placedTables (page : List Node) :
    (placedTables page).length = (tables page).length := by
  rw [← map_fst_placedTables, List.length_map]

theorem pairwise_placed (page : List Node) :
    (placed page).Pairwise fun start later => start.2 < later.2 := by
  rw [placed, ← List.pairwise_map, List.zipIdx_map_snd]
  exact List.pairwise_lt_range'

theorem pairwise_placedAnchors (page : List Node) :
    (placedAnchors page).Pairwise fun anchor later => anchor.2 < later.2 :=
  (pairwise_placed page).filter _

theorem pairwise_placedTables (page : List Node) :
    (placedTables page).Pairwise fun table later => table.2 < later.2 :=
  ((pairwise_placed page).sublist (List.dropWhile_sublist _)).filter _

private theorem eq_of_place_eq {page : List Node} {start other : Start × Nat}
    (hstart : start ∈ placed page) (hother : other ∈ placed page) (hplace : start.2 = other.2) :
    start = other := by
  rw [placed, List.mem_zipIdx_iff_getElem?] at hstart hother
  rw [hplace, hother] at hstart
  exact Prod.ext (Option.some.inj hstart).symm hplace

/-- Anchors and tables have different tags, so they start at different places. -/
theorem place_ne {page : List Node} {anchor table : Start × Nat}
    (hanchor : anchor ∈ placedAnchors page) (htable : table ∈ placedTables page) :
    anchor.2 ≠ table.2 := by
  intro hplace
  obtain ⟨hplaced, hmnemonic⟩ := List.mem_filter.mp hanchor
  obtain ⟨hrest, htag⟩ := List.mem_filter.mp htable
  have heq := eq_of_place_eq hplaced ((List.dropWhile_sublist _).mem hrest) hplace
  rw [heq, isMnemonicAnchor, decide_eq_true_eq] at hmnemonic
  rw [decide_eq_true_eq, hmnemonic.2] at htag
  exact absurd htag (by decide)

/-- The first anchor is where the tables begin to count. -/
theorem first_anchor_lt {page : List Node} {table : Start × Nat}
    (htable : table ∈ placedTables page) :
    ∃ anchor, (placedAnchors page)[0]? = some anchor ∧ anchor.2 < table.2 := by
  obtain ⟨hrest, -⟩ := List.mem_filter.mp htable
  have hsorted := (pairwise_placed page).sublist
    (List.dropWhile_sublist fun start => !isMnemonicAnchor start.1)
  have hhead : (placedAnchors page).head? =
      ((placed page).dropWhile fun start => !isMnemonicAnchor start.1).head? := by
    rw [placedAnchors, List.head?_filter, List.find?_eq_head?_dropWhile_not]
  cases hcut : (placed page).dropWhile fun start => !isMnemonicAnchor start.1 with
  | nil => simp [hcut] at hrest
  | cons anchor rest =>
    rw [hcut] at hrest hsorted hhead
    have hfirst : (placedAnchors page)[0]? = some anchor := by
      rw [← List.head?_eq_getElem?, hhead, List.head?_cons]
    have hle : anchor.2 ≤ table.2 := by
      obtain rfl | hmem := List.mem_cons.mp hrest
      · exact Nat.le_refl _
      · exact Nat.le_of_lt (List.rel_of_pairwise_cons hsorted hmem)
    have hne := place_ne (List.mem_of_getElem? hfirst) htable
    exact ⟨anchor, hfirst, by omega⟩

/-- A table starts before the anchor of an index. Behind the last anchor nothing is left to be
before. -/
def beforeAnchor (page : List Node) (index : Nat) (table : Start × Nat) : Bool :=
  (placedAnchors page)[index]?.all (table.2 < ·.2)

/-- The number of tables in the sections up to an index. -/
def tablesBefore (page : List Node) (index : Nat) : Nat :=
  (placedTables page).countP (beforeAnchor page index)

/-- In a list where a property only ever stops to hold, the items that have it are the first. -/
theorem holds_iff_lt_countP {α : Type} {p : α → Bool} {items : List α} {index : Nat} {item : α}
    (hsorted : items.Pairwise fun item later => p later = true → p item = true)
    (hget : items[index]? = some item) : p item = true ↔ index < items.countP p := by
  induction items generalizing index with
  | nil => simp at hget
  | cons head rest ih =>
    obtain ⟨hhead, hrest⟩ := List.pairwise_cons.mp hsorted
    cases index with
    | zero =>
      obtain rfl : head = item := by simpa using hget
      rw [List.countP_pos_iff]
      constructor
      · exact fun hholds => ⟨head, List.mem_cons_self, hholds⟩
      · rintro ⟨other, hmem, hother⟩
        obtain rfl | hmem := List.mem_cons.mp hmem
        · exact hother
        · exact hhead other hmem hother
    | succ index =>
      rw [List.getElem?_cons_succ] at hget
      rw [ih hrest hget]
      by_cases hfirst : p head = true
      · rw [List.countP_cons_of_pos hfirst]
        omega
      · have hnone : rest.countP p = 0 := by
          rw [List.countP_eq_zero]
          exact fun other hmem hother => hfirst (hhead other hmem hother)
        rw [List.countP_cons_of_neg hfirst, hnone]
        omega

theorem beforeAnchor_eq_true_iff {page : List Node} {index : Nat} {table : Start × Nat} :
    beforeAnchor page index table = true ↔
      ∀ anchor, (placedAnchors page)[index]? = some anchor → table.2 < anchor.2 := by
  simp only [beforeAnchor, Option.all_eq_true, decide_eq_true_eq]

theorem beforeAnchor_succ {page : List Node} {index : Nat} {table : Start × Nat}
    (hbefore : beforeAnchor page index table = true) :
    beforeAnchor page (index + 1) table = true := by
  rw [beforeAnchor_eq_true_iff] at hbefore ⊢
  intro next hnext
  obtain ⟨hsucc, rfl⟩ := List.getElem?_eq_some_iff.mp hnext
  have hplace := hbefore _ (List.getElem?_eq_getElem (Nat.lt_of_succ_lt hsucc))
  have hsorted := List.pairwise_iff_getElem.mp (pairwise_placedAnchors page) index (index + 1)
    (Nat.lt_of_succ_lt hsucc) hsucc (Nat.lt_succ_self index)
  omega

/-- Since a table and an anchor never start at one place, a table that does not start before the
anchor of a section starts behind it. -/
theorem inSection_eq {page : List Node} {index : Nat} {table : Start × Nat}
    (htable : table ∈ placedTables page) :
    inSection page index table =
      (!beforeAnchor page index table && beforeAnchor page (index + 1) table) := by
  rw [inSection, beforeAnchor, beforeAnchor]
  congr 1
  cases hanchor : (placedAnchors page)[index]? with
  | none => rfl
  | some anchor =>
    have hne := place_ne (List.mem_of_getElem? hanchor) htable
    simp only [Option.any_some, Option.all_some, ← decide_not, decide_eq_decide]
    omega

/-- The number of a table tells which anchors are behind it. -/
theorem beforeAnchor_iff {page : List Node} {index number : Nat} {table : Start × Nat}
    (hget : (placedTables page)[number]? = some table) :
    beforeAnchor page index table = true ↔ number < tablesBefore page index := by
  refine holds_iff_lt_countP ((pairwise_placedTables page).imp ?_) hget
  intro table later hplace hlater
  rw [beforeAnchor_eq_true_iff] at hlater ⊢
  exact fun anchor hanchor => Nat.lt_trans hplace (hlater anchor hanchor)

theorem inSection_iff {page : List Node} {index number : Nat} {table : Start × Nat}
    (hget : (placedTables page)[number]? = some table) :
    inSection page index table = true ↔
      tablesBefore page index ≤ number ∧ number < tablesBefore page (index + 1) := by
  rw [inSection_eq (List.mem_of_getElem? hget), Bool.and_eq_true, beforeAnchor_iff hget,
    Bool.not_eq_true', ← Bool.not_eq_true, beforeAnchor_iff hget, Nat.not_lt]

theorem tablesBefore_zero (page : List Node) : tablesBefore page 0 = 0 := by
  rw [tablesBefore, List.countP_eq_zero]
  intro table htable hbefore
  obtain ⟨anchor, hanchor, hlt⟩ := first_anchor_lt htable
  exact Nat.lt_asymm hlt (beforeAnchor_eq_true_iff.mp hbefore anchor hanchor)

theorem tablesBefore_length (page : List Node) :
    tablesBefore page (anchors page).length = (tables page).length := by
  rw [tablesBefore, ← length_placedTables, List.countP_eq_length]
  intro table _
  rw [beforeAnchor, ← length_placedAnchors, List.getElem?_eq_none (Nat.le_refl _), Option.all_none]

/-- Between one anchor and the next lie the tables of the section. -/
theorem tablesBefore_succ (page : List Node) (index : Nat) :
    tablesBefore page (index + 1) =
      tablesBefore page index + (sectionTables page index).length := by
  have hsection : (sectionTables page index).length =
      (placedTables page).countP fun table =>
        beforeAnchor page (index + 1) table && !beforeAnchor page index table := by
    rw [sectionTables, ← List.countP_eq_length_filter]
    refine List.countP_congr fun table htable => ?_
    rw [inSection_eq htable, Bool.and_comm]
  have hbefore : tablesBefore page index =
      (placedTables page).countP fun table =>
        beforeAnchor page (index + 1) table && beforeAnchor page index table := by
    refine List.countP_congr fun table _ => ?_
    rw [Bool.and_eq_true]
    exact ⟨fun hholds => ⟨beforeAnchor_succ hholds, hholds⟩, And.right⟩
  rw [hsection, hbefore, tablesBefore,
    List.countP_eq_countP_filter_add _ _ (beforeAnchor page index), List.countP_filter,
    List.countP_filter]

end OpcodeAtlas.Reference
