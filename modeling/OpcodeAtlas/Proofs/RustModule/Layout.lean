import OpcodeAtlas.Proofs.Text.Pieces
import OpcodeAtlas.RustModule

namespace OpcodeAtlas.RustModule

theorem indentLine_eq (levels : Nat) (line : Text) :
    indentLine levels line = if line = [] then [] else List.replicate (2 * levels) ' ' ++ line := by
  cases line <;> rfl

theorem indentLine_zero (line : Text) : indentLine 0 line = line := by
  cases line <;> rfl

/-- A line that is moved twice gets the margins of both moves. An empty line gets none from the first
move, so it is still empty in the second one. -/
theorem indentLine_indentLine (a b : Nat) (line : Text) :
    indentLine b (indentLine a line) = indentLine (a + b) line := by
  obtain rfl | hne := eq_or_ne line []
  · rfl
  · have hmoved : List.replicate (2 * a) ' ' ++ line ≠ [] := List.append_ne_nil_of_right_ne_nil _ hne
    simp only [indentLine_eq, if_neg hne, if_neg hmoved]
    rw [← List.append_assoc, List.replicate_append_replicate, ← Nat.mul_add, Nat.add_comm]

/-- Moving a code to the right keeps its lines apart. -/
theorem splitOn_indent (code : Text) (levels : Nat) :
    (indent code levels).splitOn '\n' = (code.splitOn '\n').map (indentLine levels) := by
  have hlines : ∀ line ∈ (code.splitOn '\n').map (indentLine levels), '\n' ∉ line := by
    simp only [List.mem_map]
    rintro _ ⟨line, hline, rfl⟩
    have hnone := Text.not_mem_of_mem_splitOn hline
    rw [indentLine]
    split
    · exact List.not_mem_nil
    · simpa [margin] using hnone
  have hne : (code.splitOn '\n').map (indentLine levels) ≠ [] := by
    simpa using Text.splitOn_ne_nil '\n' code
  rw [indent, Text.unlines, Text.splitOn_join hne hlines]

theorem indent_indent (code : Text) (a b : Nat) :
    indent (indent code a) b = indent code (a + b) := by
  apply Text.splitOn_injective '\n'
  rw [splitOn_indent, splitOn_indent, splitOn_indent, List.map_map]
  exact List.map_congr_left fun line _ => indentLine_indentLine a b line

theorem indent_zero (code : Text) : indent code 0 = code := by
  apply Text.splitOn_injective '\n'
  rw [splitOn_indent, List.map_congr_left fun line _ => indentLine_zero line, List.map_id']

/-- Codes that stand one below the other are moved one by one. -/
theorem indent_unlines (codes : List Text) (levels : Nat) :
    indent (Text.unlines codes) levels = Text.unlines (codes.map fun code => indent code levels) := by
  obtain rfl | hne := eq_or_ne codes []
  · rfl
  · have hmoved : codes.map (fun code => indent code levels) ≠ [] := by simpa using hne
    apply Text.splitOn_injective '\n'
    rw [splitOn_indent, Text.splitOn_unlines hne, Text.splitOn_unlines hmoved, List.map_flatMap,
      List.flatMap_map]
    exact List.flatMap_congr fun code _ => (splitOn_indent code levels).symm

theorem indent_append_newline (upper lower : Text) (levels : Nat) :
    indent (upper ++ '\n' :: lower) levels = indent upper levels ++ '\n' :: indent lower levels := by
  have hpair (first second : Text) : Text.unlines [first, second] = first ++ '\n' :: second := by
    rw [Text.unlines_cons_of_ne_nil _ (List.cons_ne_nil _ _), Text.unlines, Text.join_singleton]
  rw [← hpair, ← hpair]
  exact indent_unlines [upper, lower] levels

end OpcodeAtlas.RustModule
