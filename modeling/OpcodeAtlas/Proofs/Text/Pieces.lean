import OpcodeAtlas.Proofs.Text.Trim
import OpcodeAtlas.Text.Lines
import Mathlib.Data.List.Basic

namespace OpcodeAtlas.Text

theorem splitOn_eq (separator : Char) (text : Text) :
    splitOn separator text = List.splitOn separator text := by
  induction text with
  | nil => rfl
  | cons c rest ih =>
    rw [splitOn, ih, List.splitOn_cons_eq_if_modifyHead]
    simp only [beq_iff_eq]

theorem splitOn_ne_nil (separator : Char) (text : Text) : splitOn separator text ≠ [] := by
  rw [splitOn_eq]
  exact List.splitOn_ne_nil separator text

theorem splitOn_of_not_mem {separator : Char} {text : Text} (hnone : separator ∉ text) :
    splitOn separator text = [text] := by
  rw [splitOn_eq, List.splitOn_eq_singleton hnone]

theorem flatMap_splitOn_eq_self {separator : Char} {texts : List Text}
    (hnone : ∀ text ∈ texts, separator ∉ text) : texts.flatMap (splitOn separator) = texts := by
  rw [List.flatMap_congr fun text htext => splitOn_of_not_mem (hnone text htext),
    List.flatMap_singleton']

theorem not_mem_of_mem_splitOn {separator : Char} {text piece : Text}
    (hpiece : piece ∈ splitOn separator text) : separator ∉ piece := by
  induction text generalizing piece with
  | nil =>
    rw [List.mem_singleton.mp hpiece]
    exact List.not_mem_nil
  | cons c rest ih =>
    rw [splitOn] at hpiece
    split at hpiece
    · obtain rfl | hpiece := List.mem_cons.mp hpiece
      · exact List.not_mem_nil
      · exact ih hpiece
    · next hne =>
      obtain ⟨first, others, hpieces⟩ := List.exists_cons_of_ne_nil (splitOn_ne_nil separator rest)
      rw [hpieces, List.modifyHead_cons, List.mem_cons] at hpiece
      obtain rfl | hpiece := hpiece
      · have hfirst := ih (hpieces ▸ List.mem_cons_self)
        simp [Ne.symm hne, hfirst]
      · exact ih (hpieces ▸ List.mem_cons_of_mem _ hpiece)

/-- Pieces without the separator are found again. -/
theorem splitOn_join {separator : Char} {pieces : List Text} (hne : pieces ≠ [])
    (hnone : ∀ piece ∈ pieces, separator ∉ piece) :
    splitOn separator (join [separator] pieces) = pieces := by
  rw [splitOn_eq, join, List.splitOn_intercalate separator hnone hne]

theorem join_singleton (separator piece : Text) : join separator [piece] = piece := by
  simp [join, List.intercalate]

theorem join_cons_cons_head (separator : Text) (c : Char) (piece : Text) (rest : List Text) :
    join separator ((c :: piece) :: rest) = c :: join separator (piece :: rest) := by
  cases rest <;> simp [join, List.intercalate]

theorem join_cons_of_ne_nil (separator piece : Text) {rest : List Text} (hne : rest ≠ []) :
    join separator (piece :: rest) = piece ++ separator ++ join separator rest := by
  cases rest with
  | nil => exact absurd rfl hne
  | cons next more => simp [join, List.intercalate]

theorem mem_join {separator piece : Text} {pieces : List Text} (hpiece : piece ∈ pieces) {c : Char}
    (hc : c ∈ piece) : c ∈ join separator pieces := by
  induction pieces with
  | nil => cases hpiece
  | cons first rest ih =>
    obtain rfl | hrest := List.mem_cons.mp hpiece
    · obtain rfl | hne := eq_or_ne rest []
      · simpa [join, List.intercalate] using hc
      · rw [join_cons_of_ne_nil _ _ hne, List.append_assoc]
        exact List.mem_append_left _ hc
    · rw [join_cons_of_ne_nil _ _ (List.ne_nil_of_mem hrest)]
      exact List.mem_append_right _ (ih hrest)

theorem not_mem_join {separator : Text} {pieces : List Text} {c : Char} (hseparator : c ∉ separator)
    (hpieces : ∀ piece ∈ pieces, c ∉ piece) : c ∉ join separator pieces := by
  induction pieces with
  | nil => exact List.not_mem_nil
  | cons piece rest ih =>
    obtain ⟨hpiece, hrest⟩ := List.forall_mem_cons.mp hpieces
    obtain rfl | hne := eq_or_ne rest []
    · rwa [join_singleton]
    · rw [join_cons_of_ne_nil _ _ hne]
      simp only [List.mem_append, not_or]
      exact ⟨⟨hpiece, hseparator⟩, ih hrest⟩

theorem join_isPrefix_append (separator : Text) (pieces more : List Text) :
    join separator pieces <+: join separator (pieces ++ more) := by
  induction pieces with
  | nil => exact List.nil_prefix
  | cons piece rest ih =>
    cases rest with
    | nil => cases more <;> simp [join, List.intercalate]
    | cons next rest =>
      simpa [join, List.intercalate, List.prefix_append_right_inj] using ih

/-- The end of a separator can be counted to the pieces. -/
theorem append_join_append (separator tail : Text) {pieces : List Text} (hne : pieces ≠ []) :
    tail ++ join (separator ++ tail) pieces = join separator (pieces.map (tail ++ ·)) := by
  induction pieces with
  | nil => exact absurd rfl hne
  | cons piece rest ih =>
    obtain rfl | hrest := eq_or_ne rest []
    · rw [List.map_singleton, join_singleton, join_singleton]
    · have hmap : rest.map (tail ++ ·) ≠ [] := by simpa using hrest
      rw [List.map_cons, join_cons_of_ne_nil _ _ hrest, join_cons_of_ne_nil _ _ hmap, ← ih hrest]
      simp only [List.append_assoc]

theorem byteLength_append (text other : Text) :
    byteLength (text ++ other) = byteLength text + byteLength other := by
  induction text with
  | nil => simp [byteLength]
  | cons c rest ih => rw [List.cons_append, byteLength, byteLength, ih, Nat.add_assoc]

theorem join_splitOn (separator : Char) (text : Text) :
    join [separator] (splitOn separator text) = text := by
  rw [join, splitOn_eq, List.intercalate_splitOn]

/-- A text is determined by its pieces. -/
theorem splitOn_injective (separator : Char) : Function.Injective (splitOn separator) :=
  Function.LeftInverse.injective (join_splitOn separator)

theorem unlines_splitOn (text : Text) : unlines (splitOn '\n' text) = text :=
  join_splitOn '\n' text

/-- A separator that gives nothing can stand between the pieces that are gone through. -/
theorem filterMap_join {α : Type} {f : Char → Option α} {separator : Char} (hf : f separator = none)
    (pieces : List Text) :
    (join [separator] pieces).filterMap f = pieces.flatMap (List.filterMap f) := by
  induction pieces with
  | nil => rfl
  | cons piece rest ih =>
    rw [List.flatMap_cons, ← ih]
    obtain rfl | hne := eq_or_ne rest []
    · simp [join, List.intercalate]
    · rw [join_cons_of_ne_nil _ _ hne, List.filterMap_append, List.filterMap_append,
        List.filterMap_cons_none hf, List.filterMap_nil, List.append_nil]

/-- A text is cut at its first separator. -/
theorem cutAt_of_not_mem {separator : Char} {text : Text} (hnone : separator ∉ text) :
    cutAt separator text = (text, []) := by
  have hpasses : ∀ c ∈ text, (c != separator) = true := fun c hc =>
    bne_iff_ne.mpr fun heq => hnone (heq ▸ hc)
  rw [cutAt, List.takeWhile_eq_self_iff.mpr hpasses, List.dropWhile_eq_nil_iff.mpr hpasses,
    List.drop_nil]

theorem cutAt_append {separator : Char} {before : Text} (hbefore : separator ∉ before)
    (after : Text) : cutAt separator (before ++ separator :: after) = (before, after) := by
  have hpasses : ∀ c ∈ before, (c != separator) = true := fun c hc =>
    bne_iff_ne.mpr fun heq => hbefore (heq ▸ hc)
  rw [cutAt, List.takeWhile_append_of_pos hpasses, List.dropWhile_append_of_pos hpasses]
  simp

/-- Filtering all pieces and joining them with another mark is filtering the text and replacing
the separator, which the filter lets pass. -/
theorem join_map_filter_splitOn {p : Char → Bool} {separator : Char} (mark : Char)
    (hseparator : p separator = true) (text : Text) :
    join [mark] ((splitOn separator text).map (List.filter p)) =
      (text.filter p).map fun c => if c = separator then mark else c := by
  induction text with
  | nil => rfl
  | cons c rest ih =>
    rw [splitOn]
    split
    · next heq =>
      obtain rfl := heq
      have hne : (splitOn c rest).map (List.filter p) ≠ [] := by
        simpa using splitOn_ne_nil c rest
      rw [List.map_cons, List.filter_nil, join_cons_of_ne_nil _ _ hne, ih,
        List.filter_cons_of_pos hseparator, List.map_cons, if_pos rfl]
      rfl
    · next hne =>
      obtain ⟨piece, others, hpieces⟩ := List.exists_cons_of_ne_nil (splitOn_ne_nil separator rest)
      rw [hpieces, List.map_cons] at ih
      rw [hpieces, List.modifyHead_cons, List.map_cons]
      cases hc : p c with
      | false =>
        have hskip : ¬p c = true := by simp [hc]
        rw [List.filter_cons_of_neg hskip, List.filter_cons_of_neg hskip, ih]
      | true =>
        rw [List.filter_cons_of_pos hc, List.filter_cons_of_pos hc, join_cons_cons_head, ih,
          List.map_cons, if_neg hne]

theorem unlines_cons_of_ne_nil (line : Text) {rest : List Text} (hne : rest ≠ []) :
    unlines (line :: rest) = line ++ '\n' :: unlines rest := by
  simp [unlines, join_cons_of_ne_nil _ _ hne]

theorem unlines_append {texts more : List Text} (hne : texts ≠ []) (hmore : more ≠ []) :
    unlines (texts ++ more) = unlines texts ++ '\n' :: unlines more := by
  induction texts with
  | nil => exact absurd rfl hne
  | cons text rest ih =>
    obtain rfl | hrest := eq_or_ne rest []
    · rw [List.singleton_append, unlines_cons_of_ne_nil _ hmore, unlines, unlines, join_singleton]
    · rw [List.cons_append, unlines_cons_of_ne_nil _ (List.append_ne_nil_of_left_ne_nil hrest _),
        ih hrest, unlines_cons_of_ne_nil _ hrest, List.append_assoc, List.cons_append]

/-- Two line feeds between texts leave an empty line there. -/
theorem join_empty_line (texts : List Text) (last : Text) :
    join "\n\n" (texts ++ [last]) = unlines ((texts.flatMap fun text => [text, []]) ++ [last]) := by
  induction texts with
  | nil => rfl
  | cons text rest ih =>
    let lines := (rest.flatMap fun text => [text, []]) ++ [last]
    have hne : lines ≠ [] := List.append_ne_nil_of_right_ne_nil _ (List.cons_ne_nil _ _)
    calc join "\n\n" (text :: rest ++ [last])
        = text ++ "\n\n" ++ join "\n\n" (rest ++ [last]) := join_cons_of_ne_nil _ _ (by simp)
      _ = text ++ '\n' :: ([] ++ '\n' :: unlines lines) := by rw [ih, List.append_assoc]; rfl
      _ = unlines (text :: [] :: lines) := by
        rw [unlines_cons_of_ne_nil _ (List.cons_ne_nil _ _), unlines_cons_of_ne_nil _ hne]

/-- The lines of several texts, one below the other. -/
theorem splitOn_unlines {texts : List Text} (hne : texts ≠ []) :
    splitOn '\n' (unlines texts) = texts.flatMap (splitOn '\n') := by
  induction texts with
  | nil => exact absurd rfl hne
  | cons text rest ih =>
    cases rest with
    | nil => simp [unlines, join]
    | cons next more =>
      rw [unlines_cons_of_ne_nil _ (List.cons_ne_nil _ _), splitOn_eq, List.splitOn_append_cons_self,
        ← splitOn_eq, ← splitOn_eq, ih (List.cons_ne_nil _ _)]
      rfl

/-- A line feed ends a line, whatever follows. -/
theorem lines_append_newline {line : Text} (hline : ∀ c ∈ line, isLineBreak c = false)
    (rest : Text) : lines (line ++ '\n' :: rest) = line :: lines rest := by
  induction line with
  | nil => simp [lines, isLineBreak]
  | cons c line ih =>
    obtain ⟨hc, hline⟩ := List.forall_mem_cons.mp hline
    have hreturn : c ≠ '\r' := by
      rintro rfl
      exact absurd hc (by decide)
    rw [List.cons_append, lines.eq_3 _ _ (fun _ heq _ => hreturn heq), hc, ih hline]
    rfl

theorem lines_of_no_break {line : Text} (hline : ∀ c ∈ line, isLineBreak c = false) :
    lines line = if line = [] then [] else [line] := by
  induction line with
  | nil => rfl
  | cons c line ih =>
    obtain ⟨hc, hline⟩ := List.forall_mem_cons.mp hline
    have hreturn : c ≠ '\r' := by
      rintro rfl
      exact absurd hc (by decide)
    rw [lines.eq_3 _ _ (fun _ heq _ => hreturn heq), hc, ih hline]
    cases line <;> rfl

/-- The lines that are kept when lines are printed. Nothing follows the last line break of a
document, so an empty line at the end is lost. -/
def keptLines (printed : List Text) : List Text :=
  if printed.getLast? = some [] then printed.dropLast else printed

theorem keptLines_append {printed : List Text} (hne : printed ≠ []) (earlier : List Text) :
    keptLines (earlier ++ printed) = earlier ++ keptLines printed := by
  have hlast : (earlier ++ printed).getLast? = printed.getLast? := by
    rw [List.getLast?_append, List.getLast?_eq_some_getLast hne, Option.some_or]
  rw [keptLines, keptLines, hlast, List.dropLast_append_of_ne_nil hne]
  split <;> rfl

theorem keptLines_subset (printed : List Text) : keptLines printed ⊆ printed := by
  rw [keptLines]
  split
  · exact List.dropLast_subset printed
  · exact List.Subset.refl printed

theorem head?_of_head?_keptLines {printed : List Text} {line : Text}
    (hline : line ∈ (keptLines printed).head?) : line ∈ printed.head? := by
  rw [keptLines] at hline
  split at hline
  · rw [List.head?_dropLast] at hline
    split at hline
    · exact hline
    · cases hline
  · exact hline

/-- Lines are read back from the text they are printed to, as far as they are kept. -/
theorem lines_unlines {printed : List Text}
    (hlines : ∀ line ∈ printed, ∀ c ∈ line, isLineBreak c = false) :
    lines (unlines printed) = keptLines printed := by
  induction printed with
  | nil => rfl
  | cons line rest ih =>
    obtain ⟨hline, hrest⟩ := List.forall_mem_cons.mp hlines
    by_cases hne : rest = []
    · subst hne
      rw [unlines, join_singleton, lines_of_no_break hline, keptLines]
      simp
    · rw [unlines_cons_of_ne_nil line hne, lines_append_newline hline, ih hrest]
      exact (keptLines_append hne [line]).symm

/-- A word begins at a character that is no blank. -/
theorem words_ne_nil {c : Char} (hc : isBlank c = false) (rest : Text) :
    words (c :: rest) ≠ [] := by
  induction rest generalizing c with
  | nil => simp [words, hc]
  | cons next more ih =>
    rw [words, hc]
    cases hnext : isBlank next with
    | true => simp [hnext]
    | false => simpa [hnext] using ih hnext

/-- The words of a text are its characters without the blanks. -/
theorem squeeze_eq_filter (text : Text) : squeeze text = text.filter (!isBlank ·) := by
  induction text with
  | nil => rfl
  | cons c rest ih =>
    rw [squeeze] at ih ⊢
    cases hc : isBlank c with
    | true => simp [words, hc, ih]
    | false =>
      rw [List.filter_cons_of_pos (by simp [hc]), ← ih, words, hc]
      cases rest with
      | nil => simp [words]
      | cons next more =>
        cases hnext : isBlank next with
        | true => simp [hnext]
        | false =>
          obtain ⟨word, others, hwords⟩ := List.exists_cons_of_ne_nil (words_ne_nil hnext more)
          simp [hnext, hwords]

theorem words_of_isAllBlank {text : Text} (hblank : isAllBlank text = true) : words text = [] := by
  rw [isAllBlank_eq_true_iff] at hblank
  induction text with
  | nil => rfl
  | cons c rest ih =>
    obtain ⟨hc, hrest⟩ := List.forall_mem_cons.mp hblank
    rw [words, if_pos hc, ih hrest]

/-- Nothing is left of a text on one line exactly if it is blank. -/
theorem collapse_eq_nil_iff {text : Text} : collapse text = [] ↔ isAllBlank text = true := by
  constructor
  · intro hnil
    rw [isAllBlank_eq_true_iff]
    intro c hc
    by_contra hblank
    have hsqueeze : c ∈ squeeze text := by
      rw [squeeze_eq_filter]
      exact List.mem_filter.mpr ⟨hc, by simp [hblank]⟩
    obtain ⟨word, hword, hc⟩ := List.mem_flatten.mp hsqueeze
    have hcollapse : c ∈ collapse text := mem_join hword hc
    rw [hnil] at hcollapse
    cases hcollapse
  · intro hblank
    rw [collapse, words_of_isAllBlank hblank]
    rfl

end OpcodeAtlas.Text
