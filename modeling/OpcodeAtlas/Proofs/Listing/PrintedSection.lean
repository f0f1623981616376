import OpcodeAtlas.Proofs.Listing.PrintedRow

namespace OpcodeAtlas.Listing

/-- What a line holds besides blanks and equals signs keeps it from being an underline. -/
theorem isUnderline_eq_false {line : Text} {c : Char} (hmem : c ∈ line) (hblank : isBlank c = false)
    (hc : c ≠ '=') : isUnderline line = false := by
  have htrim : c ∈ Text.trim line := Text.mem_trim hmem hblank
  rw [isUnderline, Bool.and_eq_false_iff]
  refine Or.inr (List.all_eq_false.mpr ⟨c, htrim, ?_⟩)
  simpa using hc

theorem isUnderline_of_isTableRule {line : Text} (hrule : isTableRule line = true) :
    isUnderline line = false := by
  have hdash : '-' ∈ line := by
    rw [isTableRule, Text.squeeze_eq_filter] at hrule
    split at hrule
    · next rest heq =>
      have hmem : '-' ∈ line.filter (!isBlank ·) := by rw [heq]; exact List.mem_cons_self
      exact List.mem_of_mem_filter hmem
    · cases hrule
  exact isUnderline_eq_false hdash (by decide) (by decide)

theorem PrintedRow.bar_mem_line (row : PrintedRow) : '|' ∈ row.line := by
  simp [PrintedRow.line, PrintedRow.cells, Text.join, List.intercalate]

namespace PrintedSection

variable (part : PrintedSection)

theorem isUnderline_title : isUnderline part.title = false :=
  isUnderline_eq_false (c := '(') (by simp [title]) (by decide) (by decide)

theorem trim_title_ne_nil : Text.trim part.title ≠ [] := by
  have hmem : '(' ∈ Text.trim part.title := Text.mem_trim (by simp [title]) (by decide)
  exact List.ne_nil_of_mem hmem

theorem isUnderline_body {line : Text} (hmem : line ∈ part.body) : isUnderline line = false := by
  rw [body, List.mem_append, List.mem_cons, List.mem_append, List.mem_map] at hmem
  obtain hdescription | rfl | ⟨row, -, rfl⟩ | hnotes := hmem
  · exact (part.description_plain line hdescription).1
  · exact isUnderline_of_isTableRule part.isTableRule_rule
  · exact isUnderline_eq_false row.bar_mem_line (by decide) (by decide)
  · exact part.notes_plain line hnotes

/-- A title is trimmed outside its parentheses. -/
theorem exists_trim_title : ∃ before after, '(' ∉ before ∧
    Text.trim part.title = before ++ '(' :: (part.mnemonic ++ ')' :: after) := by
  refine ⟨_, _, ?_, Text.strip_between (by decide) (by decide) _ _ _⟩
  exact fun hmem => part.opening_not_mem ((List.dropWhile_subset isBlank) hmem)

theorem parenthesized?_title : parenthesized? (Text.trim part.title) = some part.mnemonic := by
  obtain ⟨before, after, hopening, htitle⟩ := part.exists_trim_title
  have hclosing : ∀ c ∈ part.mnemonic, (c != ')') = true := by
    intro c hc
    rw [bne_iff_ne]
    rintro rfl
    exact absurd (part.mnemonic_upper _ hc) (by decide)
  have hbefore : ∀ c ∈ before, (c != '(') = true := by
    intro c hc
    rw [bne_iff_ne]
    rintro rfl
    exact hopening hc
  have hdrop : (Text.trim part.title).dropWhile (· != '(') =
      '(' :: (part.mnemonic ++ ')' :: after) := by
    rw [htitle, List.dropWhile_append_of_pos hbefore]
    rfl
  have htake : (part.mnemonic ++ ')' :: after).takeWhile (· != ')') = part.mnemonic := by
    rw [List.takeWhile_append_of_pos hclosing]
    simp
  simp only [parenthesized?, hdrop, htake]
  simp

theorem mnemonicOf_title : mnemonicOf (Text.trim part.title) = .ok part.mnemonic := by
  have hascii : ∀ c ∈ part.mnemonic, c.toNat < 128 ∧ c.toUpper = c ∧ c.isAlpha = true := by
    intro c hc
    have hrange := Text.range_of_isUpper (part.mnemonic_upper c hc)
    refine ⟨by omega, dif_neg ?_, ?_⟩
    · rintro ⟨hsmall, -⟩
      have hle : 97 ≤ c.toNat := hsmall
      omega
    · change (c.isUpper || c.isLower) = true
      rw [part.mnemonic_upper c hc, Bool.true_or]
  have htrim : Text.trim part.mnemonic = part.mnemonic := by
    refine Text.strip_eq_self_of_forall fun c hc => Text.isBlank_of_isAlphanum ?_
    change (c.isAlpha || c.isDigit) = true
    rw [(hascii c hc).2.2, Bool.true_or]
  have hupper : Text.toUpper part.mnemonic = part.mnemonic := by
    have himage : ∀ c ∈ part.mnemonic, upperChar c = [c] := by
      intro c hc
      rw [upperChar, if_pos (hascii c hc).1, (hascii c hc).2.1]
    rw [Text.toUpper, List.flatMap_congr himage, List.flatMap_singleton']
  have hletter : part.mnemonic.all isLetter = true := by
    rw [List.all_eq_true]
    intro c hc
    rw [isLetter, if_pos (hascii c hc).1]
    exact (hascii c hc).2.2
  rw [mnemonicOf, part.parenthesized?_title, Option.getD_some, htrim, hupper]
  simp [hletter, part.mnemonic_ne_nil]

/-- The section as it is found in the listing, under its trimmed title. -/
def found : Section :=
  ⟨Text.trim part.title, part.body⟩

theorem rows_found : part.found.rows = .ok (part.rows.map PrintedRow.line) := by
  have hdescription : ∀ line ∈ part.description, (!isTableRule line) = true := by
    intro line hline
    rw [(part.description_plain line hline).2]
    rfl
  have hrows : ∀ line ∈ part.rows.map PrintedRow.line, (!Text.isAllBlank line) = true := by
    intro line hline
    obtain ⟨row, -, rfl⟩ := List.mem_map.mp hline
    rw [Bool.not_eq_true', ← Bool.not_eq_true, Text.isAllBlank_eq_true_iff]
    exact fun hall => absurd (hall '|' row.bar_mem_line) (by decide)
  have hnotes : part.notes.takeWhile (!Text.isAllBlank ·) = [] := by
    have hseparate := part.notes_separate
    cases hcases : part.notes with
    | nil => rfl
    | cons line more =>
      rw [hcases] at hseparate
      exact List.takeWhile_cons_of_neg (by simp [hseparate line rfl])
  have hdrop : part.body.dropWhile (!isTableRule ·) =
      part.rule :: (part.rows.map PrintedRow.line ++ part.notes) := by
    rw [body, List.dropWhile_append_of_pos hdescription]
    exact List.dropWhile_cons_of_neg (by simp [part.isTableRule_rule])
  have htake : (part.rows.map PrintedRow.line ++ part.notes).takeWhile (!Text.isAllBlank ·) =
      part.rows.map PrintedRow.line := by
    rw [List.takeWhile_append_of_pos hrows, hnotes, List.append_nil]
  obtain ⟨row, rest, hne⟩ := List.exists_cons_of_ne_nil part.rows_ne_nil
  simp only [Section.rows, found, hdrop, htake]
  simp [hne]

/-- A printed section is read as its mnemonic and its variants. -/
theorem read_found : part.found.read = .ok (part.mnemonic, part.variants) := by
  have hvariants : ((part.rows.map PrintedRow.line).zipIdx 1).mapM (fun row =>
      readRow row.1 part.mnemonic ((locate part.found.title).atRow row.2)) = .ok part.variants :=
    mapM_zipIdx_map_eq_ok 1 fun row _ position => row.readRow_line part.mnemonic _
  have hmnemonic : mnemonicOf part.found.title = .ok part.mnemonic := part.mnemonicOf_title
  refine bind_eq_ok_iff.mpr ⟨_, hmnemonic, bind_eq_ok_iff.mpr ⟨_, part.rows_found, ?_⟩⟩
  exact bind_eq_ok_iff.mpr ⟨_, hvariants, rfl⟩

end PrintedSection

end OpcodeAtlas.Listing
