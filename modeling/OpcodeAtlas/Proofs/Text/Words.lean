import OpcodeAtlas.Proofs.Text.Pieces

namespace OpcodeAtlas.Text

/-- The words are the pieces between the blanks, the empty ones left out. -/
theorem words_eq (text : Text) :
    words text = (List.splitOnP isBlank text).filter (!·.isEmpty) := by
  induction text with
  | nil => simp [words]
  | cons c rest ih =>
    rw [words, List.splitOnP_cons_eq_if_modifyHead]
    cases hc : isBlank c with
    | true => simp [ih]
    | false =>
      cases rest with
      | nil => simp [words]
      | cons d more =>
        -- A word goes on just where the piece does: before a character that is no blank.
        rw [List.splitOnP_cons_eq_if_modifyHead] at ih ⊢
        cases hd : isBlank d with
        | true => simp [hd, ih]
        | false =>
          obtain ⟨piece, pieces, hpieces⟩ :=
            List.exists_cons_of_ne_nil (List.splitOnP_ne_nil isBlank more)
          simp [hd, ih, hpieces]

/-- A word is not empty and has no blank in it. -/
theorem mem_words {text word : Text} (hword : word ∈ words text) :
    word ≠ [] ∧ ∀ c ∈ word, isBlank c = false := by
  induction text generalizing word with
  | nil => cases hword
  | cons c rest ih =>
    rw [words] at hword
    split_ifs at hword with hblank hnext
    · exact ih hword
    · rw [Bool.not_eq_true] at hblank
      cases hwords : words rest with
      | nil => simp [hwords] at hword
      | cons first others =>
        rw [hwords, List.modifyHead_cons] at hword
        obtain rfl | hword := List.mem_cons.mp hword
        · obtain ⟨-, hfirst⟩ := ih (hwords ▸ List.mem_cons_self)
          exact ⟨List.cons_ne_nil c first, List.forall_mem_cons.mpr ⟨hblank, hfirst⟩⟩
        · exact ih (hwords ▸ List.mem_cons_of_mem first hword)
    · rw [Bool.not_eq_true] at hblank
      obtain rfl | hword := List.mem_cons.mp hword
      · exact ⟨List.cons_ne_nil c [], List.forall_mem_singleton.mpr hblank⟩
      · exact ih hword

/-- A blank parts words. -/
theorem words_append_cons {c : Char} (hc : isBlank c = true) (before after : Text) :
    words (before ++ c :: after) = words before ++ words after := by
  rw [words_eq, words_eq, words_eq, List.splitOnP_append_cons before after hc, List.filter_append]

theorem words_of_no_blank {text : Text} (hne : text ≠ [])
    (hnone : ∀ c ∈ text, isBlank c = false) : words text = [text] := by
  rw [words_eq, List.splitOnP_eq_singleton hnone]
  simp [hne]

theorem words_blank_append {blank : Text} (hblank : ∀ c ∈ blank, isBlank c = true) (text : Text) :
    words (blank ++ text) = words text := by
  induction blank with
  | nil => rfl
  | cons c blank ih =>
    obtain ⟨hc, hblank⟩ := List.forall_mem_cons.mp hblank
    exact (words_append_cons hc [] (blank ++ text)).trans (ih hblank)

theorem words_append_blank {blank : Text} (hblank : ∀ c ∈ blank, isBlank c = true) (text : Text) :
    words (text ++ blank) = words text := by
  cases blank with
  | nil => rw [List.append_nil]
  | cons c blank =>
    obtain ⟨hc, hblank⟩ := List.forall_mem_cons.mp hblank
    rw [words_append_cons hc, words_of_isAllBlank (isAllBlank_eq_true_iff.mpr hblank),
      List.append_nil]

/-- Blanks at either end belong to no word. -/
theorem words_trim (text : Text) : words (trim text) = words text := by
  obtain ⟨left, right, hleft, hright, htext⟩ := exists_eq_append_strip_append isBlank text
  calc words (trim text) = words (left ++ trim text) := (words_blank_append hleft _).symm
    _ = words (left ++ trim text ++ right) := (words_append_blank hright _).symm
    _ = words text := congrArg words htext.symm

/-- Words with a space between each two of them are these words. -/
theorem words_join {pieces : List Text}
    (hpieces : ∀ piece ∈ pieces, piece ≠ [] ∧ ∀ c ∈ piece, isBlank c = false) :
    words (join [' '] pieces) = pieces := by
  induction pieces with
  | nil => rfl
  | cons piece rest ih =>
    obtain ⟨⟨hne, hnone⟩, hrest⟩ := List.forall_mem_cons.mp hpieces
    by_cases hlast : rest = []
    · subst hlast
      rw [join_singleton, words_of_no_blank hne hnone]
    · rw [join_cons_of_ne_nil _ _ hlast, List.append_assoc, List.singleton_append,
        words_append_cons (by decide), words_of_no_blank hne hnone, ih hrest,
        List.singleton_append]

theorem words_collapse (text : Text) : words (collapse text) = words text :=
  words_join fun _ => mem_words

theorem collapse_collapse (text : Text) : collapse (collapse text) = collapse text :=
  congrArg (join [' ']) (words_collapse text)

theorem collapse_trim (text : Text) : collapse (trim text) = collapse text :=
  congrArg (join [' ']) (words_trim text)

theorem collapse_of_no_blank {text : Text} (hnone : ∀ c ∈ text, isBlank c = false) :
    collapse text = text := by
  by_cases hne : text = []
  · subst hne
    rfl
  · rw [collapse, words_of_no_blank hne hnone, join_singleton]

theorem collapse_eq_of_trim_eq {text word : Text} (htrim : trim text = word)
    (hnone : ∀ c ∈ word, isBlank c = false) : collapse text = word := by
  rw [← collapse_trim, htrim, collapse_of_no_blank hnone]

/-- The gap behind a word becomes one space. -/
theorem collapse_append_gap {word gap rest : Text} (hne : word ≠ [])
    (hnone : ∀ c ∈ word, isBlank c = false) (hgap : gap ≠ []) (hblank : ∀ c ∈ gap, isBlank c = true)
    (hrest : collapse rest ≠ []) :
    collapse (word ++ gap ++ rest) = word ++ ' ' :: collapse rest := by
  obtain ⟨c, gap, rfl⟩ := List.exists_cons_of_ne_nil hgap
  obtain ⟨hc, hblank⟩ := List.forall_mem_cons.mp hblank
  have hwords : words (word ++ c :: gap ++ rest) = word :: words rest := by
    rw [List.append_assoc, List.cons_append, words_append_cons hc, words_of_no_blank hne hnone,
      words_blank_append hblank, List.singleton_append]
  have hmore : words rest ≠ [] := fun hnil => hrest (congrArg (join [' ']) hnil)
  rw [collapse, hwords, join_cons_of_ne_nil _ _ hmore, List.append_assoc, List.singleton_append,
    collapse]

private theorem mem_of_head?_join {pieces : List Text} (hpieces : ∀ piece ∈ pieces, piece ≠ [])
    {c : Char} (hc : c ∈ (join [' '] pieces).head?) : ∃ piece ∈ pieces, c ∈ piece := by
  cases pieces with
  | nil => cases hc
  | cons piece rest =>
    obtain ⟨d, more, rfl⟩ := List.exists_cons_of_ne_nil (hpieces piece List.mem_cons_self)
    rw [join_cons_cons_head, List.head?_cons, Option.mem_some_iff] at hc
    exact ⟨d :: more, List.mem_cons_self, hc ▸ List.mem_cons_self⟩

private theorem mem_of_getLast?_join {pieces : List Text} (hpieces : ∀ piece ∈ pieces, piece ≠ [])
    {c : Char} (hc : c ∈ (join [' '] pieces).getLast?) : ∃ piece ∈ pieces, c ∈ piece := by
  induction pieces with
  | nil => cases hc
  | cons piece rest ih =>
    obtain ⟨-, hrest⟩ := List.forall_mem_cons.mp hpieces
    cases rest with
    | nil =>
      rw [join_singleton] at hc
      exact ⟨piece, List.mem_cons_self, List.mem_of_getLast? hc⟩
    | cons next more =>
      obtain ⟨d, word, rfl⟩ := List.exists_cons_of_ne_nil (hrest next List.mem_cons_self)
      have hne : join [' '] ((d :: word) :: more) ≠ [] := by
        rw [join_cons_cons_head]
        exact List.cons_ne_nil _ _
      rw [join_cons_of_ne_nil _ _ (List.cons_ne_nil _ _), List.getLast?_append_of_ne_nil _ hne]
        at hc
      obtain ⟨found, hfound, hmem⟩ := ih hrest hc
      exact ⟨found, List.mem_cons_of_mem piece hfound, hmem⟩

/-- A text on one line has no blanks at either end. -/
theorem trim_collapse (text : Text) : trim (collapse text) = collapse text := by
  have hwords : ∀ word ∈ words text, word ≠ [] := fun word hword => (mem_words hword).1
  refine strip_eq_self (fun c hc => ?_) (fun c hc => ?_)
  · obtain ⟨word, hword, hmem⟩ := mem_of_head?_join hwords hc
    exact (mem_words hword).2 c hmem
  · obtain ⟨word, hword, hmem⟩ := mem_of_getLast?_join hwords hc
    exact (mem_words hword).2 c hmem

/-- Words with one space between each two of them, and no other blanks. -/
def SingleSpaced (text : Text) : Prop :=
  ∃ pieces, text = join [' '] pieces ∧ ∀ piece ∈ pieces, piece ≠ [] ∧ ∀ c ∈ piece, isBlank c = false

theorem SingleSpaced.trim_eq {text : Text} (hspaced : SingleSpaced text) : trim text = text := by
  obtain ⟨pieces, rfl, hpieces⟩ := hspaced
  have hcollapse : collapse (join [' '] pieces) = join [' '] pieces :=
    congrArg (join [' ']) (words_join hpieces)
  rw [← hcollapse, trim_collapse]

end OpcodeAtlas.Text
