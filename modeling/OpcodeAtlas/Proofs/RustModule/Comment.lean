import OpcodeAtlas.Proofs.RustModule.TableLiteral
import OpcodeAtlas.Reference.Row

namespace OpcodeAtlas.RustModule

/-! Block comments nest: inside of one, an opener begins another one, which needs a closer of its
own. -/

/-- Reads on from inside a number of comments, each in the one before it. The reading stops where the
outermost one ends, and else at the end of the text. Gives the number of comments that are open
there and the text behind. -/
def readNested : Nat → Text → Nat × Text
  | 0, text => (0, text)
  | depth, [] => (depth, [])
  | depth + 1, '/' :: '*' :: rest => readNested (depth + 2) rest
  | depth + 1, '*' :: '/' :: rest => readNested depth rest
  | depth + 1, _ :: rest => readNested (depth + 1) rest

/-- Reads the comment that a text begins with. -/
def readComment? : Text → Option (Nat × Text)
  | '/' :: '*' :: rest => some (readNested 1 rest)
  | _ => none

/-- The text is one comment, which ends with its last character and not before. -/
def IsBlockComment (text : Text) : Prop :=
  readComment? text = some (0, [])

instance (text : Text) : Decidable (IsBlockComment text) :=
  inferInstanceAs (Decidable (readComment? text = some (0, [])))

/-- In front of a space, a text passes over a character that begins neither an opener nor a closer
in it. -/
theorem readNested_cons_append {c : Char} {text : Text}
    (hopener : ¬(c = '/' ∧ text.head? = some '*')) (hcloser : ¬(c = '*' ∧ text.head? = some '/'))
    (depth : Nat) (rest : Text) :
    readNested (depth + 1) (c :: (text ++ ' ' :: rest)) =
      readNested (depth + 1) (text ++ ' ' :: rest) := by
  have hhead {d : Char} {more : Text} (hd : d ≠ ' ') (htext : text ++ ' ' :: rest = d :: more) :
      text.head? = some d := by
    cases text with
    | nil => exact absurd (List.cons.inj htext).1.symm hd
    | cons _ _ => exact congrArg some (List.cons.inj htext).1
  rw [readNested]
  · intro more hslash htext
    exact hopener ⟨hslash, hhead (by decide) htext⟩
  · intro more hstar htext
    exact hcloser ⟨hstar, hhead (by decide) htext⟩

/-- The number of places where the second character follows the first one at once. -/
def countPair (first second : Char) : Text → Nat
  | [] => 0
  | c :: rest =>
    (if c = first ∧ rest.head? = some second then 1 else 0) + countPair first second rest

theorem countPair_cons_eq_zero_iff {first second c : Char} {rest : Text} :
    countPair first second (c :: rest) = 0 ↔
      ¬(c = first ∧ rest.head? = some second) ∧ countPair first second rest = 0 := by
  rw [countPair, Nat.add_eq_zero_iff, ite_eq_right_iff, imp_iff_not Nat.one_ne_zero]

theorem countPair_eq_zero_iff {first second : Char} {text : Text} :
    countPair first second text = 0 ↔ ¬[first, second] <:+: text := by
  induction text with
  | nil => simp [countPair]
  | cons c rest ih =>
    rw [countPair_cons_eq_zero_iff, ih, List.infix_cons_iff, not_or, List.cons_prefix_cons,
      List.singleton_prefix_iff_head?_eq_some, eq_comm (a := first)]

theorem countPair_closer_spaceClosers (note : Text) : countPair '*' '/' (spaceClosers note) = 0 := by
  fun_induction spaceClosers note with
  | case1 note ih => simp [countPair, ih]
  | case2 c note hopen ih =>
    rw [countPair_cons_eq_zero_iff, head?_spaceClosers]
    refine ⟨?_, ih⟩
    rintro ⟨hstar, hslash⟩
    exact hopen _ hstar (List.eq_cons_of_mem_head? hslash)
  | case3 => rfl

/-- A space between the two characters of a closer neither makes an opener nor breaks one. -/
theorem countPair_opener_spaceClosers (note : Text) :
    countPair '/' '*' (spaceClosers note) = countPair '/' '*' note := by
  fun_induction spaceClosers note with
  | case1 note ih => simp [countPair, head?_spaceClosers, ih]
  | case2 c note hopen ih => rw [countPair, countPair, head?_spaceClosers, ih]
  | case3 => rfl

/-- At the end of a text without a closer, the comments from before it are open and one more for
each of its openers. The closer that is printed behind it ends the innermost of them. -/
theorem readNested_append {text : Text} (hclosers : countPair '*' '/' text = 0) (depth : Nat)
    (rest : Text) :
    readNested (depth + 1) (text ++ ' ' :: '*' :: '/' :: rest) =
      readNested (depth + countPair '/' '*' text) rest := by
  induction text generalizing depth with
  | nil => rfl
  | cons c text ih =>
    obtain ⟨hcloser, hmore⟩ := countPair_cons_eq_zero_iff.mp hclosers
    rw [List.cons_append, countPair]
    by_cases hopener : c = '/' ∧ text.head? = some '*'
    · obtain ⟨rfl, hstar⟩ := hopener
      obtain ⟨more, rfl⟩ := List.head?_eq_some_iff.mp hstar
      -- The star of the opener is used up, so it does not matter that it is no part of a closer.
      have hused := readNested_cons_append (c := '*') (by simp)
        (countPair_cons_eq_zero_iff.mp hmore).1 (depth + 1) ('*' :: '/' :: rest)
      calc readNested (depth + 1) ('/' :: ('*' :: more ++ ' ' :: '*' :: '/' :: rest))
          = readNested (depth + 2) (more ++ ' ' :: '*' :: '/' :: rest) := rfl
        _ = readNested (depth + 2) ('*' :: more ++ ' ' :: '*' :: '/' :: rest) := hused.symm
        _ = readNested (depth + 1 + countPair '/' '*' ('*' :: more)) rest := ih hmore (depth + 1)
        _ = _ := by rw [if_pos ⟨rfl, rfl⟩, Nat.add_assoc]
    · rw [if_neg hopener, Nat.zero_add, readNested_cons_append hopener hcloser, ih hmore]

/-- The comment that is printed for a note. -/
def noteComment (note : Text) : Text :=
  "/* " ++ spaceClosers note ++ " */"

theorem cycles_eq {variant : Variant} (hnote : variant.cycleNote ≠ []) :
    cycles variant = Numeral.ofInt variant.cycles ++ ' ' :: noteComment variant.cycleNote := by
  have hempty : variant.cycleNote.isEmpty = false := List.isEmpty_eq_false_iff.mpr hnote
  rw [cycles, hempty]
  simp [noteComment]

theorem readComment?_noteComment (note rest : Text) :
    readComment? (noteComment note ++ rest) = some (readNested (countPair '/' '*' note) rest) := by
  have hinner := readNested_append (countPair_closer_spaceClosers note) 0 rest
  rw [countPair_opener_spaceClosers, Nat.zero_add, Nat.zero_add] at hinner
  rw [← hinner]
  simp [noteComment, readComment?, readNested]

/-- The comment behind a count never ends within the note. It ends where it should exactly if the
note has no opener in it; otherwise every opener of the note leaves a comment open, in which the text
behind is read. -/
theorem note_comment_ends_iff {variant : Variant} (hnote : variant.cycleNote ≠ []) :
    ∃ comment, cycles variant = Numeral.ofInt variant.cycles ++ ' ' :: comment ∧
      (IsBlockComment comment ↔ ¬['/', '*'] <:+: variant.cycleNote) ∧
      ∀ rest, readComment? (comment ++ rest) =
        some (readNested (countPair '/' '*' variant.cycleNote) rest) := by
  refine ⟨noteComment variant.cycleNote, cycles_eq hnote, ?_, readComment?_noteComment _⟩
  have hread := readComment?_noteComment variant.cycleNote []
  rw [List.append_nil] at hread
  rw [IsBlockComment, hread, ← countPair_eq_zero_iff]
  cases countPair '/' '*' variant.cycleNote with
  | zero => simp [readNested]
  | succ depth => simp [readNested]

/-- A variant whose note has every meeting of a star and a slash but an opener. -/
def closingNote : Variant :=
  { opcode := 0x7D, mnemonic := "ADC", size := 3, cycles := 4, cycleMode := .pageCrossPenalty,
    mode := .absoluteX, cycleNote := "*/ (+1 if page crossed) **/ // */ */" }

theorem closingNote_ends :
    closingNote.cycleNote ≠ [] ∧
      ∃ comment, cycles closingNote = Numeral.ofInt 4 ++ ' ' :: comment ∧ IsBlockComment comment := by
  have hnote : closingNote.cycleNote ≠ [] := List.cons_ne_nil _ _
  obtain ⟨comment, hcycles, hends, -⟩ := note_comment_ends_iff hnote
  have hopener : countPair '/' '*' closingNote.cycleNote = 0 := by decide
  exact ⟨hnote, comment, hcycles, hends.mpr (countPair_eq_zero_iff.mp hopener)⟩

/-- A row of the reference whose last cell has an opener behind the count. -/
def openerRow : Markup.Start :=
  let cell (content : Text) : Markup.Node := .element "td" [] [.text content]
  { parent? := none, tag := "tr", attributes := [],
    children := [cell "Absolute,X", cell "$7D", cell "3", cell "4 (+1 if page crossed) /* abs"] }

/-- The note of such a row leaves its comment open. -/
theorem openerRow_not_isBlockComment :
    ∃ variant, Reference.readVariantRow openerRow "ADC" { document := "official" } = .ok variant ∧
      variant.cycleNote = "(+1 if page crossed) /* abs" ∧
        ∀ comment, cycles variant = Numeral.ofInt variant.cycles ++ ' ' :: comment →
          ¬IsBlockComment comment := by
  refine ⟨_, rfl, rfl, fun comment hcycles => ?_⟩
  have hprinted := hcycles.symm.trans (cycles_eq (List.cons_ne_nil _ _))
  have hcomment := (List.cons.inj (List.append_cancel_left hprinted)).2
  rw [hcomment]
  decide

end OpcodeAtlas.RustModule
