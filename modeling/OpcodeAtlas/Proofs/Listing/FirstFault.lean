import OpcodeAtlas.Proofs.Cell
import OpcodeAtlas.Proofs.Listing.Reading

namespace OpcodeAtlas

section Cut

variable {α : Type} {p : α → Bool}

/-- What is left once the front is dropped begins at the first item without the property. -/
theorem dropWhile_eq_cons_iff {items rest : List α} {first : α} :
    items.dropWhile p = first :: rest ↔
      ∃ front, items = front ++ first :: rest ∧ (∀ item ∈ front, p item = true) ∧
        p first = false := by
  constructor
  · intro hdrop
    refine ⟨items.takeWhile p, ?_, fun item => List.mem_takeWhile_imp, ?_⟩
    · rw [← hdrop, List.takeWhile_append_dropWhile]
    · simpa [hdrop] using List.head?_dropWhile_not p items
  · rintro ⟨front, rfl, hfront, hfirst⟩
    rw [List.dropWhile_append_of_pos hfront, List.dropWhile_cons_of_neg (by simp [hfirst])]

/-- The front of a list ends before the first item without the property, or with the list. -/
theorem takeWhile_eq_iff {items front : List α} :
    items.takeWhile p = front ↔
      ∃ rest, items = front ++ rest ∧ (∀ item ∈ front, p item = true) ∧
        ∀ item ∈ rest.head?, p item = false := by
  constructor
  · rintro rfl
    refine ⟨items.dropWhile p, List.takeWhile_append_dropWhile.symm,
      fun item => List.mem_takeWhile_imp, fun item hitem => ?_⟩
    have hhead := List.head?_dropWhile_not p items
    rwa [Option.mem_def.mp hitem] at hhead
  · rintro ⟨rest, rfl, hfront, hrest⟩
    rw [List.takeWhile_append_of_pos hfront]
    cases rest with
    | nil => simp
    | cons first rest =>
      rw [List.takeWhile_cons_of_neg (by simp [hrest first rfl]), List.append_nil]

end Cut

namespace Listing

/-- The first parentheses of a title hold a name: letters, which count as capitals however they are
printed. -/
def TitleNames (title name : Text) : Prop :=
  ∃ before inside after, title = before ++ '(' :: (inside ++ ')' :: after) ∧
    '(' ∉ before ∧ ')' ∉ inside ∧ name = Text.toUpper (Text.trim inside) ∧
    name ≠ [] ∧ ∀ c ∈ name, isLetter c = true

/-- The rows are the lines between the first table rule and the next blank line, or the end. -/
def TableRows (lines rows : List Text) : Prop :=
  ∃ before rule after, lines = before ++ rule :: (rows ++ after) ∧
    (∀ line ∈ before, isTableRule line = false) ∧ isTableRule rule = true ∧
    (∀ row ∈ rows, Text.isAllBlank row = false) ∧
    ∀ line ∈ after.head?, Text.isAllBlank line = true

/-- What is wrong with a section. A fault counts only if the section has none of the earlier kinds,
and a row only if those before it can be read. -/
inductive Section.Fails (part : Section) : Fault → Prop where
  | title (hname : ∀ name, ¬TitleNames part.title name) :
    Fails part ⟨.titleWithoutMnemonic, locate part.title⟩
  | table {name : Text} (hname : TitleNames part.title name)
      (hrule : ∀ line ∈ part.lines, isTableRule line = false) :
    Fails part ⟨.noOpcodeTable, locate part.title⟩
  | rows {name : Text} (hname : TitleNames part.title name) (hrows : TableRows part.lines []) :
    Fails part ⟨.noOpcodeRow, locate part.title⟩
  | row {name line : Text} {rows : List Text} {index : Nat} {fault : Fault}
      (hname : TitleNames part.title name) (hrows : TableRows part.lines rows)
      (hline : rows[index]? = some line)
      (hearlier : ∀ j < index, ∀ row, rows[j]? = some row →
        ∃ variant, ∀ location : Location, readRow row name (some location) = .ok variant)
      (hread : readRow line name (some ((locate part.title).atRow (index + 1 : Nat))) =
        .error fault)
      (hplace : fault.location?.map Location.text =
        some ("undocumented:" ++ part.title ++ ":row " ++ Numeral.ofNat (index + 1))) :
    Fails part fault

/-- The variants are what all rows of the table of a section say, in the order of the rows. -/
def Section.Gives (part : Section) (variants : List Variant) : Prop :=
  ∃ name rows, TitleNames part.title name ∧ TableRows part.lines rows ∧
    List.Forall₂ (fun row variant =>
      ∀ location : Location, readRow row name (some location) = .ok variant) rows variants

private theorem forall_bne_iff {c : Char} {text : Text} :
    (∀ d ∈ text, (d != c) = true) ↔ c ∉ text := by
  simp only [bne_iff_ne]
  exact ⟨fun hne hmem => hne c hmem rfl, fun hnot d hd heq => hnot (heq ▸ hd)⟩

theorem parenthesized?_eq_some_iff {title inside : Text} :
    parenthesized? title = some inside ↔
      ∃ before after, title = before ++ '(' :: (inside ++ ')' :: after) ∧
        '(' ∉ before ∧ ')' ∉ inside := by
  constructor
  · intro hinside
    unfold parenthesized? at hinside
    split at hinside
    · cases hinside
    · next first rest hdrop =>
      obtain ⟨before, rfl, hbefore, hfirst⟩ := dropWhile_eq_cons_iff.mp hdrop
      obtain rfl : first = '(' := by simpa using hfirst
      split at hinside
      · next hcontains =>
        obtain ⟨after, rfl, hnone, hafter⟩ := takeWhile_eq_iff.mp (Option.some.inj hinside)
        rw [forall_bne_iff] at hbefore hnone
        rw [List.contains_iff_mem, List.mem_append, or_iff_right hnone] at hcontains
        obtain ⟨closing, after, rfl⟩ := List.exists_cons_of_ne_nil (List.ne_nil_of_mem hcontains)
        obtain rfl : closing = ')' := by simpa using hafter closing rfl
        exact ⟨before, after, rfl, hbefore, hnone⟩
      · cases hinside
  · rintro ⟨before, after, rfl, hbefore, hnone⟩
    have hdrop : (before ++ '(' :: (inside ++ ')' :: after)).dropWhile (· != '(') =
        '(' :: (inside ++ ')' :: after) :=
      dropWhile_eq_cons_iff.mpr ⟨before, rfl, forall_bne_iff.mpr hbefore, rfl⟩
    have htake : (inside ++ ')' :: after).takeWhile (· != ')') = inside :=
      takeWhile_eq_iff.mpr ⟨_, rfl, forall_bne_iff.mpr hnone, by simp⟩
    simp only [parenthesized?, hdrop, htake]
    simp

theorem mnemonicOf_eq_ok_iff {title name : Text} :
    mnemonicOf title = .ok name ↔ TitleNames title name := by
  rw [mnemonicOf]
  constructor
  · intro hname
    split at hname
    · next hletters =>
      obtain rfl := Except.ok.inj hname
      rw [Bool.and_eq_true, Bool.not_eq_true', List.isEmpty_eq_false_iff, List.all_eq_true]
        at hletters
      cases hinside : parenthesized? title with
      | none => exact absurd (by rw [hinside]; rfl) hletters.1
      | some inside =>
        rw [hinside] at hletters
        obtain ⟨before, after, htitle, hbefore, hnone⟩ := parenthesized?_eq_some_iff.mp hinside
        exact ⟨before, inside, after, htitle, hbefore, hnone, rfl, hletters⟩
    · cases hname
  · rintro ⟨before, inside, after, htitle, hbefore, hnone, rfl, hne, hletters⟩
    rw [parenthesized?_eq_some_iff.mpr ⟨before, after, htitle, hbefore, hnone⟩, Option.getD_some]
    refine if_pos ?_
    rw [Bool.and_eq_true, Bool.not_eq_true', List.isEmpty_eq_false_iff, List.all_eq_true]
    exact ⟨hne, hletters⟩

theorem mnemonicOf_eq_error_iff {title : Text} {fault : Fault} :
    mnemonicOf title = .error fault ↔
      (∀ name, ¬TitleNames title name) ∧ fault = ⟨.titleWithoutMnemonic, locate title⟩ := by
  have hfault : ∀ other, mnemonicOf title = .error other →
      other = ⟨.titleWithoutMnemonic, locate title⟩ := by
    intro other herror
    rw [mnemonicOf] at herror
    split at herror
    · cases herror
    · exact (Except.error.inj herror).symm
  simp only [← mnemonicOf_eq_ok_iff]
  cases hread : mnemonicOf title with
  | error other => simp [hfault other hread, eq_comm]
  | ok name => simp

theorem tableRows_iff {lines rows : List Text} :
    TableRows lines rows ↔ ∃ rule rest, lines.dropWhile (!isTableRule ·) = rule :: rest ∧
      rest.takeWhile (!Text.isAllBlank ·) = rows := by
  simp only [dropWhile_eq_cons_iff, takeWhile_eq_iff, Bool.not_eq_true', Bool.not_eq_false']
  constructor
  · rintro ⟨before, rule, after, hlines, hbefore, hrule, hrows, hafter⟩
    exact ⟨rule, rows ++ after, ⟨before, hlines, hbefore, hrule⟩, after, rfl, hrows, hafter⟩
  · rintro ⟨rule, _, ⟨before, hlines, hbefore, hrule⟩, after, rfl, hrows, hafter⟩
    exact ⟨before, rule, after, hlines, hbefore, hrule, hrows, hafter⟩

/-- Without a rule there is no table, and otherwise the table has certain rows. -/
theorem rows_cases (part : Section) :
    ((∀ line ∈ part.lines, isTableRule line = false) ∧ (∀ rows, ¬TableRows part.lines rows) ∧
        part.rows = .error ⟨.noOpcodeTable, locate part.title⟩) ∨
      ∃ rows, (∃ rule ∈ part.lines, isTableRule rule = true) ∧
        (∀ other, TableRows part.lines other ↔ other = rows) ∧
        part.rows = if rows = [] then .error ⟨.noOpcodeRow, locate part.title⟩ else .ok rows := by
  simp only [tableRows_iff]
  rw [Section.rows]
  cases hdrop : part.lines.dropWhile (!isTableRule ·) with
  | nil =>
    refine Or.inl ⟨?_, by simp, rfl⟩
    simpa using List.dropWhile_eq_nil_iff.mp hdrop
  | cons rule rest =>
    obtain ⟨before, hlines, -, hrule⟩ := dropWhile_eq_cons_iff.mp hdrop
    refine Or.inr ⟨rest.takeWhile (!Text.isAllBlank ·), ⟨rule, ?_, by simpa using hrule⟩, ?_, ?_⟩
    · simp [hlines]
    · intro other
      constructor
      · rintro ⟨_, _, heq, rfl⟩
        rw [(List.cons.inj heq).2]
      · rintro rfl
        exact ⟨rule, rest, rfl, rfl⟩
    · dsimp only
      split <;> simp_all

/-- The rows of a section are those of its table, which must not be empty. -/
theorem rows_eq_ok_iff {part : Section} {rows : List Text} :
    part.rows = .ok rows ↔ TableRows part.lines rows ∧ rows ≠ [] := by
  obtain ⟨-, hnone, hrows⟩ | ⟨found, -, hunique, hrows⟩ := rows_cases part
  · simp [hrows, hnone]
  · rw [hrows, hunique]
    split_ifs with hempty
    · simp +contextual [hempty]
    · rw [Except.ok.injEq]
      constructor
      · rintro rfl
        exact ⟨rfl, hempty⟩
      · rintro ⟨rfl, -⟩
        rfl

theorem rows_eq_error_iff {part : Section} {fault : Fault} :
    part.rows = .error fault ↔
      (∀ line ∈ part.lines, isTableRule line = false) ∧
          fault = ⟨.noOpcodeTable, locate part.title⟩ ∨
        TableRows part.lines [] ∧ fault = ⟨.noOpcodeRow, locate part.title⟩ := by
  obtain ⟨hrule, hnone, hrows⟩ | ⟨found, ⟨rule, hmem, hrule⟩, hunique, hrows⟩ := rows_cases part
  · simp only [hrows, Except.error.injEq, hnone, false_and, or_false, and_iff_right hrule]
    exact eq_comm
  · have hnot : ¬∀ line ∈ part.lines, isTableRule line = false := by
      intro hall
      simp [hall rule hmem] at hrule
    rw [hrows, hunique]
    split_ifs with hempty
    · simp only [hnot, false_and, false_or, hempty, true_and, Except.error.injEq]
      exact eq_comm
    · simp [hnot, Ne.symm hempty]

theorem opcode_located (cell : Text) : Located fun location => opcode cell (some location) := by
  by_cases hdollar : ∃ digits, cell = '$' :: digits
  · obtain ⟨digits, rfl⟩ := hdollar
    exact Cell.byte_located _ digits
  · refine ⟨.error (.malformed "opcode" cell), fun location => ?_⟩
    unfold opcode
    split
    · next digits => exact absurd ⟨digits, rfl⟩ hdollar
    · rfl

theorem cycles_located (cell : Text) : Located fun location => cycles cell (some location) := by
  unfold cycles
  dsimp only
  split_ifs
  · exact .ok _
  · exact Cell.number_located _ _ _

theorem readRow_located (line mnemonic : Text) :
    Located fun location => readRow line mnemonic (some location) := by
  unfold readRow
  match (line.splitOn '|').map Text.trim with
  | [modeCell, _, opcodeCell, sizeCell, cyclesCell] =>
    refine .bind (opcode_located opcodeCell) fun _ => ?_
    refine .bind (Cell.number_located _ _ _) fun _ => ?_
    refine .bind (cycles_located cyclesCell) fun _ => ?_
    exact .bind (Cell.mode_located modeCell) fun _ => .ok _
  | [] | [_] | [_, _] | [_, _, _] | [_, _, _, _] | _ :: _ :: _ :: _ :: _ :: _ :: _ =>
    exact .error _

theorem rowPlace_text (title : Text) (row : Nat) :
    ((locate title).atRow row).text =
      "undocumented:" ++ title ++ ":row " ++ Numeral.ofNat row := by
  have hdocument : "undocumented:".toList = documentName ++ [':'] := by decide
  have hrow : ":row ".toList = ':' :: "row ".toList := by decide
  rw [locate, Location.text_atRow, hdocument, hrow]
  simp only [List.append_assoc, List.cons_append, List.nil_append]

/-- A section is refused for the first thing that is wrong with it. -/
theorem read_eq_error_iff {part : Section} {fault : Fault} :
    part.read = .error fault ↔ part.Fails fault := by
  rw [Section.read]
  simp only [bind_eq_error_iff, mnemonicOf_eq_error_iff, mnemonicOf_eq_ok_iff, rows_eq_ok_iff,
    rows_eq_error_iff, mapM_zipIdx_eq_error_iff, Nat.add_comm 1]
  constructor
  · rintro (⟨hname, rfl⟩ | ⟨name, hname, (⟨hrule, rfl⟩ | ⟨hrows, rfl⟩) | ⟨rows, ⟨hrows, -⟩,
      ⟨index, line, hline, hread, hearlier⟩ | ⟨_, -, hpure⟩⟩⟩)
    · exact .title hname
    · exact .table hname hrule
    · exact .rows hname hrows
    · refine .row hname hrows hline (fun j hj row hrow => ?_) hread ?_
      · obtain ⟨variant, hvariant⟩ := hearlier j hj row hrow
        exact ⟨variant, (readRow_located row name).ok_anywhere hvariant⟩
      · rw [(readRow_located line name).location?_eq hread]
        exact congrArg some (rowPlace_text part.title (index + 1))
    · cases hpure
  · intro hfails
    cases hfails with
    | title hname => exact Or.inl ⟨hname, rfl⟩
    | table hname hrule => exact Or.inr ⟨_, hname, Or.inl (Or.inl ⟨hrule, rfl⟩)⟩
    | rows hname hrows => exact Or.inr ⟨_, hname, Or.inl (Or.inr ⟨hrows, rfl⟩)⟩
    | row hname hrows hline hearlier hread _ =>
      have hne := List.ne_nil_of_mem (List.mem_of_getElem? hline)
      refine Or.inr ⟨_, hname, Or.inr ⟨_, ⟨hrows, hne⟩, Or.inl ⟨_, _, hline, hread, ?_⟩⟩⟩
      intro j hj row hrow
      obtain ⟨variant, hvariant⟩ := hearlier j hj row hrow
      exact ⟨variant, hvariant _⟩

/-- The title counts before the table, which has no rows. -/
example : (Section.mk "LAX" ["---"]).read = .error ⟨.titleWithoutMnemonic, locate "LAX"⟩ :=
  rfl

/-- A section that is read gives what all its rows say. -/
theorem gives_of_read {part : Section} {name : Text} {variants : List Variant}
    (hread : part.read = .ok (name, variants)) : part.Gives variants := by
  obtain ⟨hname, rows, hrows, hvariants⟩ := read_eq_ok_iff.mp hread
  refine ⟨name, rows, mnemonicOf_eq_ok_iff.mp hname, (rows_eq_ok_iff.mp hrows).1, ?_⟩
  have hsays := forall₂_map_of_mapM_eq_ok (g := Prod.fst)
    (R := fun row variant => ∀ location : Location, readRow row name (some location) = .ok variant)
    (fun row variant hrow => (readRow_located _ name).ok_anywhere hrow) hvariants
  rwa [List.zipIdx_map_fst] at hsays

theorem exists_read_iff {part : Section} :
    (∃ result, part.read = .ok result) ↔ ∀ fault, ¬part.Fails fault := by
  simp only [← read_eq_error_iff]
  cases part.read with
  | error fault => exact iff_of_false nofun fun hnone => hnone fault rfl
  | ok result => exact iff_of_true ⟨result, rfl⟩ nofun

/-- Once there are sections, only they can be at fault. -/
theorem extract_eq_error_iff_of_sections {document : Text} {sections : List Section}
    (hsections : sectionsOf document.lines = .ok sections) (hne : sections ≠ []) {fault : Fault} :
    (extract document).outcome = .error fault ↔ sections.mapM Section.read = .error fault := by
  have hnonempty : ¬sections.isEmpty = true := fun hempty => hne (List.isEmpty_iff.mp hempty)
  rw [extract_outcome, hsections]
  change (if sections.isEmpty = true then _ else _) = _ ↔ _
  rw [if_neg hnonempty, bind_eq_error_iff]
  exact or_iff_left fun ⟨_, _, hok⟩ => nomatch hok

/-- A listing is read as a whole or not at all. If it cannot be split into sections, that is its
fault, whatever its rows are. Otherwise its fault is the first one of the first section that has
any. Without a fault, it gives what the rows of all tables say, section by section, and nothing
else. -/
theorem extract_all_or_first_fault (document : Text) :
    (∀ fault, sectionsOf document.lines = .error fault →
      (extract document).outcome = .error fault) ∧
    (sectionsOf document.lines = .ok [] →
      ∃ fault, (extract document).outcome = .error fault ∧ fault.kind = .shape ∧
        fault.location?.map Location.text = some "undocumented".toList) ∧
    ∀ sections, sectionsOf document.lines = .ok sections → sections ≠ [] →
      (∀ fault, (extract document).outcome = .error fault ↔
        ∃ (index : Nat) (part : Section), sections[index]? = some part ∧ part.Fails fault ∧
          ∀ j < index, ∀ earlier, sections[j]? = some earlier → ∀ other, ¬earlier.Fails other) ∧
      ((∀ part ∈ sections, ∀ fault, ¬part.Fails fault) →
        ∃ source tables, (extract document).outcome = .ok source ∧
          List.Forall₂ Section.Gives sections tables ∧ source.variants = tables.flatten) := by
  refine ⟨fun fault hsections => ?_, fun hsections => ?_, fun sections hsections hne => ⟨?_, ?_⟩⟩
  · rw [extract_outcome, hsections]
    rfl
  · rw [extract_outcome, hsections]
    exact ⟨_, rfl, rfl, by decide⟩
  · intro fault
    rw [extract_eq_error_iff_of_sections hsections hne]
    simp only [mapM_eq_error_iff_first, read_eq_error_iff, exists_read_iff]
  · intro hnone
    obtain ⟨parts, hparts⟩ := exists_mapM_eq_ok_iff.mpr fun part hpart =>
      exists_read_iff.mpr (hnone part hpart)
    have hgives : List.Forall₂ (fun part result => part.Gives result.2) sections parts :=
      (mapM_eq_ok_iff.mp hparts).imp fun part result hread => gives_of_read hread
    have hextract := extract_eq_ok_iff.mpr ⟨sections, parts, hsections, hne, hparts, rfl⟩
    exact ⟨_, parts.map Prod.snd, hextract, List.forall₂_map_right_iff.mpr hgives,
      List.flatMap_def⟩

end Listing

end OpcodeAtlas
