import OpcodeAtlas.Proofs.Documents.Entries
import OpcodeAtlas.Proofs.Text.PrintedNumeral
import OpcodeAtlas.Report.Render

/-!
Reading the lists of a report back: the bytes that no opcode takes and the mnemonics of each source.
-/

namespace OpcodeAtlas

/-- Rows that hold a list in its order. No row is empty or too long, and all but the last are full. -/
structure InRows {α : Type} (size : Nat) (items : List α) (rows : List (List α)) : Prop where
  flatten_eq : rows.flatten = items
  full : ∀ row ∈ rows.dropLast, row.length = size
  bounded : ∀ row ∈ rows, row ≠ [] ∧ row.length ≤ size

namespace InRows

variable {α β : Type} {size : Nat} {items : List α} {rows : List (List α)}

theorem mem (hrows : InRows size items rows) {row : List α} (hrow : row ∈ rows) {item : α}
    (hitem : item ∈ row) : item ∈ items :=
  hrows.flatten_eq ▸ List.mem_flatten_of_mem hrow hitem

theorem chunks (hsize : 0 < size) (items : List α) : InRows size items (Text.chunks size items) := by
  fun_induction Text.chunks size items with
  | case1 => exact ⟨rfl, by simp, by simp⟩
  | case2 item rest ih =>
    obtain ⟨hflatten, hfull, hbounded⟩ := ih
    refine ⟨?_, ?_, ?_⟩
    · rw [List.flatten_cons, hflatten, List.cons_append, List.take_append_drop]
    · -- The first row is the last one, or there is enough behind it to have filled it.
      by_cases hmore : Text.chunks size (rest.drop (size - 1)) = []
      · simp [hmore]
      · rw [List.dropLast_cons_of_ne_nil hmore, List.forall_mem_cons]
        refine ⟨?_, hfull⟩
        have hbehind : rest.drop (size - 1) ≠ [] := by
          intro hnone
          rw [hnone] at hmore
          exact hmore (by rw [Text.chunks])
        have hlong : size - 1 < rest.length := by simpa using hbehind
        rw [List.length_cons, List.length_take]
        omega
    · rw [List.forall_mem_cons]
      refine ⟨⟨List.cons_ne_nil _ _, ?_⟩, hbounded⟩
      rw [List.length_cons, List.length_take]
      omega

theorem map (hrows : InRows size items rows) (f : α → β) :
    InRows size (items.map f) (rows.map (List.map f)) := by
  refine ⟨?_, ?_, ?_⟩
  · rw [← hrows.flatten_eq, List.map_flatten]
  · intro row hrow
    rw [← List.map_dropLast, List.mem_map] at hrow
    obtain ⟨row, hrow, rfl⟩ := hrow
    rw [List.length_map, hrows.full row hrow]
  · intro row hrow
    obtain ⟨row, hmem, rfl⟩ := List.mem_map.mp hrow
    simpa using hrows.bounded row hmem

end InRows

namespace Report

open Numeral (ofNat)

variable {table : Table}

/-! ### The bytes that no opcode takes -/

theorem isNone_lookup_iff {key : Int} :
    (table.lookup key).isNone = true ↔ key ∉ table.opcodes.keys := by
  rw [Option.isNone_iff_eq_none, Table.lookup, OrderedMap.get?_eq_none_iff]

theorem mem_bytes {byte : Int} :
    byte ∈ (List.range 256).map Int.ofNat ↔ 0 ≤ byte ∧ byte ≤ 255 := by
  rw [List.mem_map]
  constructor
  · rintro ⟨value, hvalue, rfl⟩
    have hlt := List.mem_range.mp hvalue
    exact ⟨Int.natCast_nonneg value, Int.ofNat_le.mpr (Nat.le_of_lt_succ hlt)⟩
  · rintro ⟨hnonneg, hle⟩
    exact ⟨byte.toNat, List.mem_range.mpr (by omega), Int.toNat_of_nonneg hnonneg⟩

theorem mem_unassigned {byte : Int} :
    byte ∈ (unassigned table).map Int.ofNat ↔
      (0 ≤ byte ∧ byte ≤ 255) ∧ byte ∉ table.opcodes.keys := by
  have hfilter : (unassigned table).map Int.ofNat =
      ((List.range 256).map Int.ofNat).filter fun key => (table.lookup key).isNone := by
    rw [unassigned, List.filter_map]
    rfl
  rw [hfilter, List.mem_filter, mem_bytes, isNone_lookup_iff]

theorem pairwise_unassigned (table : Table) : ((unassigned table).map Int.ofNat).Pairwise (· < ·) :=
  (List.pairwise_lt_range.filter _).map _ fun _ _ => Int.ofNat_lt.mpr

/-- Where all opcodes are bytes, each byte is an opcode or is not assigned. -/
theorem length_unassigned (hbytes : ∀ key ∈ table.opcodes.keys, 0 ≤ key ∧ key ≤ 255) :
    (unassigned table).length + table.size = 256 := by
  have hperm : ((unassigned table).map Int.ofNat ++ table.opcodes.keys).Perm
      ((List.range 256).map Int.ofNat) := by
    refine (List.perm_ext_iff_of_nodup ?_ ?_).mpr fun key => ?_
    · refine List.nodup_append.mpr
        ⟨(pairwise_unassigned table).imp Int.ne_of_lt, table.opcodes.nodup_keys, ?_⟩
      rintro key hfree _ hkey rfl
      exact (mem_unassigned.mp hfree).2 hkey
    · exact List.nodup_range.map fun _ _ => Int.ofNat.inj
    · rw [List.mem_append, mem_unassigned, mem_bytes]
      refine ⟨fun hkey => hkey.elim And.left (hbytes key), fun hbyte => ?_⟩
      by_cases hkey : key ∈ table.opcodes.keys
      · exact Or.inr hkey
      · exact Or.inl ⟨hbyte, hkey⟩
  simpa [OrderedMap.keys, Table.size, OrderedMap.size] using hperm.length_eq

/-! ### Reading rows -/

/-- The cells of a row: a margin, and behind it the cells with a separator between each two of them.
    Every cell starts with a mark. -/
def readCells? (margin : Text) (separator : Char) (mark row : Text) : Option (List Text) := do
  let cells ← row.dropPrefix? margin
  (Text.splitOn separator cells).mapM (·.dropPrefix? mark)

def readByteRow? (row : Text) : Option (List Int) := do
  let cells ← readCells? "  " ' ' "$" row
  cells.mapM (Numeral.readSigned? 16)

/-- The blank behind a comma belongs to the next name, and the first name has one too. -/
def readNameRow? (row : Text) : Option (List Text) :=
  readCells? " " ',' " " row

theorem dropPrefix?_append (mark rest : Text) : (mark ++ rest).dropPrefix? mark = some rest :=
  List.dropPrefix?_append_of_beq rest (BEq.refl mark)

theorem readCells?_join {separator : Char} {mark : Text} (hmark : separator ∉ mark) {cells : List Text}
    (hne : cells ≠ []) (hcells : ∀ cell ∈ cells, separator ∉ cell) (margin : Text) :
    readCells? margin separator mark (margin ++ Text.join [separator] (cells.map (mark ++ ·))) =
      some cells := by
  have hsplit : (Text.join [separator] (cells.map (mark ++ ·))).splitOn separator =
      cells.map (mark ++ ·) := by
    refine Text.splitOn_join (by simpa using hne) (List.forall_mem_map.mpr fun cell hcell => ?_)
    rw [List.mem_append, not_or]
    exact ⟨hmark, hcells cell hcell⟩
  have hdrop : (cells.map (mark ++ ·)).mapM (·.dropPrefix? mark) = some (cells.map id) :=
    mapM_map_eq_pure fun cell _ => dropPrefix?_append mark cell
  rw [readCells?, dropPrefix?_append, Option.bind_eq_bind, Option.bind_some, hsplit, hdrop,
    List.map_id]

theorem readByteRow?_row {row : List Nat} (hne : row ≠ []) :
    readByteRow? ("  " ++ Text.join " " (row.map (Numeral.dollarHex ∘ Int.ofNat))) =
      some (row.map Int.ofNat) := by
  have hdigits : ∀ cell ∈ row.map (Numeral.byteHex ∘ Int.ofNat), ' ' ∉ cell :=
    List.forall_mem_map.mpr fun byte _ => Numeral.not_mem_byteHex (by decide) rfl byte
  have hcells : readCells? "  " ' ' "$"
      ("  " ++ Text.join " " (row.map (Numeral.dollarHex ∘ Int.ofNat))) =
        some (row.map (Numeral.byteHex ∘ Int.ofNat)) := by
    have hjoin := @readCells?_join ' ' "$" (by decide) _ (by simpa using hne) hdigits "  "
    rw [List.map_map] at hjoin
    exact hjoin
  rw [readByteRow?, hcells]
  exact mapM_map_eq_pure fun byte _ => Numeral.readSigned?_byteHex byte

/-- A row of names as it is printed. -/
def nameRow (names : List Text) : Text :=
  "  " ++ Text.join ", " names

theorem readNameRow?_nameRow {names : List Text} (hne : names ≠ [])
    (hcomma : ∀ name ∈ names, ',' ∉ name) : readNameRow? (nameRow names) = some names := by
  have hrow : nameRow names = " ".toList ++ Text.join [','] (names.map (" ".toList ++ ·)) :=
    congrArg (" ".toList ++ ·) (Text.append_join_append [','] " " hne)
  rw [hrow]
  exact readCells?_join (by decide) hne hcomma " "

/-! ### Finding the rows in a report -/

/-- The paragraphs of a report from the first line on that starts with the label. Empty lines stand
    between paragraphs. -/
def paragraphsFrom (label report : Text) : List (List Text) :=
  ((Text.splitOn '\n' report).dropWhile fun line => !label.isPrefixOf line).splitOn []

/-- The number of unassigned bytes that a report gives, and the rows that it lists them in. -/
def readUnassigned? (report : Text) : Option (Int × List (List Int)) :=
  match paragraphsFrom "Unassigned opcode bytes: " report with
  | (line :: rows) :: _ => do
    let count ← line.dropPrefix? "Unassigned opcode bytes: "
    let count ← Numeral.readSigned? 10 count
    let rows ← rows.mapM readByteRow?
    return (count, rows)
  | _ => none

/-- A paragraph about a source: a line that sums it up, and the rows of its mnemonics. -/
def readSource? : List Text → Option (Text × List (List Text))
  | [] => none
  | summary :: rows => do
    let rows ← rows.mapM readNameRow?
    return (summary, rows)

/-- The sources of a report stand below their heading, up to an empty paragraph. -/
def readSources? (report : Text) : Option (List (Text × List (List Text))) :=
  ((paragraphsFrom "OPCODES BY SOURCE" report).tail.takeWhile (!·.isEmpty)).mapM readSource?

/-- The lines above the one that counts the unassigned bytes. -/
def opening (stats : Stats) (table : Table) (moment : Text) : List Text := [
  doubleRule, "6502 OPCODE EXTRACTION REPORT", doubleRule,
  "Generated: " ++ moment,
  [],
  "OVERALL STATISTICS", singleRule,
  "Total opcodes: " ++ ofNat stats.totalOpcodes ++ "/256",
  "Dispatch mnemonics: " ++ ofNat table.registry.length,
  "Documented flag effects: " ++ ofNat stats.flagEffects]

/-- The line that counts the unassigned bytes, and their rows. -/
def unassignedLines (table : Table) : List Text :=
  ("Unassigned opcode bytes: " ++ ofNat (unassigned table).length) :: unassignedRows table

/-- The lines below the sources. -/
def closing (stats : Stats) : List Text :=
  byCycleMode stats ++ [[], []] ++ byMode stats ++ [[]] ++ banner "END REPORT"

theorem opening_append (stats : Stats) (table : Table) (moment : Text) :
    banner "6502 OPCODE EXTRACTION REPORT" ++ ["Generated: " ++ moment, []] ++ overall stats table =
      opening stats table moment ++ unassignedLines table :=
  rfl

theorem render_eq (stats : Stats) (table : Table) (moment : Text) :
    render stats table moment = Text.unlines (opening stats table moment ++
      unassignedLines table ++ [[], []] ++ bySource stats ++ [[], []] ++
      closing stats) := by
  rw [render, opening_append, closing]
  simp only [List.append_assoc]

theorem newline_not_mem_ofNat (value : Nat) : '\n' ∉ ofNat value :=
  (Numeral.spells_ofNat value).not_mem rfl

theorem newline_not_mem_opening (stats : Stats) (table : Table) {moment : Text}
    (hmoment : '\n' ∉ moment) :
    ∀ line ∈ opening stats table moment, '\n' ∉ line := by
  simp only [opening, List.forall_mem_cons, List.mem_append, not_or]
  exact ⟨by decide, by decide, by decide, ⟨by decide, hmoment⟩, by decide, by decide, by decide,
    ⟨⟨by decide, newline_not_mem_ofNat _⟩, by decide⟩, ⟨by decide, newline_not_mem_ofNat _⟩,
    ⟨by decide, newline_not_mem_ofNat _⟩, by simp⟩

theorem newline_not_mem_unassignedLines (table : Table) :
    ∀ line ∈ unassignedLines table, '\n' ∉ line := by
  refine List.forall_mem_cons.mpr ⟨?_, List.forall_mem_map.mpr fun row _ => ?_⟩
  · rw [List.mem_append, not_or]
    exact ⟨by decide, newline_not_mem_ofNat _⟩
  · rw [List.mem_append, not_or]
    refine ⟨by decide, Text.not_mem_join (by decide) (List.forall_mem_map.mpr fun byte _ => ?_)⟩
    exact List.not_mem_cons_of_ne_of_not_mem (by decide) (Numeral.not_mem_byteHex (by decide) rfl byte)

theorem isPrefixOf_opening (stats : Stats) (table : Table) (moment : Text) :
    ∀ line ∈ opening stats table moment,
      List.isPrefixOf "Unassigned opcode bytes: ".toList line = false ∧
        List.isPrefixOf "OPCODES BY SOURCE".toList line = false := by
  simp only [opening, List.forall_mem_cons]
  exact ⟨⟨rfl, rfl⟩, ⟨rfl, rfl⟩, ⟨rfl, rfl⟩, ⟨rfl, rfl⟩, ⟨rfl, rfl⟩, ⟨rfl, rfl⟩, ⟨rfl, rfl⟩, ⟨rfl, rfl⟩,
    ⟨rfl, rfl⟩, ⟨rfl, rfl⟩, by simp⟩

theorem isPrefixOf_unassignedLines (table : Table) :
    ∀ line ∈ unassignedLines table, List.isPrefixOf "OPCODES BY SOURCE".toList line = false :=
  List.forall_mem_cons.mpr ⟨rfl, List.forall_mem_map.mpr fun _ _ => rfl⟩

/-- The line that sums up what a source contributed. -/
def summary (entry : Text × Contribution) : Text :=
  entry.1 ++ ": " ++ ofNat entry.2.variants ++ " opcodes (" ++ ofNat entry.2.mnemonics.length ++
    " mnemonics)"

def sourceParagraph (entry : Text × Contribution) : List Text :=
  summary entry :: mnemonicRows entry.2.mnemonics

theorem bySource_eq (stats : Stats) :
    bySource stats = heading "OPCODES BY SOURCE" ++
      (stats.bySource.entries.map sourceParagraph).flatMap ([] :: ·) := by
  rw [bySource, List.flatMap_map]
  rfl

/-- The lines of a report. Those of the sources may have line breaks within them. -/
theorem lines_render (stats : Stats) (table : Table) {moment : Text} (hmoment : '\n' ∉ moment) :
    Text.splitOn '\n' (render stats table moment) =
      opening stats table moment ++ (unassignedLines table ++ [] :: [] ::
        (heading "OPCODES BY SOURCE" ++ ((stats.bySource.entries.map sourceParagraph).flatMap
          ([] :: ·)).flatMap (Text.splitOn '\n') ++
          [] :: [] :: (closing stats).flatMap (Text.splitOn '\n'))) := by
  have hheading : ∀ line ∈ heading "OPCODES BY SOURCE", '\n' ∉ line := by decide
  have hblank : ∀ line ∈ ([[], []] : List Text), '\n' ∉ line := by decide
  rw [render_eq, Text.splitOn_unlines (by simp), bySource_eq]
  simp only [List.flatMap_append]
  rw [Text.flatMap_splitOn_eq_self (newline_not_mem_opening stats table hmoment),
    Text.flatMap_splitOn_eq_self (newline_not_mem_unassignedLines table),
    Text.flatMap_splitOn_eq_self hheading, Text.flatMap_splitOn_eq_self hblank]
  simp only [List.append_assoc, List.cons_append, List.nil_append]

theorem paragraphsFrom_eq {label report line : Text} {front rest : List Text}
    (hlines : Text.splitOn '\n' report = front ++ line :: rest)
    (hfront : ∀ line ∈ front, label.isPrefixOf line = false) (hline : label.isPrefixOf line = true) :
    paragraphsFrom label report = (line :: rest).splitOn [] := by
  have hpasses : ∀ line ∈ front, (!label.isPrefixOf line) = true := by simpa using hfront
  rw [paragraphsFrom, hlines, List.dropWhile_append_of_pos hpasses,
    List.dropWhile_cons_of_neg (by simp [hline])]

/-- An empty line ends a paragraph. -/
theorem splitOn_paragraph {paragraph : List Text} (hlines : [] ∉ paragraph) (rest : List Text) :
    (paragraph ++ [] :: rest).splitOn [] = paragraph :: rest.splitOn [] := by
  rw [List.splitOn_append_cons_self, List.splitOn_eq_singleton hlines, List.singleton_append]

/-- Paragraphs one below the other, each with an empty line in front of it. -/
theorem splitOn_paragraphs {first : List Text} {paragraphs : List (List Text)} (hfirst : [] ∉ first)
    (hlines : ∀ paragraph ∈ paragraphs, [] ∉ paragraph) (rest : List Text) :
    (first ++ paragraphs.flatMap ([] :: ·) ++ [] :: rest).splitOn [] =
      first :: paragraphs ++ rest.splitOn [] := by
  induction paragraphs generalizing first with
  | nil => simpa using splitOn_paragraph hfirst rest
  | cons paragraph others ih =>
    obtain ⟨hparagraph, hothers⟩ := List.forall_mem_cons.mp hlines
    rw [List.flatMap_cons, List.cons_append, List.append_assoc, List.cons_append,
      splitOn_paragraph hfirst, ih hparagraph hothers]
    rfl

theorem nil_not_mem_unassignedLines (table : Table) : [] ∉ unassignedLines table := by
  refine List.not_mem_cons_of_ne_of_not_mem (by simp) fun hmem => ?_
  obtain ⟨row, -, hrow⟩ := List.mem_map.mp hmem
  cases hrow

theorem nil_not_mem_sourceParagraph (entry : Text × Contribution) : [] ∉ sourceParagraph entry := by
  refine List.not_mem_cons_of_ne_of_not_mem (by simp [summary]) fun hmem => ?_
  obtain ⟨row, -, hrow⟩ := List.mem_map.mp hmem
  cases hrow

/-- The unassigned bytes that a report gives are those of the table. -/
theorem readUnassigned?_render (stats : Stats) (table : Table) {moment : Text}
    (hmoment : '\n' ∉ moment) :
    readUnassigned? (render stats table moment) = some (((unassigned table).length : Int),
      (Text.chunks 16 (unassigned table)).map (List.map Int.ofNat)) := by
  have hlines := lines_render stats table hmoment
  have hlabel : List.isPrefixOf "Unassigned opcode bytes: ".toList
      ("Unassigned opcode bytes: " ++ ofNat (unassigned table).length) = true := by simp
  have hrows : (unassignedRows table).mapM readByteRow? =
      some ((Text.chunks 16 (unassigned table)).map (List.map Int.ofNat)) :=
    mapM_map_eq_pure fun row hrow =>
      readByteRow?_row ((InRows.chunks (by decide) _).bounded row hrow).1
  have hparagraph : ∃ others, paragraphsFrom "Unassigned opcode bytes: " (render stats table moment) =
      unassignedLines table :: others := by
    have hfront := fun line hline => (isPrefixOf_opening stats table moment line hline).1
    rw [paragraphsFrom_eq hlines hfront hlabel]
    exact ⟨_, splitOn_paragraph (nil_not_mem_unassignedLines table) _⟩
  obtain ⟨others, hparagraph⟩ := hparagraph
  rw [readUnassigned?, hparagraph, unassignedLines]
  simp only [dropPrefix?_append, Numeral.readSigned?_ofNat, hrows, Option.bind_eq_bind,
    Option.bind_some, Option.pure_def]

/-- Names that can be told apart in a report: they stand on one line, and no mnemonic has a comma. -/
def Legible (stats : Stats) : Prop :=
  ∀ entry ∈ stats.bySource.entries, '\n' ∉ entry.1 ∧
    ∀ mnemonic ∈ entry.2.mnemonics, '\n' ∉ mnemonic ∧ ',' ∉ mnemonic

theorem newline_not_mem_sourceParagraph {entry : Text × Contribution} (hname : '\n' ∉ entry.1)
    (hmnemonics : ∀ mnemonic ∈ entry.2.mnemonics, '\n' ∉ mnemonic) :
    ∀ line ∈ sourceParagraph entry, '\n' ∉ line := by
  refine List.forall_mem_cons.mpr ⟨?_, List.forall_mem_map.mpr fun row hrow => ?_⟩
  · simp only [summary, List.mem_append, not_or]
    exact ⟨⟨⟨⟨⟨hname, by decide⟩, newline_not_mem_ofNat _⟩, by decide⟩, newline_not_mem_ofNat _⟩,
      by decide⟩
  · rw [List.mem_append, not_or]
    refine ⟨by decide, Text.not_mem_join (by decide) fun mnemonic hmnemonic => ?_⟩
    exact hmnemonics mnemonic ((InRows.chunks (by decide) _).mem hrow hmnemonic)

theorem readSource?_sourceParagraph {entry : Text × Contribution}
    (hcomma : ∀ mnemonic ∈ entry.2.mnemonics, ',' ∉ mnemonic) :
    readSource? (sourceParagraph entry) = some (summary entry, Text.chunks 12 entry.2.mnemonics) := by
  have hrows := InRows.chunks (by decide : 0 < 12) entry.2.mnemonics
  have hread : (mnemonicRows entry.2.mnemonics).mapM readNameRow? =
      some ((Text.chunks 12 entry.2.mnemonics).map id) := by
    apply mapM_map_eq_pure
    intro row hrow
    apply readNameRow?_nameRow (hrows.bounded row hrow).1
    exact fun mnemonic hmnemonic => hcomma mnemonic (hrows.mem hrow hmnemonic)
  rw [List.map_id] at hread
  rw [sourceParagraph, readSource?, hread]
  rfl

/-- The sources that a report gives are those of its statistics, in order and with their mnemonics. -/
theorem readSources?_render {stats : Stats} (hlegible : Legible stats) (table : Table) {moment : Text}
    (hmoment : '\n' ∉ moment) :
    readSources? (render stats table moment) = some (stats.bySource.entries.map fun entry =>
      (summary entry, Text.chunks 12 entry.2.mnemonics)) := by
  let paragraphs := stats.bySource.entries.map sourceParagraph
  have hsources : ∀ line ∈ paragraphs.flatMap ([] :: ·), '\n' ∉ line := by
    intro line hline
    obtain ⟨paragraph, hparagraph, hline⟩ := List.mem_flatMap.mp hline
    obtain ⟨entry, hentry, rfl⟩ := List.mem_map.mp hparagraph
    obtain ⟨hname, hmnemonics⟩ := hlegible entry hentry
    obtain rfl | hline := List.mem_cons.mp hline
    · exact List.not_mem_nil
    · exact newline_not_mem_sourceParagraph hname (fun mnemonic hmem => (hmnemonics mnemonic hmem).1)
        line hline
  have hlines : Text.splitOn '\n' (render stats table moment) =
      (opening stats table moment ++ unassignedLines table ++ [[], []]) ++
        (heading "OPCODES BY SOURCE" ++ paragraphs.flatMap ([] :: ·) ++
          [] :: [] :: (closing stats).flatMap (Text.splitOn '\n')) := by
    rw [lines_render stats table hmoment, Text.flatMap_splitOn_eq_self hsources]
    simp only [List.append_assoc, List.cons_append, List.nil_append]
  have hfront : ∀ line ∈ opening stats table moment ++ unassignedLines table ++ [[], []],
      List.isPrefixOf "OPCODES BY SOURCE".toList line = false := by
    simp only [List.forall_mem_append]
    exact ⟨⟨fun line hline => (isPrefixOf_opening stats table moment line hline).2,
      isPrefixOf_unassignedLines table⟩, by decide⟩
  have hparagraphs : paragraphsFrom "OPCODES BY SOURCE" (render stats table moment) =
      heading "OPCODES BY SOURCE" :: paragraphs ++
        [] :: ((closing stats).flatMap (Text.splitOn '\n')).splitOn [] := by
    have hparagraphs : ∀ paragraph ∈ paragraphs, [] ∉ paragraph :=
      List.forall_mem_map.mpr fun entry _ => nil_not_mem_sourceParagraph entry
    have hheading : [] ∉ heading "OPCODES BY SOURCE" := by decide
    rw [paragraphsFrom_eq hlines hfront (by decide),
      ← splitOn_paragraph List.not_mem_nil ((closing stats).flatMap (Text.splitOn '\n'))]
    exact splitOn_paragraphs hheading hparagraphs _
  have hkept : ∀ paragraph ∈ paragraphs, (!paragraph.isEmpty) = true :=
    List.forall_mem_map.mpr fun _ _ => rfl
  rw [readSources?, hparagraphs, List.cons_append, List.tail_cons,
    List.takeWhile_append_of_pos hkept, List.takeWhile_cons_of_neg (by simp), List.append_nil]
  exact mapM_map_eq_pure fun entry hentry =>
    readSource?_sourceParagraph fun mnemonic hmem => ((hlegible entry hentry).2 mnemonic hmem).2

/-- The paragraph of a source stands in the report between empty lines, whatever its names are. -/
theorem exists_lines_of_source {stats : Stats} {entry : Text × Contribution}
    (hentry : entry ∈ stats.bySource.entries) (table : Table) (moment : Text) :
    ∃ before after, render stats table moment =
      Text.unlines (before ++ [] :: sourceParagraph entry ++ [] :: after) := by
  obtain ⟨earlier, later, hentries⟩ := List.append_of_mem hentry
  -- The empty line behind the paragraph belongs to the next source, or to the next heading.
  obtain ⟨after, hafter⟩ : ∃ after, (later.map sourceParagraph).flatMap ([] :: ·) ++
      [] :: [] :: closing stats = [] :: after := by
    cases later with
    | nil => exact ⟨_, rfl⟩
    | cons next others => exact ⟨_, rfl⟩
  refine ⟨opening stats table moment ++ unassignedLines table ++ [[], []] ++
    heading "OPCODES BY SOURCE" ++ (earlier.map sourceParagraph).flatMap ([] :: ·), after, ?_⟩
  rw [render_eq, bySource_eq, hentries, ← hafter]
  simp only [List.map_append, List.map_cons, List.flatMap_append, List.flatMap_cons,
    List.append_assoc, List.cons_append, List.nil_append]

/-- A report lists the bytes that are no opcodes of its table, in ascending order, sixteen a row, with
    their number. For a table that is built from documents that is what its size leaves of 256. For
    each source the report lists the mnemonics in order, twelve a row. -/
theorem rows_hold_lists (stats : Stats) (table : Table) {moment : Text} (hmoment : '\n' ∉ moment) :
    (∃ (bytes : List Int) (rows : List (List Int)),
      readUnassigned? (render stats table moment) = some ((bytes.length : Int), rows) ∧
      InRows 16 bytes rows ∧ bytes.Pairwise (· < ·) ∧
      (∀ byte, byte ∈ bytes ↔ (0 ≤ byte ∧ byte ≤ 255) ∧ byte ∉ table.opcodes.keys) ∧
      ∀ (documents : Documents) (collected : Stats), documents.table.outcome = .ok (table, collected) →
        bytes.length + table.size = 256) ∧
    (∀ entry ∈ stats.bySource.entries, ∃ before rows after,
      render stats table moment = Text.unlines
        (before ++ [] :: summary entry :: rows.map nameRow ++ [] :: after) ∧
      InRows 12 entry.2.mnemonics rows) ∧
    (Legible stats → ∃ sources, readSources? (render stats table moment) = some sources ∧
      List.Forall₂ (fun entry source => source.1 = summary entry ∧ InRows 12 entry.2.mnemonics source.2)
        stats.bySource.entries sources) := by
  refine ⟨?_, fun entry hentry => ?_, fun hlegible => ?_⟩
  · refine ⟨(unassigned table).map Int.ofNat, _, ?_, (InRows.chunks (by decide) _).map _, ?_,
      fun byte => mem_unassigned, fun documents collected hbuilt => ?_⟩
    · rw [List.length_map]
      exact readUnassigned?_render stats table hmoment
    · exact pairwise_unassigned table
    · rw [List.length_map]
      exact length_unassigned fun key hkey => Documents.byte_of_key hbuilt hkey
  · obtain ⟨before, after, hrender⟩ := exists_lines_of_source hentry table moment
    exact ⟨before, _, after, hrender, InRows.chunks (by decide) _⟩
  · refine ⟨_, readSources?_render hlegible table hmoment, ?_⟩
    rw [List.forall₂_map_right_iff, List.forall₂_same]
    exact fun entry _ => ⟨rfl, InRows.chunks (by decide) _⟩

/-- More names than a row holds. -/
def manyNames : List Text :=
  ["ADC", "AND", "ASL", "BCC", "BCS", "BEQ", "BIT", "BMI", "BNE", "BPL", "BRK", "BVC", "BVS"]

def manyNamed : Stats where
  bySource := .ofList [("official", ⟨20, manyNames⟩)]

/-- A report about a source of many names, and about a table that leaves all but two bytes. -/
theorem manyNamed_read :
    ∃ built, Documents.penalties.table.outcome = .ok built ∧ '\n' ∉ "1975-09-16".toList ∧
      Legible manyNamed ∧
      (∃ bytes rows, readUnassigned? (render manyNamed built.1 "1975-09-16") = some (254, rows) ∧
        InRows 16 bytes rows ∧ 0x91 ∈ bytes ∧ 0x90 ∉ bytes) ∧
      ∃ source, readSources? (render manyNamed built.1 "1975-09-16") = some [source] ∧
        InRows 12 manyNames source.2 := by
  obtain ⟨built, hbuilt⟩ : ∃ built, Documents.penalties.table.outcome = .ok built := ⟨_, rfl⟩
  have hkeys : built.1.opcodes.keys = [0x90, 0xB3] := by
    obtain rfl := Except.ok.inj hbuilt
    rfl
  have hmoment : '\n' ∉ "1975-09-16".toList := by decide
  have hlegible : Legible manyNamed := by
    unfold Legible
    decide
  obtain ⟨⟨bytes, rows, hread, hrows, -, hmem, hlength⟩, -, hsources⟩ :=
    rows_hold_lists manyNamed built.1 hmoment
  have hcount : bytes.length = 254 := by
    have hsize : built.1.size = built.1.opcodes.keys.length := (List.length_map _).symm
    rw [hkeys] at hsize
    have htotal := hlength Documents.penalties built.2 hbuilt
    rw [hsize] at htotal
    exact Nat.add_right_cancel htotal
  rw [hcount] at hread
  rw [hkeys] at hmem
  obtain ⟨sources, hsources, hall⟩ := hsources hlegible
  obtain ⟨source, others, hsource, hothers, rfl⟩ := List.forall₂_cons_left_iff.mp hall
  obtain rfl := List.forall₂_nil_left_iff.mp hothers
  have htaken : 0x90 ∉ bytes := fun hfree => absurd ((hmem _).mp hfree) (by decide)
  exact ⟨built, hbuilt, hmoment, hlegible,
    ⟨bytes, rows, hread, hrows, (hmem _).mpr (by decide), htaken⟩, source, hsources, hsource.2⟩

end Report

end OpcodeAtlas
