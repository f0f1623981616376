import OpcodeAtlas.Proofs.AddressingMode
import OpcodeAtlas.Proofs.RustModule.Dispatch
import OpcodeAtlas.Proofs.Text.PrintedNumeral

namespace OpcodeAtlas

theorem CycleMode.ofName?_name (mode : CycleMode) : ofName? mode.name = some mode := by
  cases mode <;> decide

namespace RustModule

/-! Reading the table literal back. A reader of a part of a line gives what it has read and the text
behind it. -/

/-- A field of a line: an opening, what the field holds, and a closing character. -/
def field (opening inner : Text) (closing : Char) (rest : Text) : Text :=
  opening ++ inner ++ closing :: rest

def readField? (opening : Text) (closing : Char) (text : Text) : Option (Text × Text) :=
  (text.dropPrefix? opening).map (Text.cutAt closing)

/-- The text of a block comment up to its first closer. -/
def closeComment? : Text → Option (Text × Text)
  | [] => none
  | ' ' :: '*' :: '/' :: rest => some ([], rest)
  | c :: rest => (closeComment? rest).map fun (inner, behind) => (c :: inner, behind)

def isCountMark (c : Char) : Bool :=
  c == '-' || c.isDigit

def readCount? (text : Text) : Option (Int × Text) :=
  (Numeral.readSigned? 10 (text.takeWhile isCountMark)).map fun count =>
    (count, text.dropWhile isCountMark)

/-- The note in the comment that a text begins with. Without a comment the note is empty. -/
def readNote? (text : Text) : Option (Text × Text) :=
  match text.dropPrefix? " /* " with
  | none => some ([], text)
  | some comment => closeComment? comment

/-- The variant that a constructor call is printed for. -/
def readValue? (text : Text) : Option (Variant × Text) := do
  let (opcode, rest) ← readField? "OpCode::new(0x" ',' text
  let (name, rest) ← readField? " \"" '"' rest
  let (size, rest) ← readField? ", " ',' rest
  let rest ← rest.dropPrefix? " "
  let (cycles, rest) ← readCount? rest
  let (cycleNote, rest) ← readNote? rest
  let (cycleMode, rest) ← readField? ", CycleCalcMode::" ',' rest
  let (mode, rest) ← readField? " AddressingMode::" ')' rest
  let opcode ← Numeral.readSigned? 16 opcode
  let size ← Numeral.readSigned? 10 size
  let cycleMode ← CycleMode.ofName? cycleMode
  let mode ← AddressingMode.ofName? mode
  let mnemonic := name.dropWhile (· == Variant.unofficialMark)
  let official := name.head? != some Variant.unofficialMark
  return ({ opcode, mnemonic, size, cycles, cycleMode, mode, official, cycleNote }, rest)

/-- A line that adds a variant to the table under a key. -/
def readInsertion? (line : Text) : Option (Int × Variant) := do
  let (key, rest) ← readField? "map.insert(0x" ',' line
  let rest ← rest.dropPrefix? " "
  let key ← Numeral.readSigned? 16 key
  let (variant, rest) ← readValue? rest
  if rest = ");" then some (key, variant) else none

/-- Reads insertions up to the line that gives the map back. -/
def readInsertions? : List Text → Option (List (Int × Variant))
  | [] => none
  | line :: rest =>
    if line.isEmpty then readInsertions? rest
    else if line = "map" then if rest = (["\x7d;"] : List Text) then some [] else none
    else do
      let entry ← readInsertion? line
      let entries ← readInsertions? rest
      return entry :: entries

/-- The lines of the static table without the first one and the last one. -/
def readEntries? : List Text → Option (List (Int × Variant))
  | declaration :: creation :: lines =>
    if declaration = "pub static ref CPU_OPS_CODES: HashMap<u8, OpCode> = \x7b" ∧
        creation = "let mut map = HashMap::new();" then
      readInsertions? lines
    else none
  | _ => none

/-- What the table literal tells about a variant, which is all but the closers in its note. -/
def emitted (variant : Variant) : Variant :=
  { variant with cycleNote := spaceClosers variant.cycleNote }

theorem dropPrefix?_space (text : Text) : List.dropPrefix? (' ' :: text) " ".toList = some text :=
  List.dropPrefix?_append_of_beq text (BEq.refl " ".toList)

theorem readField?_field {closing : Char} {inner : Text} (hinner : closing ∉ inner)
    (opening rest : Text) :
    readField? opening closing (field opening inner closing rest) = some (inner, rest) := by
  rw [readField?, field, List.append_assoc,
    List.dropPrefix?_append_of_beq _ (BEq.refl opening), Option.map_some, Text.cutAt_append hinner]

theorem head?_spaceClosers (note : Text) : (spaceClosers note).head? = note.head? := by
  fun_cases spaceClosers note <;> rfl

/-- A spaced note does not begin with a closer, nor with a part of one that a space completes. -/
theorem spaceClosers_append_ne (note rest more : Text) :
    spaceClosers note ++ ' ' :: rest ≠ '*' :: '/' :: more := by
  fun_cases spaceClosers note with
  | case1 note => simp
  | case2 c note hopen =>
    intro heq
    obtain ⟨hstar, hbehind⟩ := List.cons.inj heq
    cases note with
    | nil => simp [spaceClosers] at hbehind
    | cons d note =>
      have hslash := congrArg List.head? hbehind
      simp only [List.append_eq, List.head?_append, head?_spaceClosers] at hslash
      exact hopen note hstar (congrArg (· :: note) (Option.some.inj hslash))
  | case3 => simp

/-- The first closer behind a spaced note is the one that was printed behind it. -/
theorem closeComment?_spaceClosers (note rest : Text) :
    closeComment? (spaceClosers note ++ ' ' :: '*' :: '/' :: rest) =
      some (spaceClosers note, rest) := by
  fun_induction spaceClosers note with
  | case1 note ih =>
    -- The space between the two characters of the closer is followed by a slash.
    simp [closeComment?.eq_3, ih]
  | case2 c note hopen ih =>
    rw [List.cons_append, closeComment?.eq_3, ih, Option.map_some]
    rintro more - heq
    exact spaceClosers_append_ne note _ more heq
  | case3 => rfl

theorem isCountMark_of_mem_ofInt {value : Int} {c : Char} (hc : c ∈ Numeral.ofInt value) :
    isCountMark c = true := by
  have hdigits : ∀ d ∈ Numeral.ofNat value.natAbs, isCountMark d = true := by
    intro d hd
    have hdigit : d.isDigit = true := Nat.isDigit_of_mem_toDigits (by decide) (by decide) hd
    rw [isCountMark, hdigit, Bool.or_true]
  unfold Numeral.ofInt Numeral.signed at hc
  split at hc
  · obtain rfl | hc := List.mem_cons.mp hc
    · decide
    · exact hdigits c hc
  · exact hdigits c hc

/-- A count is read up to the first character that is no part of a numeral. -/
theorem readCount?_ofInt (value : Int) {c : Char} (hc : isCountMark c = false) (rest : Text) :
    readCount? (Numeral.ofInt value ++ c :: rest) = some (value, c :: rest) := by
  have hmarks : ∀ d ∈ Numeral.ofInt value, isCountMark d = true := fun d hd =>
    isCountMark_of_mem_ofInt hd
  rw [readCount?, List.takeWhile_append_of_pos hmarks, List.dropWhile_append_of_pos hmarks]
  simp [hc, Numeral.readSigned?_ofInt]

/-- Behind the count, the cycles of a variant show its note. -/
theorem cycles_append_comma (variant : Variant) (rest : Text) :
    ∃ c comment, cycles variant ++ ',' :: rest = Numeral.ofInt variant.cycles ++ c :: comment ∧
      isCountMark c = false ∧
      readNote? (c :: comment) = some (spaceClosers variant.cycleNote, ',' :: rest) := by
  unfold cycles
  split
  · next hnote =>
    refine ⟨',', rest, rfl, by decide, ?_⟩
    rw [List.isEmpty_iff.mp hnote]
    rfl
  · let comment := spaceClosers variant.cycleNote ++ ' ' :: '*' :: '/' :: ',' :: rest
    have hopen : List.dropPrefix? (' ' :: '/' :: '*' :: ' ' :: comment) " /* ".toList = some comment :=
      List.dropPrefix?_append_of_beq comment (BEq.refl " /* ".toList)
    refine ⟨' ', '/' :: '*' :: ' ' :: comment, by simp [comment], by decide, ?_⟩
    rw [readNote?, hopen]
    exact closeComment?_spaceClosers variant.cycleNote (',' :: rest)

theorem entryValue_append (variant : Variant) (rest : Text) :
    entryValue variant ++ rest =
      field "OpCode::new(0x" (Numeral.byteHex variant.opcode) ',' (field " \"" variant.name '"'
        (field ", " (Numeral.ofInt variant.size) ',' (' ' :: (cycles variant ++ ',' ::
          (field " CycleCalcMode::" variant.cycleMode.name ','
            (field " AddressingMode::" variant.mode.name ')' rest)))))) := by
  unfold entryValue byteLiteral
  simp [field, Text.join, List.intercalate]

theorem official_eq {variant : Variant} (hletters : ∀ c ∈ variant.mnemonic, isLetter c = true) :
    (variant.name.head? != some Variant.unofficialMark) = variant.official := by
  unfold Variant.name
  cases hofficial : variant.official with
  | false => simp
  | true =>
    rw [if_pos rfl, bne_iff_ne]
    intro hhead
    exact absurd (hletters _ (List.mem_of_mem_head? hhead)) (by decide)

theorem quote_not_mem_name {variant : Variant}
    (hletters : ∀ c ∈ variant.mnemonic, isLetter c = true) : '"' ∉ variant.name := by
  have hmnemonic : '"' ∉ variant.mnemonic := (readable_of_letters hletters).quote
  unfold Variant.name
  split
  · exact hmnemonic
  · simp [hmnemonic, Variant.unofficialMark]

theorem readValue?_entryValue {variant : Variant}
    (hletters : ∀ c ∈ variant.mnemonic, isLetter c = true) (rest : Text) :
    readValue? (entryValue variant ++ rest) = some (emitted variant, rest) := by
  have hopcode : ',' ∉ Numeral.byteHex variant.opcode := Numeral.not_mem_byteHex (by decide) rfl _
  have hsize : ',' ∉ Numeral.ofInt variant.size := Numeral.not_mem_ofInt (by decide) rfl _
  have hcycleMode : ',' ∉ variant.cycleMode.name := by
    cases variant.cycleMode <;> decide
  have hmode : ')' ∉ variant.mode.name := by
    cases variant.mode <;> decide
  obtain ⟨c, comment, hcycles, hc, hnote⟩ := cycles_append_comma variant
    (field " CycleCalcMode::" variant.cycleMode.name ','
      (field " AddressingMode::" variant.mode.name ')' rest))
  have hcomma : ',' :: field " CycleCalcMode::" variant.cycleMode.name ','
      (field " AddressingMode::" variant.mode.name ')' rest) =
      field ", CycleCalcMode::" variant.cycleMode.name ','
        (field " AddressingMode::" variant.mode.name ')' rest) := rfl
  rw [entryValue_append, hcycles, readValue?]
  simp only [readField?_field hopcode, readField?_field (quote_not_mem_name hletters),
    readField?_field hsize, dropPrefix?_space, readCount?_ofInt _ hc, hnote, hcomma,
    readField?_field hcycleMode, readField?_field hmode, Numeral.readSigned?_byteHex,
    Numeral.readSigned?_ofInt, CycleMode.ofName?_name, AddressingMode.ofName?_eq_some_iff.mpr rfl, dropWhile_mark_name hletters,
    official_eq hletters, Option.bind_eq_bind, Option.bind_some]
  rfl

theorem insertion_eq (key : Int) (variant : Variant) :
    insertion key variant =
      field "map.insert(0x" (Numeral.byteHex key) ',' (' ' :: (entryValue variant ++ ");")) := by
  unfold insertion byteLiteral
  simp [field]

theorem readInsertion?_insertion (key : Int) {variant : Variant}
    (hletters : ∀ c ∈ variant.mnemonic, isLetter c = true) :
    readInsertion? (insertion key variant) = some (key, emitted variant) := by
  have hkey : ',' ∉ Numeral.byteHex key := Numeral.not_mem_byteHex (by decide) rfl _
  rw [insertion_eq, readInsertion?]
  simp only [readField?_field hkey, dropPrefix?_space, Numeral.readSigned?_byteHex,
    readValue?_entryValue hletters, Option.bind_eq_bind, Option.bind_some, if_true]

theorem mem_spaceClosers {note : Text} {c : Char} (hc : c ∈ spaceClosers note) :
    c = ' ' ∨ c ∈ note := by
  fun_induction spaceClosers note with
  | case1 note ih => grind
  | case2 d note _ ih => grind
  | case3 => cases hc

/-- An insertion is one line. -/
theorem newline_not_mem_insertion (key : Int) {variant : Variant}
    (hletters : ∀ c ∈ variant.mnemonic, isLetter c = true) (hnote : '\n' ∉ variant.cycleNote) :
    '\n' ∉ insertion key variant := by
  have hkey : '\n' ∉ Numeral.byteHex key := Numeral.not_mem_byteHex (by decide) rfl _
  have hopcode : '\n' ∉ Numeral.byteHex variant.opcode := Numeral.not_mem_byteHex (by decide) rfl _
  have hsize : '\n' ∉ Numeral.ofInt variant.size := Numeral.not_mem_ofInt (by decide) rfl _
  have hcount : '\n' ∉ Numeral.ofInt variant.cycles := Numeral.not_mem_ofInt (by decide) rfl _
  have hspaced : '\n' ∉ spaceClosers variant.cycleNote := by
    intro hmem
    obtain hspace | hmem := mem_spaceClosers hmem
    · cases hspace
    · exact hnote hmem
  have hcycles : '\n' ∉ cycles variant := by
    unfold cycles
    split
    · exact hcount
    · simp [hcount, hspaced]
  have hmnemonic : '\n' ∉ variant.mnemonic := (readable_of_letters hletters).line
  have hname : '\n' ∉ variant.name := by
    unfold Variant.name
    split
    · exact hmnemonic
    · simp [hmnemonic, Variant.unofficialMark]
  have hcycleMode : '\n' ∉ variant.cycleMode.name := by
    cases variant.cycleMode <;> decide
  have hmode : '\n' ∉ variant.mode.name := by
    cases variant.mode <;> decide
  have hvalue := entryValue_append variant ");"
  rw [insertion_eq, hvalue]
  simp [field, hkey, hopcode, hname, hsize, hcycles, hcycleMode, hmode]

/-- An insertion begins with a letter, so it is found without its margin. -/
theorem flushLines_insertion (key : Int) {variant : Variant}
    (hletters : ∀ c ∈ variant.mnemonic, isLetter c = true) (hnote : '\n' ∉ variant.cycleNote) :
    flushLines (insertion key variant) = [insertion key variant] := by
  rw [flushLines_of_not_mem (newline_not_mem_insertion key hletters hnote)]
  rfl

theorem flushLines_insertions {entries : List (Int × Variant)}
    (hletters : ∀ entry ∈ entries, ∀ c ∈ entry.2.mnemonic, isLetter c = true)
    (hnotes : ∀ entry ∈ entries, '\n' ∉ entry.2.cycleNote) :
    flushLines (Text.unlines (entries.map fun entry => insertion entry.1 entry.2)) =
      if entries = [] then [[]] else entries.map fun entry => insertion entry.1 entry.2 := by
  split
  · next hnil =>
    subst hnil
    rfl
  · next hne =>
    have hlines : ∀ entry ∈ entries, flushLines (insertion entry.1 entry.2) =
        [insertion entry.1 entry.2] := fun entry hentry =>
      flushLines_insertion entry.1 (hletters entry hentry) (hnotes entry hentry)
    rw [flushLines_unlines (by simpa using hne), List.flatMap_map, List.flatMap_congr hlines,
      List.map_eq_flatMap]

/-- The insertions are read one by one, up to the end of the map. -/
theorem readInsertions?_insertions {entries : List (Int × Variant)}
    (hletters : ∀ entry ∈ entries, ∀ c ∈ entry.2.mnemonic, isLetter c = true) :
    readInsertions? ((entries.map fun entry => insertion entry.1 entry.2) ++
        (["map", "\x7d;"] : List Text)) =
      some (entries.map fun entry => (entry.1, emitted entry.2)) := by
  induction entries with
  | nil => rfl
  | cons entry rest ih =>
    obtain ⟨hentry, hrest⟩ := List.forall_mem_cons.mp hletters
    have hnonempty : (insertion entry.1 entry.2).isEmpty = false := by
      simp [insertion_eq, field]
    have hopen : insertion entry.1 entry.2 ≠ "map".toList := by
      simp [insertion_eq, field]
    rw [List.map_cons, List.cons_append, readInsertions?, hnonempty, if_neg hopen,
      readInsertion?_insertion entry.1 hentry, ih hrest]
    rfl

/-- The lines of the static table between its braces are read back to its entries. -/
theorem readEntries?_lines {entries : List (Int × Variant)}
    (hletters : ∀ entry ∈ entries, ∀ c ∈ entry.2.mnemonic, isLetter c = true)
    (hnotes : ∀ entry ∈ entries, '\n' ∉ entry.2.cycleNote) :
    readEntries? ("pub static ref CPU_OPS_CODES: HashMap<u8, OpCode> = \x7b".toList ::
        "let mut map = HashMap::new();".toList ::
        (flushLines (Text.unlines (entries.map fun entry => insertion entry.1 entry.2)) ++
          (["map", "\x7d;"] : List Text))) =
      some (entries.map fun entry => (entry.1, emitted entry.2)) := by
  have hread := readInsertions?_insertions hletters
  rw [readEntries?, if_pos ⟨rfl, rfl⟩, flushLines_insertions hletters hnotes]
  split
  · next hnil =>
    subst hnil
    rfl
  · exact hread

/-- A line that is moved to the right begins with a space, unless it is empty. -/
theorem ne_cons_of_mem_splitOn_indent {code line rest : Text} {levels : Nat} {c : Char}
    (hlevels : 0 < levels) (hline : line ∈ (indent code levels).splitOn '\n') (hc : c ≠ ' ') :
    line ≠ c :: rest := by
  rw [splitOn_indent, List.mem_map] at hline
  obtain ⟨plain, -, rfl⟩ := hline
  unfold indentLine
  split
  · exact (List.cons_ne_nil c rest).symm
  · intro heq
    have hmargin : margin levels = ' ' :: List.replicate (2 * levels - 1) ' ' := by
      rw [margin, ← List.replicate_succ]
      congr 1
      omega
    rw [hmargin, List.cons_append] at heq
    exact hc (List.cons.inj heq).1.symm

/-- Of the lines of a static table, only the first one and the last one begin at the margin. -/
theorem splitOn_tableLiteral (table : Table) :
    ∃ inner : List Text,
      (tableLiteral table).splitOn '\n' =
          "lazy_static! \x7b".toList :: (inner ++ ["\x7d".toList]) ∧
        (∀ line ∈ inner, line ≠ "\x7d".toList) ∧
        inner.map (List.dropWhile (· == ' ')) =
          "pub static ref CPU_OPS_CODES: HashMap<u8, OpCode> = \x7b".toList ::
            "let mut map = HashMap::new();".toList ::
            (flushLines (Text.unlines
                (table.opcodes.entries.map fun entry => insertion entry.1 entry.2)) ++
              (["map", "\x7d;"] : List Text)) := by
  let body := Text.unlines ["let mut map = HashMap::new();",
    Text.unlines (table.opcodes.entries.map fun entry => insertion entry.1 entry.2), "map"]
  let inner := ([indent "pub static ref CPU_OPS_CODES: HashMap<u8, OpCode> = \x7b" 1,
    indent body 2, indent "\x7d;" 1] : List Text).flatMap (Text.splitOn '\n')
  refine ⟨inner, ?_, ?_, ?_⟩
  · unfold tableLiteral
    rw [Text.splitOn_unlines (List.cons_ne_nil _ _)]
    simp only [List.flatMap_cons, List.flatMap_nil, inner, List.append_assoc]
    rfl
  · intro line hline
    simp only [inner, List.flatMap_cons, List.flatMap_nil, List.append_nil, List.mem_append] at hline
    obtain hline | hline | hline := hline
    · exact ne_cons_of_mem_splitOn_indent (by decide) hline (by decide)
    · exact ne_cons_of_mem_splitOn_indent (by decide) hline (by decide)
    · exact ne_cons_of_mem_splitOn_indent (by decide) hline (by decide)
  · have hflush : ∀ code : Text, (code.splitOn '\n').map (List.dropWhile (· == ' ')) =
        flushLines code := fun _ => rfl
    simp only [inner, List.flatMap_cons, List.flatMap_nil, List.append_nil, List.map_append, hflush,
      flushLines_indent, body, flushLines_unlines (List.cons_ne_nil _ _), List.append_assoc]
    rfl

end RustModule

end OpcodeAtlas
