import OpcodeAtlas.Proofs.Reference.Ownership
import OpcodeAtlas.Proofs.Reference.PrintedRow

namespace OpcodeAtlas.Reference

open Markup (Node Start starts found)

/-- A status table is read as what its rows were printed for. -/
theorem StatusTable.readStatusTable_eq (table : StatusTable) {start : Start}
    (hnode : start.node = table.node) (location : Location) :
    readStatusTable start location = .ok (table.statusRows.map StatusRow.flagEffect) := by
  have hrows : (start.descendants "tr").map Start.node =
      table.statusRows.map fun row => row.node := by
    rw [table.descendants_rows hnode, table.rows_items, List.map_map]
    rfl
  exact mapM_zipIdx_eq_ok_of_map_eq 1 hrows fun _ _ row hrow => row.readStatusRow_eq hrow _

/-- A variant table is read as the variants its rows were printed for, whatever its head is. -/
theorem VariantTable.readVariantTable_eq (table : VariantTable) {start : Start}
    (hnode : start.node = table.node) (mnemonic : Text) (location : Location) :
    readVariantTable start mnemonic location =
      .ok (table.variantRows.map (·.variant mnemonic)) := by
  have hrows : ((start.descendants "tr").drop 1).map Start.node =
      table.variantRows.map fun row => row.node := by
    rw [List.map_drop, table.descendants_rows hnode, table.rows_items, List.map_cons, List.drop_one,
      List.tail_cons, List.map_map]
    rfl
  refine readVariantTable_eq_ok_iff.mpr ⟨fun hnil => ?_, ?_⟩
  · rw [hnil, List.map_nil, eq_comm, List.map_eq_nil_iff] at hrows
    exact table.variantRows_ne_nil hrows
  · exact mapM_zipIdx_eq_ok_of_map_eq 1 hrows fun _ _ row hrow =>
      row.readVariantRow_eq hrow mnemonic _

theorem PrintedSection.readInstruction_eq (part : PrintedSection) {status variants : Start}
    (hstatus : status.node = part.status.node) (hvariants : variants.node = part.variants.node) :
    readInstruction (Text.trim part.name) status variants = .ok part.instruction :=
  readInstruction_eq_ok_iff.mpr ⟨part.status.readStatusTable_eq hstatus _,
    part.variants.readVariantTable_eq hvariants _ _, rfl⟩

namespace PrintedSection

variable (part : PrintedSection)

/-- In a heading, only the anchor can be found. -/
theorem found_heading {wanted : Start → Bool} (hseeks : Seeks ["table"] wanted)
    (parent? : Option Text) :
    found wanted parent? [part.heading] =
      if wanted ⟨some "h3", "a", part.anchorAttributes, part.anchorChildren⟩ then [part.anchor]
      else [] := by
  rw [heading, Markup.found_element, hseeks.eq_false (by decide) (by decide),
    if_neg Bool.false_ne_true, List.nil_append, Markup.found_append,
    part.beforeAnchor_clear.found_eq_nil hseeks, List.nil_append, Markup.found_cons,
    part.afterAnchor_clear.found_eq_nil hseeks, List.append_nil, anchor, Markup.found_element,
    part.anchorChildren_clear.found_eq_nil hseeks, List.append_nil]

/-- Behind a heading, only the two tables can be found. -/
theorem found_body {wanted : Start → Bool} (hseeks : Seeks ["table"] wanted)
    {parent? : Option Text} (hparent : parent? ≠ some ("h3" : Text)) :
    found wanted parent? part.body =
      found wanted parent? [part.status.node] ++ found wanted parent? [part.variants.node] := by
  rw [body, Markup.found_append, (part.description_clear.of_parent hparent).found_eq_nil hseeks,
    List.nil_append, Markup.found_cons part.status.node, Markup.found_append,
    (part.between_clear.of_parent hparent).found_eq_nil hseeks, List.nil_append,
    Markup.found_cons part.variants.node,
    (part.notes_clear.of_parent hparent).found_eq_nil hseeks, List.append_nil]

theorem found_anchor_heading (parent? : Option Text) :
    found isMnemonicAnchor parent? [part.heading] = [part.anchor] := by
  have hanchor : isMnemonicAnchor ⟨some "h3", "a", part.anchorAttributes, part.anchorChildren⟩ =
      true := decide_eq_true ⟨rfl, rfl⟩
  rw [part.found_heading (seeks_anchors _), if_pos hanchor]

theorem found_anchor_nodes {parent? : Option Text} (hparent : parent? ≠ some ("h3" : Text)) :
    found isMnemonicAnchor parent? part.nodes = [part.anchor] := by
  have htable : ∀ table : PrintedTable, found isMnemonicAnchor parent? [table.node] = [] := by
    intro table
    rw [table.found_node (seeks_anchors _), (seeks_anchors []).eq_false (by decide) nofun]
    exact if_neg Bool.false_ne_true
  rw [nodes, Markup.found_cons, part.found_anchor_heading,
    part.found_body (seeks_anchors _) hparent, htable, htable]
  rfl

theorem found_table_heading (parent? : Option Text) :
    found (fun start => start.tag = "table") parent? [part.heading] = [] := by
  have hanchor : ¬decide (("a" : Text) = "table") = true := by decide
  rw [part.found_heading (seeks_tag (by decide))]
  exact if_neg hanchor

theorem found_table_body {parent? : Option Text} (hparent : parent? ≠ some ("h3" : Text)) :
    found (fun start => start.tag = "table") parent? part.body =
      [part.status.node, part.variants.node] := by
  have hseeks : Seeks ["table"] fun start => start.tag = "table" := seeks_tag (by decide)
  have htable : ∀ table : PrintedTable,
      found (fun start => start.tag = "table") parent? [table.node] = [table.node] :=
    fun table => (table.found_node hseeks parent?).trans (if_pos (decide_eq_true rfl))
  rw [part.found_body hseeks hparent, htable, htable]
  rfl

theorem found_table_nodes {parent? : Option Text} (hparent : parent? ≠ some ("h3" : Text)) :
    found (fun start => start.tag = "table") parent? part.nodes =
      [part.status.node, part.variants.node] := by
  rw [nodes, Markup.found_cons, part.found_table_heading, List.nil_append,
    part.found_table_body hparent]

end PrintedSection

/-- The elements around a page put something before its nodes and behind them. No anchor of an
instruction is among it, and no table behind the nodes. -/
theorem exists_starts_around (wrappers : List Wrapper) (nodes : List Node)
    (outer? : Option Text) (houter : outer? ≠ some ("h3" : Text)) :
    ∃ parent? before after, parent? ≠ some ("h3" : Text) ∧
      starts outer? (wrappers.foldr Wrapper.around nodes) =
        before ++ starts parent? nodes ++ after ∧
      (∀ start ∈ before, isMnemonicAnchor start = false) ∧
      ∀ start ∈ after, isMnemonicAnchor start = false ∧ start.tag ≠ "table" := by
  -- From the outermost element inwards. Only a heading would make anchors of the links inside it.
  induction wrappers generalizing outer? with
  | nil => exact ⟨outer?, [], [], houter, by simp, nofun, nofun⟩
  | cons wrapper rest ih =>
    have htag : some wrapper.tag ≠ some ("h3" : Text) :=
      fun heq => wrapper.tag_ne (Option.some.inj heq)
    obtain ⟨parent?, before, after, hparent, hstarts, hbefore, hafter⟩ := ih _ htag
    have hopened : isMnemonicAnchor ⟨outer?, wrapper.tag, wrapper.attributes,
        rest.foldr Wrapper.around nodes⟩ = false :=
      decide_eq_false fun hanchor => houter hanchor.1
    refine ⟨parent?, starts outer? wrapper.before ++ ⟨outer?, wrapper.tag, wrapper.attributes,
      rest.foldr Wrapper.around nodes⟩ :: before, after ++ starts outer? wrapper.after, hparent,
      ?_, ?_, ?_⟩
    · rw [List.foldr_cons, Wrapper.around, Markup.starts_append, Markup.starts_element, hstarts]
      simp only [List.append_assoc, List.cons_append]
    · rw [List.forall_mem_append, List.forall_mem_cons]
      have hleading := wrapper.before_clear.of_parent houter
      exact ⟨fun start hstart => (hleading start hstart).1, hopened, hbefore⟩
    · rw [List.forall_mem_append]
      have htrailing := wrapper.after_clear.of_parent houter
      refine ⟨hafter, fun start hstart => ?_⟩
      obtain ⟨hanchor, htable⟩ := htrailing start hstart
      exact ⟨hanchor, fun heq => htable (List.mem_singleton.mpr heq)⟩

/-- What is dropped up to the first item that stops it has nothing in it that is kept. -/
theorem filter_dropWhile_append {α : Type} {p q : α → Bool} {before first rest : List α}
    (hbefore : ∀ item ∈ before, p item = true) (hfirst : ∃ item ∈ first, p item = false)
    (hnone : ∀ item ∈ first, q item = false) :
    ((before ++ first ++ rest).dropWhile p).filter q = rest.filter q := by
  have hstop : (first.dropWhile p).isEmpty = false := by
    obtain ⟨item, hitem, hp⟩ := hfirst
    rw [List.isEmpty_eq_false_iff, Ne, List.dropWhile_eq_nil_iff]
    intro hall
    rw [hall item hitem] at hp
    cases hp
  have hkept : (first.dropWhile p).filter q = [] := by
    rw [List.filter_eq_nil_iff]
    intro item hitem
    rw [hnone item ((List.dropWhile_subset p) hitem)]
    exact Bool.false_ne_true
  rw [List.append_assoc, List.dropWhile_append_of_pos hbefore, List.dropWhile_append, hstop,
    if_neg Bool.false_ne_true, List.filter_append, hkept, List.nil_append]

theorem pairs_flatMap {α β : Type} (first second : α → β) (items : List α) :
    pairs (items.flatMap fun item => [first item, second item]) =
      items.map fun item => (first item, second item) := by
  induction items with
  | nil => rfl
  | cons item rest ih => exact congrArg _ ih

namespace PrintedPage

variable (page : PrintedPage)

/-- The anchors of a page are those of its sections. -/
theorem anchors_nodes :
    (anchors page.nodes).map Start.node = page.sections.map PrintedSection.anchor := by
  obtain ⟨parent?, before, after, hparent, hstarts, hbefore, hafter⟩ :=
    exists_starts_around page.wrappers
      (page.leading ++ page.sections.flatMap PrintedSection.nodes) none nofun
  have hnone : ∀ {around : List Start}, (∀ start ∈ around, isMnemonicAnchor start = false) →
      around.filter isMnemonicAnchor = [] := by
    intro around haround
    rw [List.filter_eq_nil_iff]
    intro start hstart
    rw [haround start hstart]
    exact Bool.false_ne_true
  have hleading := (page.leading_clear.of_parent hparent).found_eq_nil (seeks_anchors [])
  rw [anchors, nodes, hstarts, List.filter_append, List.filter_append, hnone hbefore,
    hnone fun start hstart => (hafter start hstart).1, List.nil_append, List.append_nil]
  change found isMnemonicAnchor parent? _ = _
  rw [Markup.found_append, hleading, List.nil_append, Markup.found_flatMap, List.map_eq_flatMap]
  exact List.flatMap_congr fun part _ => part.found_anchor_nodes hparent

/-- The tables of a page, as far as they count, are those of its sections. -/
theorem tables_nodes :
    (tables page.nodes).map Start.node =
      page.sections.flatMap fun part => [part.status.node, part.variants.node] := by
  obtain ⟨parent?, before, after, hparent, hstarts, hbefore, hafter⟩ :=
    exists_starts_around page.wrappers
      (page.leading ++ page.sections.flatMap PrintedSection.nodes) none nofun
  obtain ⟨first, rest, hsections⟩ := List.exists_cons_of_ne_nil page.sections_ne_nil
  -- The tables begin to count inside the first heading, and none of them is inside it.
  have hpage : starts none page.nodes =
      (before ++ starts parent? page.leading) ++ starts parent? [first.heading] ++
        (starts parent? (first.body ++ rest.flatMap PrintedSection.nodes) ++ after) := by
    rw [nodes, hstarts, hsections, List.flatMap_cons, PrintedSection.nodes, List.cons_append,
      Markup.starts_append, Markup.starts_cons _ first.heading]
    simp only [List.append_assoc]
  have hleading : ∀ start ∈ before ++ starts parent? page.leading,
      (!isMnemonicAnchor start) = true := by
    have hclear := page.leading_clear.of_parent hparent
    rw [List.forall_mem_append]
    refine ⟨fun start hstart => ?_, fun start hstart => ?_⟩
    · rw [hbefore start hstart, Bool.not_false]
    · rw [(hclear start hstart).1, Bool.not_false]
  have hanchor : ∃ start ∈ starts parent? [first.heading], (!isMnemonicAnchor start) = false := by
    have hmem : first.anchor ∈ found isMnemonicAnchor parent? [first.heading] := by
      rw [first.found_anchor_heading]
      exact List.mem_singleton_self _
    obtain ⟨start, hfound, -⟩ := List.mem_map.mp hmem
    obtain ⟨hstart, hwanted⟩ := List.mem_filter.mp hfound
    exact ⟨start, hstart, by rw [hwanted, Bool.not_true]⟩
  have hheading : ∀ start ∈ starts parent? [first.heading],
      decide (start.tag = "table") = false :=
    Markup.found_eq_nil_iff.mp (first.found_table_heading parent?)
  have htrailing : after.filter (·.tag = ("table" : Text)) = [] := by
    rw [List.filter_eq_nil_iff]
    intro start hstart
    rw [decide_eq_true_eq]
    exact (hafter start hstart).2
  rw [tables, hpage, filter_dropWhile_append hleading hanchor hheading, List.filter_append,
    htrailing, List.append_nil]
  change found (fun start => start.tag = "table") parent? _ = _
  rw [Markup.found_append, first.found_table_body hparent, Markup.found_flatMap, hsections,
    List.flatMap_cons]
  exact congrArg _ (List.flatMap_congr fun part _ => part.found_table_nodes hparent)

/-- The mnemonics of a page are the names of its sections. -/
theorem mnemonics_nodes :
    mnemonics page.nodes = .ok (page.sections.map fun part => Text.trim part.name) := by
  refine mapM_zipIdx_eq_ok_of_map_eq 1 page.anchors_nodes fun anchor position part hnode => ?_
  obtain ⟨-, hattributes, -⟩ := Node.element.inj hnode
  have hname : (anchor.attribute? "name").getD [] = part.name := by
    rw [Start.attribute?, hattributes, part.anchor_named, Option.getD_some]
  refine anchorName_eq_ok_iff.mpr ⟨?_, by rw [hname]⟩
  rw [hname, Ne, Text.trim_eq_nil_iff, part.name_not_blank]
  exact Bool.false_ne_true

end PrintedPage

/-- What is built is read back: an instruction for each section, in the order of the sections. -/
theorem extract_built (page : PrintedPage) :
    (extract page.nodes).outcome = .ok page.source := by
  have htables := page.tables_nodes
  have hcount : (tables page.nodes).length =
      2 * (page.sections.map fun part => Text.trim part.name).length := by
    rw [← List.length_map (f := Start.node), htables]
    simp [Nat.mul_comm]
  have hpairs : (pairs (tables page.nodes)).map (Prod.map Start.node Start.node) =
      page.sections.map fun part => (part.status.node, part.variants.node) := by
    rw [map_pairs, htables, pairs_flatMap]
  have howned : ((page.sections.map fun part => Text.trim part.name).zip
        (pairs (tables page.nodes))).map (Prod.map id (Prod.map Start.node Start.node)) =
      page.sections.map fun part =>
        (Text.trim part.name, part.status.node, part.variants.node) := by
    rw [← List.zip_map, List.map_id, hpairs, List.zip_map']
  have hinstructions : ((page.sections.map fun part => Text.trim part.name).zip
        (pairs (tables page.nodes))).mapM (fun entry =>
          readInstruction entry.1 entry.2.1 entry.2.2) =
      .ok (page.sections.map PrintedSection.instruction) := by
    refine mapM_eq_ok_of_map_eq howned ?_
    rintro ⟨mnemonic, status, variants⟩ part halike
    obtain ⟨hname, hnodes⟩ := Prod.mk.inj halike
    obtain ⟨hstatus, hvariants⟩ := Prod.mk.inj hnodes
    obtain rfl : mnemonic = Text.trim part.name := hname
    exact part.readInstruction_eq hstatus hvariants
  refine extract_eq_ok_iff.mpr ⟨_, _, page.mnemonics_nodes, ?_, hcount, hinstructions, ?_⟩
  · exact fun hnil => page.sections_ne_nil (List.map_eq_nil_iff.mp hnil)
  · rw [PrintedPage.source, List.flatMap_map]

example : (default : PrintedPage).source.variants = [{
    opcode := 0xEA, mnemonic := "NOP", size := 1, cycles := 1, cycleMode := .fixed
    mode := .implied }] := by
  decide

end OpcodeAtlas.Reference
