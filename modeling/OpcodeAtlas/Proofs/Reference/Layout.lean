import OpcodeAtlas.Proofs.Markup.Found
import OpcodeAtlas.Reference.Extract

namespace OpcodeAtlas.Reference

open Markup (Node Start starts found)

/-- Nodes hold neither the anchor of an instruction nor an element of certain tags. -/
def Clear (tags : List Text) (parent? : Option Text) (nodes : List Node) : Prop :=
  ∀ start ∈ starts parent? nodes, isMnemonicAnchor start = false ∧ start.tag ∉ tags

instance (tags : List Text) (parent? : Option Text) (nodes : List Node) :
    Decidable (Clear tags parent? nodes) :=
  inferInstanceAs (Decidable (∀ start ∈ _, _))

/-- A search wants nothing but anchors of instructions and elements of certain tags. -/
def Seeks (tags : List Text) (wanted : Start → Bool) : Prop :=
  ∀ start, wanted start = true → isMnemonicAnchor start = true ∨ start.tag ∈ tags

theorem seeks_anchors (tags : List Text) : Seeks tags isMnemonicAnchor :=
  fun _ hanchor => Or.inl hanchor

theorem seeks_tag {tags : List Text} {tag : Text} (hmem : tag ∈ tags) :
    Seeks tags (fun start => start.tag = tag) := by
  intro start htag
  rw [decide_eq_true_eq] at htag
  exact Or.inr (htag ▸ hmem)

/-- A search finds nothing among nodes that are clear of all it wants. -/
theorem Clear.found_eq_nil {tags : List Text} {parent? : Option Text} {nodes : List Node}
    (hclear : Clear tags parent? nodes) {wanted : Start → Bool} (hseeks : Seeks tags wanted) :
    found wanted parent? nodes = [] := by
  rw [Markup.found_eq_nil_iff]
  intro start hstart
  obtain ⟨hanchor, htag⟩ := hclear start hstart
  rw [← Bool.not_eq_true]
  intro hwanted
  obtain hfound | hmem := hseeks start hwanted
  · rw [hanchor] at hfound
    cases hfound
  · exact htag hmem

namespace Seeks

variable {tags more : List Text} {wanted : Start → Bool}

theorem mono (hseeks : Seeks tags wanted) (hsubset : tags ⊆ more) : Seeks more wanted :=
  fun start hwanted => (hseeks start hwanted).imp_right fun hmem => hsubset hmem

/-- An element of another tag is not wanted. -/
theorem eq_false (hseeks : Seeks tags wanted) {tag : Text} (hanchor : tag ≠ "a")
    (htag : tag ∉ tags) (parent? : Option Text) (attributes : List (Text × Text))
    (children : List Node) : wanted ⟨parent?, tag, attributes, children⟩ = false := by
  rw [← Bool.not_eq_true]
  intro hwanted
  obtain hfound | hmem := hseeks _ hwanted
  · rw [isMnemonicAnchor, decide_eq_true_eq] at hfound
    exact hanchor hfound.2
  · exact htag hmem

end Seeks

/-- What is around nodes matters to them only if it is a heading. -/
theorem Clear.of_parent {tags : List Text} {parent? : Option Text} {nodes : List Node}
    (hclear : Clear tags none nodes) (hparent : parent? ≠ some ("h3" : Text)) :
    Clear tags parent? nodes := by
  induction nodes with
  | nil => nofun
  | cons node rest ih =>
    have hrest : Clear tags none rest := fun start hstart =>
      hclear start (List.mem_append_right _ hstart)
    intro start hstart
    rw [starts, List.mem_append] at hstart
    obtain hnode | hstart := hstart
    · cases node with
      | text content => cases hnode
      | aside content => cases hnode
      | element tag attributes children =>
        rw [Node.starts, List.mem_cons] at hnode
        obtain rfl | hinner := hnode
        · have htop := hclear ⟨none, tag, attributes, children⟩ List.mem_cons_self
          refine ⟨?_, htop.2⟩
          rw [isMnemonicAnchor, decide_eq_false_iff_not]
          exact fun hanchor => hparent hanchor.1
        · exact hclear start (List.mem_append_left _ (List.mem_cons_of_mem _ hinner))
    · exact ih hrest start hstart

/-- Items of one kind among other nodes, some of them inside of further elements. -/
inductive Layout (α : Type) where
  | done
  | filler (node : Node) (rest : Layout α)
  | item (value : α) (rest : Layout α)
  | group (tag : Text) (attributes : List (Text × Text)) (inner rest : Layout α)

namespace Layout

variable {α : Type}

def items : Layout α → List α
  | done => []
  | filler _ rest => rest.items
  | item value rest => value :: rest.items
  | group _ _ inner rest => inner.items ++ rest.items

def nodes (print : α → Node) : Layout α → List Node
  | done => []
  | filler node rest => node :: rest.nodes print
  | item value rest => print value :: rest.nodes print
  | group tag attributes inner rest =>
    .element tag attributes (inner.nodes print) :: rest.nodes print

/-- What stands around the items is clear of anchors and of certain tags. -/
def Plain (tags : List Text) (parent? : Option Text) : Layout α → Prop
  | done => True
  | filler node rest => Clear tags parent? [node] ∧ rest.Plain tags parent?
  | item _ rest => rest.Plain tags parent?
  | group tag attributes inner rest =>
    isMnemonicAnchor ⟨parent?, tag, attributes, []⟩ = false ∧ tag ∉ tags ∧
      inner.Plain tags (some tag) ∧ rest.Plain tags parent?

/-- A search finds in a layout what it finds in its items. -/
theorem found_nodes {tags : List Text} {wanted : Start → Bool} (hseeks : Seeks tags wanted)
    {print : α → Node} {finds : α → List Node} {layout : Layout α} {parent? : Option Text}
    (hplain : layout.Plain tags parent?)
    (hitems : ∀ value parent?, found wanted parent? [print value] = finds value) :
    found wanted parent? (layout.nodes print) = layout.items.flatMap finds := by
  induction layout generalizing parent? with
  | done => rfl
  | filler node rest ih =>
    obtain ⟨hnode, hrest⟩ := hplain
    rw [nodes, Markup.found_cons, hnode.found_eq_nil hseeks, List.nil_append, ih hrest, items]
  | item value rest ih =>
    rw [nodes, Markup.found_cons, hitems, ih hplain, items, List.flatMap_cons]
  | group tag attributes inner rest ihInner ihRest =>
    obtain ⟨hanchor, htag, hinner, hrest⟩ := hplain
    have hwanted : ¬wanted ⟨parent?, tag, attributes, inner.nodes print⟩ = true := by
      intro hwanted
      obtain hfound | hmem := hseeks _ hwanted
      · exact absurd hfound (Bool.eq_false_iff.mp hanchor)
      · exact htag hmem
    rw [nodes, Markup.found_cons, Markup.found_element, if_neg hwanted, List.nil_append,
      ihInner hinner, ihRest hrest, items, List.flatMap_append]

/-- A search for the items finds just them. -/
theorem found_nodes_eq_map {tags : List Text} {wanted : Start → Bool} (hseeks : Seeks tags wanted)
    {print : α → Node} {layout : Layout α} {parent? : Option Text}
    (hplain : layout.Plain tags parent?)
    (hitems : ∀ value parent?, found wanted parent? [print value] = [print value]) :
    found wanted parent? (layout.nodes print) = layout.items.map print := by
  rw [found_nodes hseeks hplain hitems, List.map_eq_flatMap]

/-- A search that finds nothing in the items finds nothing in a layout of them. -/
theorem found_nodes_eq_nil {tags : List Text} {wanted : Start → Bool} (hseeks : Seeks tags wanted)
    {print : α → Node} {layout : Layout α} {parent? : Option Text}
    (hplain : layout.Plain tags parent?)
    (hitems : ∀ value parent?, found wanted parent? [print value] = []) :
    found wanted parent? (layout.nodes print) = [] := by
  rw [found_nodes hseeks hplain hitems, List.flatMap_eq_nil_iff]
  exact fun _ _ => rfl

end Layout

end OpcodeAtlas.Reference
