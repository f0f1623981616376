import OpcodeAtlas.Markup.Node
import Mathlib.Data.List.Basic

namespace OpcodeAtlas.Markup

/-- The element that starts here, whatever is around it. -/
def Start.node (start : Start) : Node :=
  .element start.tag start.attributes start.children

/-- The elements among nodes that a search wants, in the order of the page. -/
def found (wanted : Start → Bool) (parent? : Option Text) (nodes : List Node) : List Node :=
  ((starts parent? nodes).filter wanted).map Start.node

theorem starts_append (parent? : Option Text) (nodes more : List Node) :
    starts parent? (nodes ++ more) = starts parent? nodes ++ starts parent? more := by
  induction nodes with
  | nil => rfl
  | cons node rest ih => rw [List.cons_append, starts, starts, ih, List.append_assoc]

theorem starts_cons (parent? : Option Text) (node : Node) (rest : List Node) :
    starts parent? (node :: rest) = starts parent? [node] ++ starts parent? rest :=
  starts_append parent? [node] rest

theorem starts_element (parent? : Option Text) (tag : Text) (attributes : List (Text × Text))
    (children rest : List Node) :
    starts parent? (.element tag attributes children :: rest) =
      ⟨parent?, tag, attributes, children⟩ :: starts (some tag) children ++
        starts parent? rest := by
  rw [starts, Node.starts]

variable {wanted : Start → Bool} {parent? : Option Text}

theorem found_eq_nil_iff {nodes : List Node} :
    found wanted parent? nodes = [] ↔ ∀ start ∈ starts parent? nodes, wanted start = false := by
  simp only [found, List.map_eq_nil_iff, List.filter_eq_nil_iff, Bool.not_eq_true]

theorem found_append (nodes more : List Node) :
    found wanted parent? (nodes ++ more) =
      found wanted parent? nodes ++ found wanted parent? more := by
  rw [found, starts_append, List.filter_append, List.map_append, found, found]

theorem found_cons (node : Node) (rest : List Node) :
    found wanted parent? (node :: rest) =
      found wanted parent? [node] ++ found wanted parent? rest :=
  found_append [node] rest

theorem found_flatMap {α : Type} (print : α → List Node) (items : List α) :
    found wanted parent? (items.flatMap print) =
      items.flatMap fun item => found wanted parent? (print item) := by
  induction items with
  | nil => rfl
  | cons item rest ih => rw [List.flatMap_cons, found_append, ih, List.flatMap_cons]

/-- An element is found before what is inside it. -/
theorem found_element (tag : Text) (attributes : List (Text × Text)) (children : List Node) :
    found wanted parent? [.element tag attributes children] =
      (if wanted ⟨parent?, tag, attributes, children⟩ then [.element tag attributes children]
        else []) ++ found wanted (some tag) children := by
  rw [found, starts_element, starts, List.append_nil, List.filter_cons]
  split <;> rfl

end OpcodeAtlas.Markup
