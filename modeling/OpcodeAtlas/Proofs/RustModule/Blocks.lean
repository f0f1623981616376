import OpcodeAtlas.Proofs.RustModule.Layout
import Mathlib.Algebra.GroupWithZero.Nat

namespace OpcodeAtlas.RustModule

/-! Code that is laid out block by block. -/

/-- Plain code, one block above another one, or a block that is moved to the right. -/
inductive Block
  | plain (code : Text)
  | above (upper lower : Block)
  | moved (levels : Nat) (block : Block)

/-- Plain code and the levels of the blocks that it lies in, from the outermost one. -/
structure Piece where
  levels : List Nat
  code : Text

namespace Block

/-- The text of a block. What is moved can have margins already, from the blocks in it. -/
def text : Block → Text
  | plain code => code
  | above upper lower => upper.text ++ '\n' :: lower.text
  | moved levels block => indent block.text levels

/-- The plain code of a block, from the top. -/
def pieces : Block → List Piece
  | plain code => [⟨[], code⟩]
  | above upper lower => upper.pieces ++ lower.pieces
  | moved levels block => block.pieces.map fun piece => ⟨levels :: piece.levels, piece.code⟩

/-- Blocks one below the other. -/
def stack : List Block → Block
  | [] => plain []
  | [block] => block
  | block :: rest => above block (stack rest)

theorem pieces_ne_nil (block : Block) : block.pieces ≠ [] := by
  induction block with
  | plain code => exact List.cons_ne_nil _ _
  | above upper lower ih _ => exact List.append_ne_nil_of_left_ne_nil ih _
  | moved levels block ih => simpa [pieces] using ih

/-- A piece of code is moved once for all the blocks that it lies in. -/
theorem text_eq_unlines (block : Block) :
    block.text =
      Text.unlines (block.pieces.map fun piece => indent piece.code piece.levels.sum) := by
  induction block with
  | plain code => simp [text, pieces, Text.unlines, Text.join_singleton, indent_zero]
  | above upper lower ihupper ihlower =>
    -- Both blocks have pieces, so their pieces are joined with the line feed that stands between them.
    have hupper : (upper.pieces.map fun piece => indent piece.code piece.levels.sum) ≠ [] := by
      simpa using pieces_ne_nil upper
    have hlower : (lower.pieces.map fun piece => indent piece.code piece.levels.sum) ≠ [] := by
      simpa using pieces_ne_nil lower
    rw [text, pieces, List.map_append, Text.unlines_append hupper hlower, ← ihupper, ← ihlower]
  | moved levels block ih =>
    rw [text, ih, indent_unlines, pieces, List.map_map, List.map_map]
    refine congrArg Text.unlines (List.map_congr_left fun piece _ => ?_)
    calc indent (indent piece.code piece.levels.sum) levels
        = indent piece.code (piece.levels.sum + levels) := indent_indent _ _ _
      _ = indent piece.code (levels :: piece.levels).sum := by rw [List.sum_cons, Nat.add_comm]

theorem text_stack (blocks : List Block) : (stack blocks).text = Text.unlines (blocks.map text) := by
  fun_induction stack blocks with
  | case1 => rfl
  | case2 block => rw [List.map_singleton, Text.unlines, Text.join_singleton]
  | case3 block rest hrest ih =>
    have hne : rest.map text ≠ [] := by simpa using hrest
    rw [text, ih, List.map_cons, Text.unlines_cons_of_ne_nil _ hne]

end Block

/-- The static table, whose insertions lie two levels deep. -/
def tableBlock (table : Table) : Block :=
  let insertions := table.opcodes.entries.map fun entry => Block.plain (insertion entry.1 entry.2)
  .stack [
    .plain "lazy_static! \x7b",
    .moved 1 (.plain "pub static ref CPU_OPS_CODES: HashMap<u8, OpCode> = \x7b"),
    .moved 2 (.stack [
      .plain "let mut map = HashMap::new();",
      .stack insertions,
      .plain "map"]),
    .moved 1 (.plain "\x7d;"),
    .plain "\x7d"]

def armBlock (mnemonic : Text) : Block :=
  .stack [
    .plain ("\"" ++ mnemonic ++ "\" => \x7b"),
    .moved 1 (.plain ("cpu." ++ Text.toLower mnemonic ++ "(&op.addressing_mode);")),
    .moved 1 (.plain "cpu.program_counter += op.bytes - 1"),
    .plain "\x7d"]

/-- The function that dispatches. The arms lie in its match, an empty line below each of them. -/
def dispatchBlock (table : Table) : Block :=
  let arms := table.registry.flatMap fun name => [armBlock name, .plain []]
  .stack [
    .plain "pub fn call(cpu: &mut CPU, op: &OpCode) \x7b",
    .moved 1 (.plain ("match op.name.trim_start_matches('" ++ [Variant.unofficialMark] ++ "') \x7b")),
    .moved 2 (.stack (arms ++ [.plain fallbackArm])),
    .moved 1 (.plain "\x7d"),
    .plain "\x7d"]

def moduleBlock (table : Table) : Block :=
  .stack [
    .plain header,
    .plain useDeclarations,
    tableBlock table,
    .plain [],
    dispatchBlock table,
    .plain []]

theorem text_tableBlock (table : Table) : (tableBlock table).text = tableLiteral table := by
  simp only [tableBlock, Block.text_stack, List.map_cons, List.map_nil, Block.text, List.map_map,
    Function.comp_def]
  rfl

theorem text_armBlock (mnemonic : Text) : (armBlock mnemonic).text = dispatchArm mnemonic := by
  rw [armBlock, Block.text_stack]
  rfl

theorem text_dispatchBlock (table : Table) : (dispatchBlock table).text = dispatch table := by
  have harms : (table.registry.flatMap fun name => [armBlock name, .plain []]).map Block.text =
      (table.registry.map dispatchArm).flatMap fun arm => [arm, []] := by
    simp only [List.map_flatMap, List.flatMap_map, List.map_cons, List.map_nil, text_armBlock,
      Block.text]
  simp only [dispatchBlock, Block.text_stack, List.map_cons, List.map_nil, List.map_append,
    Block.text, harms, ← Text.join_empty_line]
  rfl

/-- A module is the text of its blocks. -/
theorem render_eq_moduleBlock (table : Table) :
    render table = (checkDispatch table).map fun _ => (moduleBlock table).text := by
  simp only [moduleBlock, Block.text_stack, List.map_cons, List.map_nil, text_tableBlock,
    text_dispatchBlock, Block.text]
  rfl

/-- Margins add up. A code that is moved twice is moved by the levels of both moves, and by no level it
is left as it is. Its lines stay apart; an empty line stays empty, any other one gets two spaces a
level in front and is not changed otherwise. Codes one below the other are moved one by one. So the
text of a block, whatever it is made of, is its plain code with every piece moved by the sum of the
levels around it; and a module is the text of its blocks. -/
theorem margins_add_up (code upper lower : Text) (a b : Nat) (block : Block) (table : Table) :
    indent (indent code a) b = indent code (a + b) ∧
      indent code 0 = code ∧
      ((indent code a).splitOn '\n').length = (code.splitOn '\n').length ∧
      ((indent code a).splitOn '\n' = (code.splitOn '\n').map fun line =>
        if line = [] then [] else List.replicate (2 * a) ' ' ++ line) ∧
      indent (upper ++ '\n' :: lower) a = indent upper a ++ '\n' :: indent lower a ∧
      block.text =
        Text.unlines (block.pieces.map fun piece => indent piece.code piece.levels.sum) ∧
      render table = (checkDispatch table).map fun _ => (moduleBlock table).text := by
  have hlines := splitOn_indent code a
  refine ⟨indent_indent code a b, indent_zero code, ?_, ?_, indent_append_newline upper lower a,
    block.text_eq_unlines, render_eq_moduleBlock table⟩
  · rw [hlines, List.length_map]
  · rw [hlines]
    exact List.map_congr_left fun line _ => indentLine_eq a line

/-- An empty line stays empty in every block around it. -/
example : (Block.moved 2 (.above (.plain "a") (.moved 1 (.plain "b\n\nc")))).text =
    "    a\n      b\n\n      c" := rfl

end OpcodeAtlas.RustModule
