import OpcodeAtlas.Text.Basic

namespace OpcodeAtlas

/-- How the cycles of an instruction grow beyond its base count. -/
inductive CycleMode where
  | fixed
  | pageCrossPenalty
  | branchTakenPenalty
deriving DecidableEq, Repr

namespace CycleMode

def all : List CycleMode :=
  [fixed, pageCrossPenalty, branchTakenPenalty]

/-- The canonical name, as the emulator spells it. -/
def name : CycleMode → Text
  | fixed => "Fixed"
  | pageCrossPenalty => "PageCrossPenalty"
  | branchTakenPenalty => "BranchTakenPenalty"

/-- The mode with a canonical name. -/
def ofName? (text : Text) : Option CycleMode :=
  all.find? (·.name = text)

end CycleMode

end OpcodeAtlas
