import OpcodeAtlas.Variant

namespace OpcodeAtlas

/-- An instruction of the reference page: what it does to the flags, and its variants. -/
structure Instruction where
  mnemonic : Text
  /-- Pairs of a flag and the effect on it. -/
  flagEffects : List (Text × Text)
  variants : List Variant
deriving DecidableEq, Repr

/-- What was extracted from one document. -/
structure Source where
  name : Text
  /-- Mnemonics in the order in which the document introduces them. -/
  mnemonics : List Text
  variants : List Variant
  /-- Detail by instruction, where the document gives it. -/
  instructions : List Instruction := []
deriving DecidableEq, Repr

namespace Source

/-- Every mnemonic of the source: those it lists, then those its variants carry. -/
def discovered (source : Source) : List Text :=
  source.mnemonics ++ source.variants.map Variant.mnemonic

end Source

end OpcodeAtlas
