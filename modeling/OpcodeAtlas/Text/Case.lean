import OpcodeAtlas.Text.CaseTable

namespace OpcodeAtlas

/-- The image of one character under a case table. A code point outside every run is its own
    image. -/
def mapCase (runs : List CaseRun) (expansions : List (Nat × List Nat)) (c : Char) : List Char :=
  match expansions.find? (·.1 = c.toNat) with
  | some (_, image) => image.map Char.ofNat
  | none =>
    match runs.findSome? (·.image? c.toNat) with
    | some code => [Char.ofNat code]
    | none => [c]

def upperChar (c : Char) : List Char :=
  if c.toNat < 128 then [c.toUpper] else mapCase upperRuns upperExpansions c

def lowerChar (c : Char) : List Char :=
  if c.toNat < 128 then [c.toLower] else mapCase lowerRuns lowerExpansions c

/-- The nearest character that is not passed over has a case. -/
def nextIsCased (neighbours : List Char) : Bool :=
  (neighbours.dropWhile caseIgnorableRanges.contains).head?.any casedRanges.contains

namespace Text

def toUpper (text : List Char) : List Char :=
  text.flatMap upperChar

/-- Lower case from a position on, given the characters before it, nearest first. A capital sigma
    that ends a word of more than one letter becomes the final form of the small one. -/
def lowerAfter (before : List Char) : List Char → List Char
  | [] => []
  | c :: rest =>
    let image :=
      if c = 'Σ' then if nextIsCased before && !nextIsCased rest then ['ς'] else ['σ']
      else lowerChar c
    image ++ lowerAfter (c :: before) rest

def toLower (text : List Char) : List Char :=
  lowerAfter [] text

end Text

end OpcodeAtlas
