namespace OpcodeAtlas

/-- A text is the list of its characters. The rules of the library read it from its front, so
    their laws go by induction on it. -/
abbrev Text := List Char

instance : Coe String Text := ⟨String.toList⟩

namespace Text

/-- The pieces between the separators. There is one more piece than there are separators, so the
    empty text has one piece, itself. -/
def splitOn (separator : Char) : Text → List Text
  | [] => [[]]
  | c :: rest =>
    if c = separator then [] :: splitOn separator rest
    else (splitOn separator rest).modifyHead (c :: ·)

/-- The pieces with the separator between each two of them. -/
def join (separator : Text) (pieces : List Text) : Text :=
  separator.intercalate pieces

/-- The pieces, one a line. -/
def unlines (lines : List Text) : Text :=
  join ['\n'] lines

/-- The pattern occurs somewhere in the text. -/
def occursIn (pattern : Text) : Text → Bool
  | [] => pattern.isEmpty
  | c :: rest => pattern.isPrefixOf (c :: rest) || occursIn pattern rest

/-- The text before the first separator and the text after it; without a separator the second
    part is empty. -/
def cutAt (separator : Char) (text : Text) : Text × Text :=
  (text.takeWhile (· != separator), (text.dropWhile (· != separator)).drop 1)

/-- The order of texts by the codes of their characters, as in a dictionary. -/
def precedes : Text → Text → Bool
  | [], _ => true
  | _ :: _, [] => false
  | c :: rest, d :: more => if c = d then precedes rest more else decide (c.toNat < d.toNat)

/-- The number of bytes of a text in its usual encoding. -/
def byteLength : Text → Nat
  | [] => 0
  | c :: rest => c.utf8Size + byteLength rest

def padRight (width : Nat) (text : Text) : Text :=
  text ++ List.replicate (width - text.length) ' '

def padLeft (fill : Char) (width : Nat) (text : Text) : Text :=
  List.replicate (width - text.length) fill ++ text

/-- The list in runs of the given positive length; only the last run may be shorter. -/
def chunks {α : Type} (size : Nat) : List α → List (List α)
  | [] => []
  | item :: rest => (item :: rest.take (size - 1)) :: chunks size (rest.drop (size - 1))
termination_by items => items.length
decreasing_by
  simp only [List.length_drop, List.length_cons]
  omega

end Text

/-- A set of code points, as the first and last of each of its runs. -/
abbrev CodeRanges := List (Nat × Nat)

namespace CodeRanges

def contains (ranges : CodeRanges) (c : Char) : Bool :=
  ranges.any fun run => decide (run.1 ≤ c.toNat ∧ c.toNat ≤ run.2)

end CodeRanges

end OpcodeAtlas
