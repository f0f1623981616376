import OpcodeAtlas.Markup.CharacterReference

namespace OpcodeAtlas.Markup

/-- The pieces that the source of a page is made of. -/
inductive Token where
  | text (content : Text)
  | comment (content : Text)
  | startTag (tag : Text) (attributes : List (Text × Text))
  | endTag (tag : Text)
  /-- A whole element whose content holds no tags. -/
  | leaf (tag : Text) (attributes : List (Text × Text)) (content : Text)

/-- Tokens read off the front of a source and the number of characters that they take up. -/
structure Scan where
  tokens : List Token
  length : Nat

def isTagBlank (c : Char) : Bool :=
  c == ' ' || c == '\t' || c == '\n' || c == '\x0C'

def asciiLower (text : Text) : Text :=
  text.map Char.toLower

/-- Where the reading of the attributes of a tag stands. -/
inductive AttributeState where
  | between
  | inName (name : Text)
  | afterName (name : Text)
  | beforeValue (name : Text)
  | inQuotes (quote : Char) (name value : Text)
  | inValue (name value : Text)

/-- An attribute from the reverse of its name and of its value. -/
def attributeOf (name value : Text) : Text × Text :=
  (asciiLower name.reverse, resolve true value.reverse)

/-- Reads attributes up to the end of the tag and gives them with the number of characters read.
    A tag that does not end has none. Of two attributes of one name the first comes first. -/
def readAttributes (found : List (Text × Text)) (length : Nat) :
    AttributeState → Text → Option (List (Text × Text) × Nat)
  | _, [] => none
  | .between, c :: rest =>
    if c = '>' then some (found.reverse, length + 1)
    else if isTagBlank c || c == '/' then readAttributes found (length + 1) .between rest
    else readAttributes found (length + 1) (.inName [c]) rest
  | .inName name, c :: rest =>
    if c = '>' then some ((attributeOf name [] :: found).reverse, length + 1)
    else if c = '/' then readAttributes (attributeOf name [] :: found) (length + 1) .between rest
    else if c = '=' then readAttributes found (length + 1) (.beforeValue name) rest
    else if isTagBlank c then readAttributes found (length + 1) (.afterName name) rest
    else readAttributes found (length + 1) (.inName (c :: name)) rest
  | .afterName name, c :: rest =>
    if c = '>' then some ((attributeOf name [] :: found).reverse, length + 1)
    else if c = '/' then readAttributes (attributeOf name [] :: found) (length + 1) .between rest
    else if c = '=' then readAttributes found (length + 1) (.beforeValue name) rest
    else if isTagBlank c then readAttributes found (length + 1) (.afterName name) rest
    else readAttributes (attributeOf name [] :: found) (length + 1) (.inName [c]) rest
  | .beforeValue name, c :: rest =>
    if c = '>' then some ((attributeOf name [] :: found).reverse, length + 1)
    else if isTagBlank c then readAttributes found (length + 1) (.beforeValue name) rest
    else if c = '"' ∨ c = '\'' then readAttributes found (length + 1) (.inQuotes c name []) rest
    else readAttributes found (length + 1) (.inValue name [c]) rest
  | .inQuotes quote name value, c :: rest =>
    if c = quote then readAttributes (attributeOf name value :: found) (length + 1) .between rest
    else readAttributes found (length + 1) (.inQuotes quote name (c :: value)) rest
  | .inValue name value, c :: rest =>
    if c = '>' then some ((attributeOf name value :: found).reverse, length + 1)
    else if isTagBlank c then
      readAttributes (attributeOf name value :: found) (length + 1) .between rest
    else readAttributes found (length + 1) (.inValue name (c :: value)) rest

/-- The number of characters of a comment and of the mark that ends it, behind the mark that
    opens it. -/
def commentLength : Text → Nat × Nat
  | [] => (0, 0)
  | '-' :: '-' :: '>' :: _ => (0, 3)
  | '-' :: '-' :: '!' :: '>' :: _ => (0, 4)
  | _ :: rest => ((commentLength rest).1 + 1, (commentLength rest).2)

/-- A comment, read behind the mark that opens it. -/
def scanComment : Text → Scan
  | '>' :: _ => ⟨[.comment []], 1⟩
  | '-' :: '>' :: _ => ⟨[.comment []], 2⟩
  | rest =>
    let (content, mark) := commentLength rest
    ⟨[.comment (rest.take content)], content + mark⟩

/-- A declaration or instruction, which counts as a comment that the next angle bracket ends. -/
def scanDeclaration (rest : Text) : Scan :=
  let content := rest.takeWhile (· != '>')
  ⟨[.comment content], min rest.length (content.length + 1)⟩

/-- Elements whose content is text up to their own end tag. -/
def rawTags : List Text :=
  ["script", "style", "xmp", "iframe", "noembed", "noframes", "title", "textarea"]

/-- Those among them in whose content character references are resolved. -/
def resolvingTags : List Text :=
  ["title", "textarea"]

/-- The rest begins with the end tag of the given element. -/
def endsElement (tag : Text) (rest : Text) : Bool :=
  match rest with
  | '<' :: '/' :: rest =>
    asciiLower (rest.take tag.length) == tag &&
      (rest.drop tag.length).head?.any fun c => isTagBlank c || c == '/' || c == '>'
  | _ => false

/-- The number of characters before the end tag of the given element. -/
def rawLength (tag : Text) : Text → Nat
  | [] => 0
  | c :: rest => if endsElement tag (c :: rest) then 0 else rawLength tag rest + 1

/-- The content of an element without tags and its end tag. -/
def scanRaw (tag : Text) (attributes : List (Text × Text)) (rest : Text) : Scan :=
  let content := rest.take (rawLength tag rest)
  let behind := rest.drop (content.length + 2 + tag.length)
  let closing := match readAttributes [] 0 .between behind with
    | some (_, length) => content.length + 2 + tag.length + length
    | none => rest.length
  let content := if resolvingTags.contains tag then resolve false content else content
  ⟨[.leaf tag attributes content], closing⟩

def tagName (rest : Text) : Text :=
  rest.takeWhile fun c => !(isTagBlank c || c == '/' || c == '>')

/-- A start tag, read behind its angle bracket. A tag that does not end is dropped. -/
def scanStartTag (rest : Text) : Scan :=
  let name := tagName rest
  let tag := asciiLower name
  match readAttributes [] name.length .between (rest.drop name.length) with
  | none => ⟨[], rest.length⟩
  | some (attributes, length) =>
    if tag = "plaintext" then ⟨[.leaf tag attributes (rest.drop length)], rest.length⟩
    else if rawTags.contains tag then
      let content := scanRaw tag attributes (rest.drop length)
      ⟨content.tokens, length + content.length⟩
    else ⟨[.startTag tag attributes], length⟩

/-- An end tag, read behind its angle bracket and slash. -/
def scanEndTag (rest : Text) : Scan :=
  let name := tagName rest
  match readAttributes [] name.length .between (rest.drop name.length) with
  | none => ⟨[], rest.length⟩
  | some (_, length) => ⟨[.endTag (asciiLower name)], length⟩

def Scan.after (skipped : Nat) (scan : Scan) : Scan :=
  ⟨scan.tokens, skipped + scan.length⟩

/-- What an angle bracket begins, read behind it. One that begins no tag stands for itself. -/
def scanMarkup (rest : Text) : Scan :=
  match rest with
  | '!' :: '-' :: '-' :: inner => (scanComment inner).after 3
  | '!' :: inner => (scanDeclaration inner).after 1
  | '?' :: _ => scanDeclaration rest
  | '/' :: '>' :: _ => ⟨[], 2⟩
  | '/' :: c :: inner =>
    if c.isAlpha then (scanEndTag (c :: inner)).after 1 else (scanDeclaration (c :: inner)).after 1
  | c :: _ => if c.isAlpha then scanStartTag rest else ⟨[.text "<"], 0⟩
  | [] => ⟨[.text "<"], 0⟩

/-- The tokens of a source, after skipping some characters that are already read. -/
def tokensAfter : Nat → Text → List Token
  | _, [] => []
  | skip + 1, _ :: rest => tokensAfter skip rest
  | 0, c :: rest =>
    if c = '<' then
      let scan := scanMarkup rest
      scan.tokens ++ tokensAfter scan.length rest
    else
      let more := rest.takeWhile (· != '<')
      .text (resolve false (c :: more)) :: tokensAfter more.length rest

/-- Texts that follow each other become one. -/
def joinTexts : List Token → List Token
  | [] => []
  | .text content :: rest =>
    match joinTexts rest with
    | .text more :: rest => .text (content ++ more) :: rest
    | rest => .text content :: rest
  | token :: rest => token :: joinTexts rest

/-- Line feeds for all kinds of line breaks. -/
def normalizeBreaks : Text → Text
  | [] => []
  | '\r' :: '\n' :: rest => '\n' :: normalizeBreaks rest
  | '\r' :: rest => '\n' :: normalizeBreaks rest
  | c :: rest => c :: normalizeBreaks rest

def tokens (source : Text) : List Token :=
  joinTexts (tokensAfter 0 (normalizeBreaks source))

end OpcodeAtlas.Markup
