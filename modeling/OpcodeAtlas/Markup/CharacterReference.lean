import OpcodeAtlas.Text.Digit

namespace OpcodeAtlas.Markup

/-- The names of the characters from the no-break space on, in the order of their codes. -/
def latinNames : List Text :=
  List.map String.toList [
    "nbsp", "iexcl", "cent", "pound", "curren", "yen", "brvbar", "sect", "uml", "copy", "ordf",
    "laquo", "not", "shy", "reg", "macr", "deg", "plusmn", "sup2", "sup3", "acute", "micro", "para",
    "middot", "cedil", "sup1", "ordm", "raquo", "frac14", "frac12", "frac34", "iquest", "Agrave",
    "Aacute", "Acirc", "Atilde", "Auml", "Aring", "AElig", "Ccedil", "Egrave", "Eacute", "Ecirc",
    "Euml", "Igrave", "Iacute", "Icirc", "Iuml", "ETH", "Ntilde", "Ograve", "Oacute", "Ocirc",
    "Otilde", "Ouml", "times", "Oslash", "Ugrave", "Uacute", "Ucirc", "Uuml", "Yacute", "THORN",
    "szlig", "agrave", "aacute", "acirc", "atilde", "auml", "aring", "aelig", "ccedil", "egrave",
    "eacute", "ecirc", "euml", "igrave", "iacute", "icirc", "iuml", "eth", "ntilde", "ograve",
    "oacute", "ocirc", "otilde", "ouml", "divide", "oslash", "ugrave", "uacute", "ucirc", "uuml",
    "yacute", "thorn", "yuml"]

def spelled (entries : List (String × Nat)) : List (Text × Nat) :=
  entries.map fun (name, code) => (name.toList, code)

/-- Further names that may stand without a semicolon. -/
def shortNames : List (Text × Nat) :=
  spelled [
    ("quot", 0x22), ("amp", 0x26), ("lt", 0x3C), ("gt", 0x3E), ("AMP", 0x26), ("COPY", 0xA9),
    ("GT", 0x3E), ("LT", 0x3C), ("QUOT", 0x22), ("REG", 0xAE)]

/-- The names that need a semicolon behind them. -/
def longNames : List (Text × Nat) :=
  spelled [
    ("apos", 0x27), ("OElig", 0x152), ("oelig", 0x153), ("Scaron", 0x160), ("scaron", 0x161),
    ("Yuml", 0x178), ("fnof", 0x192), ("circ", 0x2C6), ("tilde", 0x2DC), ("Alpha", 0x391),
    ("Beta", 0x392), ("Gamma", 0x393), ("Delta", 0x394), ("Epsilon", 0x395), ("Zeta", 0x396),
    ("Eta", 0x397), ("Theta", 0x398), ("Iota", 0x399), ("Kappa", 0x39A), ("Lambda", 0x39B),
    ("Mu", 0x39C), ("Nu", 0x39D), ("Xi", 0x39E), ("Omicron", 0x39F), ("Pi", 0x3A0), ("Rho", 0x3A1),
    ("Sigma", 0x3A3), ("Tau", 0x3A4), ("Upsilon", 0x3A5), ("Phi", 0x3A6), ("Chi", 0x3A7),
    ("Psi", 0x3A8), ("Omega", 0x3A9), ("alpha", 0x3B1), ("beta", 0x3B2), ("gamma", 0x3B3),
    ("delta", 0x3B4), ("epsilon", 0x3B5), ("zeta", 0x3B6), ("eta", 0x3B7), ("theta", 0x3B8),
    ("iota", 0x3B9), ("kappa", 0x3BA), ("lambda", 0x3BB), ("mu", 0x3BC), ("nu", 0x3BD),
    ("xi", 0x3BE), ("omicron", 0x3BF), ("pi", 0x3C0), ("rho", 0x3C1), ("sigmaf", 0x3C2),
    ("sigma", 0x3C3), ("tau", 0x3C4), ("upsilon", 0x3C5), ("phi", 0x3C6), ("chi", 0x3C7),
    ("psi", 0x3C8), ("omega", 0x3C9), ("thetasym", 0x3D1), ("upsih", 0x3D2), ("piv", 0x3D6),
    ("ensp", 0x2002), ("emsp", 0x2003), ("thinsp", 0x2009), ("zwnj", 0x200C), ("zwj", 0x200D),
    ("lrm", 0x200E), ("rlm", 0x200F), ("ndash", 0x2013), ("mdash", 0x2014), ("lsquo", 0x2018),
    ("rsquo", 0x2019), ("sbquo", 0x201A), ("ldquo", 0x201C), ("rdquo", 0x201D), ("bdquo", 0x201E),
    ("dagger", 0x2020), ("Dagger", 0x2021), ("bull", 0x2022), ("hellip", 0x2026),
    ("permil", 0x2030), ("prime", 0x2032), ("Prime", 0x2033), ("lsaquo", 0x2039),
    ("rsaquo", 0x203A), ("oline", 0x203E), ("frasl", 0x2044), ("euro", 0x20AC), ("image", 0x2111),
    ("weierp", 0x2118), ("real", 0x211C), ("trade", 0x2122), ("alefsym", 0x2135), ("larr", 0x2190),
    ("uarr", 0x2191), ("rarr", 0x2192), ("darr", 0x2193), ("harr", 0x2194), ("crarr", 0x21B5),
    ("lArr", 0x21D0), ("uArr", 0x21D1), ("rArr", 0x21D2), ("dArr", 0x21D3), ("hArr", 0x21D4),
    ("forall", 0x2200), ("part", 0x2202), ("exist", 0x2203), ("empty", 0x2205), ("nabla", 0x2207),
    ("isin", 0x2208), ("notin", 0x2209), ("ni", 0x220B), ("prod", 0x220F), ("sum", 0x2211),
    ("minus", 0x2212), ("lowast", 0x2217), ("radic", 0x221A), ("prop", 0x221D), ("infin", 0x221E),
    ("ang", 0x2220), ("and", 0x2227), ("or", 0x2228), ("cap", 0x2229), ("cup", 0x222A),
    ("int", 0x222B), ("there4", 0x2234), ("sim", 0x223C), ("cong", 0x2245), ("asymp", 0x2248),
    ("ne", 0x2260), ("equiv", 0x2261), ("le", 0x2264), ("ge", 0x2265), ("sub", 0x2282),
    ("sup", 0x2283), ("nsub", 0x2284), ("sube", 0x2286), ("supe", 0x2287), ("oplus", 0x2295),
    ("otimes", 0x2297), ("perp", 0x22A5), ("sdot", 0x22C5), ("lceil", 0x2308), ("rceil", 0x2309),
    ("lfloor", 0x230A), ("rfloor", 0x230B), ("loz", 0x25CA), ("spades", 0x2660), ("clubs", 0x2663),
    ("hearts", 0x2665), ("diams", 0x2666), ("lang", 0x27E8), ("rang", 0x27E9)]

/-- No name that may stand without a semicolon is longer. -/
def bareNameLimit : Nat := 6

/-- The character of a name that may stand without a semicolon. -/
def bareCharacter? (name : Text) : Option Char :=
  match latinNames.idxOf? name with
  | some position => some (Char.ofNat (0xA0 + position))
  | none => (shortNames.lookup name).map Char.ofNat

/-- The character of any name. -/
def namedCharacter? (name : Text) : Option Char :=
  (bareCharacter? name).or ((longNames.lookup name).map Char.ofNat)

/-- The characters that the codes from 128 to 159 stand for in pages of old: those of the Western
    code page. A code that it leaves free stands for itself. -/
def westernCodes : List Nat :=
  [0x20AC, 0x81, 0x201A, 0x0192, 0x201E, 0x2026, 0x2020, 0x2021, 0x02C6, 0x2030, 0x0160, 0x2039,
   0x0152, 0x8D, 0x017D, 0x8F, 0x90, 0x2018, 0x2019, 0x201C, 0x201D, 0x2022, 0x2013, 0x2014,
   0x02DC, 0x2122, 0x0161, 0x203A, 0x0153, 0x9D, 0x017E, 0x0178]

/-- The character of a code. What is no character becomes the replacement character. -/
def codedCharacter (code : Nat) : Char :=
  if 128 ≤ code ∧ code < 160 then Char.ofNat (westernCodes.getD (code - 128) code)
  else if code = 0 ∨ ¬ code.isValidChar then '\uFFFD'
  else Char.ofNat code

/-- The text of a run of characters and the number of characters in it. -/
structure Reading where
  text : Text
  length : Nat

/-- A numeric reference, read behind its ampersand and number sign. -/
def numericReference? (base marks : Nat) (rest : Text) : Option Reading :=
  let digits := rest.takeWhile fun c => c.toNat < 128 && (digitValue? base c).isSome
  if digits.isEmpty then none
  else
    let values := digits.filterMap (digitValue? base)
    let code := values.foldl (fun code digit => code * base + digit) 0
    let closed := (rest.drop digits.length).head? = some ';'
    some ⟨[codedCharacter code], marks + digits.length + if closed then 1 else 0⟩

/-- A named reference, read behind its ampersand. Without a semicolon the longest name counts that
    may stand so, but inside an attribute it has to end where the letters and digits end, and no
    equals sign may follow. -/
def namedReference? (inAttribute : Bool) (rest : Text) : Option Reading :=
  let run := rest.takeWhile Char.isAlphanum
  let behind := (rest.drop run.length).head?
  let closed? := if behind = some ';' then namedCharacter? run else none
  match closed? with
  | some c => some ⟨[c], run.length + 1⟩
  | none =>
    let lengths := (List.range (min run.length bareNameLimit + 1)).reverse
    let bare? := lengths.findSome? fun length =>
      (bareCharacter? (run.take length)).map fun c => (c, length)
    match bare? with
    | none => none
    | some (c, length) =>
      if inAttribute && (length < run.length || behind = some '=') then none
      else some ⟨[c], length⟩

/-- A character reference, read behind its ampersand. -/
def reference? (inAttribute : Bool) : Text → Option Reading
  | '#' :: 'x' :: rest | '#' :: 'X' :: rest => numericReference? 16 2 rest
  | '#' :: rest => numericReference? 10 1 rest
  | rest => namedReference? inAttribute rest

/-- The text with its references resolved, after skipping some characters that are already read.
    An ampersand that begins no reference stands for itself. -/
def resolveAfter (inAttribute : Bool) : Nat → Text → Text
  | _, [] => []
  | skip + 1, _ :: rest => resolveAfter inAttribute skip rest
  | 0, '&' :: rest =>
    match reference? inAttribute rest with
    | some reading => reading.text ++ resolveAfter inAttribute reading.length rest
    | none => '&' :: resolveAfter inAttribute 0 rest
  | 0, c :: rest => c :: resolveAfter inAttribute 0 rest

def resolve (inAttribute : Bool) (text : Text) : Text :=
  resolveAfter inAttribute 0 text

end OpcodeAtlas.Markup
