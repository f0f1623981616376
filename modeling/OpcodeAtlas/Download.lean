import OpcodeAtlas.Logged

namespace OpcodeAtlas

/-- What came of asking for a document. -/
inductive Reply where
  | answered (status : Int) (reason body : Text)
  | timedOut (reason : Text)
  | failed (reason : Text)

/-- A number of seconds in decimal. One that is given with places shows at least one of them. -/
structure Seconds where
  units : Int
  places : Nat := 0

namespace Seconds

def text (seconds : Seconds) : Text :=
  if seconds.places = 0 then Numeral.ofInt seconds.units
  else
    let digits := Text.padLeft '0' (seconds.places + 1) (Numeral.ofNat seconds.units.natAbs)
    let whole := digits.take (digits.length - seconds.places)
    let fraction := digits.drop (digits.length - seconds.places)
    let shown := Text.dropTrailing (· == '0') fraction
    Numeral.signed seconds.units (whole ++ ['.'] ++ (if shown.isEmpty then ['0'] else shown))

end Seconds

namespace Reply

/-- The body of a document, unless the status says that it is an error page. -/
def body (address : Text) (timeout : Seconds) : Reply → Except Fault Text
  | .timedOut reason => .error ⟨.timedOut timeout.text reason, some { document := address }⟩
  | .failed reason => .error ⟨.downloadFailed reason, some { document := address }⟩
  | .answered status reason body =>
    let refuse (side : Text) : Except Fault Text :=
      let reason := Numeral.ofInt status ++ " " ++ side ++ " Error: " ++ reason ++ " for url: " ++
        address
      .error ⟨.downloadFailed reason, some { document := address }⟩
    if 400 ≤ status ∧ status < 500 then refuse "Client"
    else if 500 ≤ status ∧ status < 600 then refuse "Server"
    else .ok body

end Reply

/-- Fetches a document, given what the address answers. -/
def download (address : Text) (timeout : Seconds) (reply : Reply) : Logged Text := do
  Logged.say ("Fetching " ++ address ++ "...")
  let body ← Logged.of (reply.body address timeout)
  Logged.say ("✓ Downloaded " ++ Numeral.grouped body.byteLength ++ " bytes")
  return body

end OpcodeAtlas
