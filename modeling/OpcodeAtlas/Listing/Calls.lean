import OpcodeAtlas.Listing.Section

namespace OpcodeAtlas.Listing

/-- What a caller asks of a scanner: to take the next line, or to close the text. -/
inductive Call where
  | feed (line : Text)
  | finish
deriving DecidableEq, Repr

namespace Scanner

/-- What a caller sees of a scanner. The candidate is hidden. -/
structure View where
  buffering : Bool
  title? : Option Text
  buffer : List Text
  sections : List Section
deriving DecidableEq, Repr

def view (scanner : Scanner) : View where
  buffering := match scanner.phase with
    | .seeking => false
    | .buffering .. => true
  title? := scanner.title?
  buffer := scanner.buffer
  sections := scanner.sections

/-- The scanner after a call, and the fault if the call is refused. A caller can go on after a
    refusal. -/
def call (scanner : Scanner) : Call → Scanner × Option Fault
  | .feed line => scanner.feed line
  | .finish => (scanner.finish, none)

/-- The scanner after a number of calls, refused ones among them. -/
def run (scanner : Scanner) (calls : List Call) : Scanner :=
  calls.foldl (fun scanner call => (scanner.call call).1) scanner

/-- What a caller sees after each of the calls. -/
def answers (scanner : Scanner) : List Call → List (View × Option Fault)
  | [] => []
  | call :: rest =>
    let (next, fault?) := scanner.call call
    (next.view, fault?) :: next.answers rest

end Scanner

end OpcodeAtlas.Listing
