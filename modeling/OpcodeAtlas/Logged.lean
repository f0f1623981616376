import OpcodeAtlas.Fault

namespace OpcodeAtlas

/-- The outcome of a stage together with the lines it logged on the way. A stage that fails keeps
    the lines it logged before. -/
structure Logged (α : Type) where
  log : List Text
  outcome : Except Fault α

namespace Logged

variable {α β : Type}

/-- A result that was reached without logging anything. -/
def of (outcome : Except Fault α) : Logged α :=
  ⟨[], outcome⟩

def bind (stage : Logged α) (next : α → Logged β) : Logged β :=
  match stage.outcome with
  | .error fault => ⟨stage.log, .error fault⟩
  | .ok value => ⟨stage.log ++ (next value).log, (next value).outcome⟩

instance : Monad Logged where
  pure value := of (.ok value)
  bind := bind

instance : MonadLift (Except Fault) Logged := ⟨of⟩

def fail (fault : Fault) : Logged α :=
  of (.error fault)

def sayAll (lines : List Text) : Logged Unit :=
  ⟨lines, .ok ()⟩

def say (line : Text) : Logged Unit :=
  sayAll [line]

/-- The log as it appears on a console, each line ended. -/
def transcript (lines : List Text) : Text :=
  lines.flatMap (· ++ ['\n'])

end Logged

/-- The line that sets off titles in logs and reports. -/
def doubleRule : Text :=
  List.replicate 70 '='

/-- A title between two rules. -/
def banner (title : Text) : List Text :=
  [doubleRule, title, doubleRule]

end OpcodeAtlas
