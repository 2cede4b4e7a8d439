import AltStyle.Config.Environment

/-! Messages, which stand beside the output. They are in colour only if the environment asks for
it, since what receives them is not taken to be a terminal. -/
namespace AltStyle.Command

inductive Urgency
  | failure
  | warning
  | highlight
deriving DecidableEq, Repr

def Urgency.codes : Urgency → List Text
  -- Red, yellow, and cyan in bold.
  | .failure => ["31".toList]
  | .warning => ["33".toList]
  | .highlight => ["36".toList, "1".toList]

structure Message where
  urgency : Urgency
  text : Text
deriving DecidableEq, Repr

namespace Message

def colourVariable : Text :=
  "CLICOLOR_FORCE".toList

def wantsColour (env : Environment) : Bool :=
  match env.get? colourVariable with
  | none => false
  | some value => value ≠ ['0']

def code (number : Text) : Text :=
  "\x1b[".toList ++ number ++ ['m']

def written (colour : Bool) (m : Message) : Text :=
  if colour then m.urgency.codes.flatMap code ++ m.text ++ code ['0'] else m.text

end Message
end AltStyle.Command
