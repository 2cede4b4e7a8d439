import AltStyle.Command.Message
import AltStyle.Config.Basic

/-! Actions, of which commands are made. They write as they go. The first one that fails ends the
command, and what was written before it stays written. -/
namespace AltStyle.Command

inductive Failure
  | config (e : Config.Error)
  | inputNotText
deriving DecidableEq, Repr

def Failure.message : Failure → Text
  | .config e => e.message
  | .inputNotText => "stream did not contain valid UTF-8".toList

structure Written where
  output : Text
  messages : List Message
deriving DecidableEq, Repr

def Written.nothing : Written :=
  ⟨[], []⟩

def writeLines (lines : List Text) : Text :=
  lines.flatMap (· ++ ['\n'])

abbrev Action := ExceptT Failure (StateM Written)

namespace Action

def print (s : Text) : Action Unit :=
  modify fun w => { w with output := w.output ++ writeLines [s] }

def tell (urgency : Urgency) (s : Text) : Action Unit :=
  modify fun w => { w with messages := w.messages ++ [⟨urgency, s⟩] }

def ofConfig {α : Type} : Except Config.Error α → Action α
  | .ok a => pure a
  | .error e => throw (.config e)

def perform {α : Type} (a : Action α) (w : Written) : Except Failure α × Written :=
  (a.run.run w).run

end Action
end AltStyle.Command
