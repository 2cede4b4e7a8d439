import AltStyle.Argument.Basic

/-! Directives: a name with arguments. -/
namespace AltStyle

structure Directive where
  name : Text
  args : List Argument
deriving DecidableEq, Repr

namespace Directive

def arg? (d : Directive) (name : Text) : Option Argument :=
  d.args.find? (·.effectiveName = name)

end Directive
end AltStyle
