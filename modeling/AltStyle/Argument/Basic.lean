import AltStyle.Value.Kind

/-! Arguments of directives, with their values in normal form. -/
namespace AltStyle

structure Argument where
  name : Option Text
  kind : Kind
  value : Text
  unit : Option Text
deriving DecidableEq, Repr

namespace Argument

def effectiveName (a : Argument) : Text :=
  a.name.getD a.kind.defaultName

def text? (a : Argument) : Option Text :=
  if a.kind = .string then some (Text.unescape (Text.betweenEnds a.value)) else none

end Argument
end AltStyle
