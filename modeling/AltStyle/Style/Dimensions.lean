import AltStyle.Directive.Reader
import AltStyle.Style.Image

/-! Widths and heights that an image is given apart from its alt text. They act as if they had
been written behind it. -/
namespace AltStyle

structure Dimensions where
  width : Option Text
  height : Option Text
deriving DecidableEq, Repr

namespace Dimensions

def none : Dimensions :=
  ⟨.none, .none⟩

/-- The directive for a size, which has to be one number with a unit or without one, perhaps
between white space. -/
def directive? (name value : Text) : Option Directive :=
  let size := Text.trim value
  let argName := Kind.numeric.defaultName
  if size = [] then .none
  else match Argument.ofTail (some ('-' :: (argName ++ size))) with
    | [a] =>
      if a.kind = .numeric ∧ a.name = some argName ∧ a.value ++ a.unit.getD [] = size then
        some ⟨name, [a]⟩
      else .none
    | _ => .none

def directives (d : Dimensions) : List Directive :=
  (d.width.bind (directive? ['w'])).toList ++ (d.height.bind (directive? ['h'])).toList

end Dimensions

def Image.ofAlt (p : Prefix) (fit : ObjectFit) (dimensions : Dimensions) (alt : Text) : Image :=
  Image.ofDirectives fit (Directive.parse p alt ++ dimensions.directives)

end AltStyle
