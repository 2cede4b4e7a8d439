import AltStyle.Directive.Basic
import AltStyle.Style.Unit

/-! Classes and custom properties: how the stylesheet sees a directive and its arguments. -/
namespace AltStyle.Style

def rootClass : Text :=
  "ois".toList

def className (d : Directive) : Text :=
  rootClass ++ ['-'] ++ d.name

structure Property where
  name : Text
  value : Text
deriving DecidableEq, Repr

def Property.text (p : Property) : Text :=
  p.name ++ ": ".toList ++ p.value ++ [';']

def propertyName (d : Directive) (a : Argument) : Text :=
  "--".toList ++ rootClass ++ ['-'] ++ d.name ++ ['-'] ++ a.effectiveName

def propertyValue (d : Directive) (a : Argument) : Text :=
  match a.kind with
  | .numeric => a.value ++ (a.unit.or (defaultUnit? d.name)).getD []
  | .string | .color | .raw => a.value

def propertiesOf (d : Directive) : List Property :=
  d.args.map fun a => ⟨propertyName d a, propertyValue d a⟩

end AltStyle.Style
