import AltStyle.Json.Writer
import AltStyle.Style.Image

/-! Directives and images as JSON. -/
namespace AltStyle

open Json (Value)

def optionalJson : Option Text → Value
  | some s => .string s
  | none => .null

/-- An argument. A name that is missing is null; a unit that is missing is left out. -/
def Argument.toJson (a : Argument) : Value :=
  .object ([("name".toList, optionalJson a.name), ("kind".toList, .string a.kind.name),
    ("value".toList, .string a.value)] ++
      (match a.unit with
        | some unit => [("unit".toList, .string unit)]
        | none => []))

def Directive.toJson (d : Directive) : Value :=
  .object [("name".toList, .string d.name), ("args".toList, .array (d.args.map Argument.toJson))]

def directivesJson (ds : List Directive) : Value :=
  .array (ds.map Directive.toJson)

def Style.Property.toJson (p : Style.Property) : Value :=
  .object [("name".toList, .string p.name), ("value".toList, .string p.value)]

def Image.toJson (image : Image) : Value :=
  .object [("directives".toList, directivesJson image.directives),
    ("classes".toList, .array (image.classes.map .string)),
    ("properties".toList, .array (image.properties.map Style.Property.toJson))]

end AltStyle
