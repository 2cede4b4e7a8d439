import AltStyle.Style.ObjectFit
import AltStyle.Style.Property
import AltStyle.Text.Reference

/-! What the directives make of an image. -/
namespace AltStyle

/-- An image with the classes and properties to be given to it. Of several properties of one
name the last counts. -/
structure Image where
  directives : List Directive
  classes : List Text
  properties : List Style.Property
deriving DecidableEq, Repr

namespace Image
open Style

def addClass (classes : List Text) (c : Text) : List Text :=
  if c ∈ classes then classes else classes ++ [c]

def objectFitProperty (fit : ObjectFit) : Property :=
  ⟨"--ois-default-object-fit".toList, fit.name⟩

def ofDirectives (fit : ObjectFit) (ds : List Directive) : Image where
  directives := ds
  classes := (ds.map className).foldl addClass [rootClass]
  properties := objectFitProperty fit :: ds.flatMap propertiesOf

def property? (image : Image) (name : Text) : Option Text :=
  (image.properties.reverse.find? (·.name = name)).map (·.value)

/-- The directives whose text is a caption are those whose names begin with one of these. -/
def captionNames : List Text :=
  ["label", "text", "title"].map String.toList

def isCaption (d : Directive) : Bool :=
  captionNames.any fun name => (Text.after? name d.name).isSome

def labelText? (image : Image) : Option Text :=
  (image.directives.filter isCaption).findSome? fun d =>
    (d.arg? Kind.string.defaultName).bind (·.text?)

def isBanner (image : Image) : Bool :=
  image.directives.any (·.name = "banner".toList)

def styleAttribute (image : Image) : Text :=
  [' '].intercalate (image.properties.map (·.text))

/-- The value of the `style` attribute as it stands between double quotes in HTML. Strings
bring double quotes of their own. -/
def styleAttributeHtml (image : Image) : Text :=
  Text.withReferences image.styleAttribute

end Image
end AltStyle
