import AltStyle.Text.Escape
import AltStyle.Value.Reader

/-! The kind of a value, which its form alone decides, and the normal form that values of each
kind are kept in. -/
namespace AltStyle

inductive Kind
  | numeric
  | string
  | color
  | raw
deriving DecidableEq, Repr

namespace Kind

def name : Kind → Text
  | .numeric => "numeric".toList
  | .string => "string".toList
  | .color => "color".toList
  | .raw => "raw".toList

def defaultName : Kind → Text
  | .numeric => "num".toList
  | .string => "str".toList
  | .color => "col".toList
  | .raw => "arg".toList

def accepts (k : Kind) (value : Text) : Bool :=
  match k with
  | .numeric => Value.isWhole Value.number? value
  | .string => Value.isWhole Value.string? value
  | .color => Value.isWhole Value.functionalColor? value || Value.isWhole Value.hexColor? value
  | .raw => Value.isWhole Value.raw? value

def all : List Kind :=
  [.numeric, .string, .color, .raw]

def ofValue? (value : Text) : Option Kind :=
  match all.filter (·.accepts value) with
  | [k] => some k
  | _ => none

/-- The CSS function that a functional color stands for. The bar before the opacity becomes
a slash. -/
def rgba (value : Text) : Text :=
  "rgba(".toList ++ (value.drop 2).dropLast.map (fun c => if c = '|' then '/' else c) ++ [')']

def normalize (k : Kind) (value : Text) : Text :=
  match k with
  | .numeric => value
  | .string => Text.quote (Text.unescape (Text.betweenEnds value))
  | .color => if Value.isWhole Value.functionalColor? value then rgba value else value
  | .raw => Text.unescape (Text.betweenEnds value)

end Kind
end AltStyle
