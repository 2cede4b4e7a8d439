import AltStyle.Text.Basic

/-! The values of a TOML document. -/
namespace AltStyle.Toml

/-- A floating-point number as written: so many tens to a power, or a special value. The sign
is left out, since nothing here depends on it. -/
inductive Float
  | decimal (mantissa : Nat) (exponent : Int)
  | infinity
  | notANumber
deriving DecidableEq, Repr

inductive Origin
  /-- It has a header of its own. -/
  | header
  /-- It only occurs on the way to another table in a header. -/
  | implied
  /-- It occurs on the way to a value in a dotted key. -/
  | dotted
  /-- It was written out between braces. -/
  | inline
deriving DecidableEq, Repr

/-- A value. An integer may have digits that make no number, which is wrong only where the
number is needed. An array is either one of tables with headers, which grows with each further
header, or was written out between brackets. -/
inductive Value
  | string (text : Text)
  | integer (n? : Option Int)
  | float (x : Float)
  | boolean (b : Bool)
  | dateTime (written : Text)
  | array (grows : Bool) (items : List Value)
  | table (origin : Origin) (entries : List (Text × Value))

abbrev Entries := List (Text × Value)

namespace Entries

def get? (es : Entries) (key : Text) : Option Value :=
  (es.find? (·.1 = key)).map (·.2)

def put (es : Entries) (key : Text) (value : Value) : Entries :=
  if es.any (·.1 = key) then es.map fun e => if e.1 = key then (key, value) else e
  else es ++ [(key, value)]

end Entries
end AltStyle.Toml
