import AltStyle.Json.Encode
import AltStyle.Json.Reader

/-! Directives read back from JSON. A key that has to be there may not be left out, and only a
name may be null. -/
namespace AltStyle

namespace Json.Value

def member? (key : Text) : Value → Option Value
  | .object members => members.lookup key
  | _ => none

def items? : Value → Option (List Value)
  | .array items => some items
  | _ => none

def text? : Value → Option Text
  | .string s => some s
  | _ => none

def textOrNull? : Value → Option (Option Text)
  | .null => some none
  | v => v.text?.map some

end Json.Value

open Json (Value)

def Kind.ofName? (s : Text) : Option Kind :=
  Kind.all.find? (·.name = s)

namespace Argument

def unitOfJson? (v : Value) : Option (Option Text) :=
  match v.member? "unit".toList with
  | none => some none
  | some unit => unit.text?.map some

def ofJson? (v : Value) : Option Argument := do
  let name ← (← v.member? "name".toList).textOrNull?
  let kind ← Kind.ofName? (← (← v.member? "kind".toList).text?)
  let value ← (← v.member? "value".toList).text?
  return ⟨name, kind, value, ← unitOfJson? v⟩

end Argument

def Directive.ofJson? (v : Value) : Option Directive := do
  let name ← (← v.member? "name".toList).text?
  let items ← (← v.member? "args".toList).items?
  return ⟨name, ← items.mapM Argument.ofJson?⟩

def directivesOfJson? (v : Value) : Option (List Directive) := do
  (← v.items?).mapM Directive.ofJson?

def directivesIn? (document : Text) : Option (List Directive) :=
  (Json.read? document).bind directivesOfJson?

end AltStyle
