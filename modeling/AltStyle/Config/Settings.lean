import AltStyle.Style.ObjectFit
import AltStyle.Toml.Value

/-! The settings that a TOML document makes. It has two sections with one field each; whatever
else it holds is ignored, as long as its numbers can be represented. -/
namespace AltStyle

namespace Toml

/-- Whether a double-precision number is near enough to `mantissa` times ten to the
`exponent`, so that it does not become infinite. The bound is half a unit above the greatest
finite number. -/
def isFinite (mantissa : Nat) (exponent : Int) : Bool :=
  let magnitude := (Nat.toDigits 10 mantissa).length + exponent
  let bound := Nat.pow 2 1024 - Nat.pow 2 970
  if mantissa = 0 ∨ magnitude < 309 then true
  else if 310 < magnitude then false
  else mantissa * Nat.pow 10 exponent.toNat < bound * Nat.pow 10 (-exponent).toNat

def Float.isRepresentable : Float → Bool
  | .decimal mantissa exponent => isFinite mantissa exponent
  | .infinity | .notANumber => true

mutual

def Value.isRepresentable : Value → Bool
  | .integer n? => n?.any fun n => -(Nat.pow 2 127 : Int) ≤ n && n < (Nat.pow 2 128 : Int)
  | .float x => x.isRepresentable
  | .string _ | .boolean _ | .dateTime _ => true
  | .array _ items => areRepresentable items
  | .table _ es => entriesRepresentable es

def areRepresentable : List Value → Bool
  | [] => true
  | v :: vs => v.isRepresentable && areRepresentable vs

def entriesRepresentable : List (Text × Value) → Bool
  | [] => true
  | (_, v) :: es => v.isRepresentable && entriesRepresentable es

end

/-- The field of a section that has no other, if it is given. The section may be a table or an
array that begins with the field; a date or time counts as a table without the field. -/
def Value.soleField? (name : Text) : Value → Option (Option Value)
  | .table _ es =>
    if entriesRepresentable (es.filter (·.1 ≠ name)) then some (Entries.get? es name) else none
  | .array _ items => some items.head?
  | .dateTime _ => some none
  | _ => none

/-- The name of a choice: a string, or the only key of a table whose value is empty. -/
def Value.choice? : Value → Option Text
  | .string s => some s
  | .table _ [(key, .table _ [])] => some key
  | .table _ [(key, .array _ [])] => some key
  | _ => none

def Value.string? : Value → Option Text
  | .string s => some s
  | _ => none

end Toml

structure Settings where
  prefixText : Text
  objectFit : ObjectFit
deriving DecidableEq, Repr

namespace Settings
open Toml

def default : Settings :=
  ⟨[], ObjectFit.default⟩

def field? {α : Type} (document : Entries) (sectionName name : Text) (read : Value → Option α)
    (default : α) : Option α := do
  match document.get? sectionName with
  | none => some default
  | some v =>
    match ← v.soleField? name with
    | none => some default
    | some v => read v

def ofDocument? (document : Entries) : Option Settings := do
  let prefixText ← field? document "syntax".toList "prefix".toList Value.string? default.prefixText
  let objectFit ← field? document "images".toList "default_object_fit".toList
    (fun v => v.choice?.bind ObjectFit.ofName?) default.objectFit
  if entriesRepresentable
      (document.filter fun e => e.1 ≠ "syntax".toList ∧ e.1 ≠ "images".toList) then
    some ⟨prefixText, objectFit⟩
  else none

end Settings
end AltStyle
