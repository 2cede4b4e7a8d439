import AltStyle.Directive.Basic
import AltStyle.Prefix

/-! Writing directives as an alt text. A value in normal form can be written as it is, which
shows it but need not read back; or in the source form of its kind, which does. -/
namespace AltStyle

namespace Argument

def plain (a : Argument) : Text :=
  '-' :: (a.name.getD [] ++ a.value ++ a.unit.getD [])

def functionalSource (channels : Text) : Text :=
  ['#', '('] ++ channels.map fun c => if c = '/' then '|' else c

def valueSource (a : Argument) : Text :=
  match a.kind with
  | .numeric | .string => a.value
  | .color =>
    match Text.after? "rgba(".toList a.value with
    | some channels => functionalSource channels
    | none => a.value
  | .raw => ['&'] ++ Text.escape (fun c => c == '&' || c == '\\') a.value ++ ['&']

def source (a : Argument) : Text :=
  '-' :: (a.name.getD [] ++ a.valueSource ++ a.unit.getD [])

end Argument

namespace Directive

def write (p : Prefix) (writeArgument : Argument → Text) (ds : List Directive) : Text :=
  [' '].intercalate (ds.map fun d => p.text ++ d.name ++ d.args.flatMap writeArgument)

def plain (p : Prefix) : List Directive → Text :=
  write p Argument.plain

def source (p : Prefix) : List Directive → Text :=
  write p Argument.source

end Directive
end AltStyle
