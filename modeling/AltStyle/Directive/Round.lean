import AltStyle.Directive.Reader
import AltStyle.Directive.Writer

/-! Reading a text and writing what was found, again and again. -/
namespace AltStyle.Directive

def round (p : Prefix) (s : Text) : List Directive × Text :=
  let ds := parse p s
  (ds, plain p ds)

def rounds (p : Prefix) : Nat → Text → List (List Directive × Text)
  | 0, _ => []
  | n + 1, s => round p s :: rounds p n (round p s).2

end AltStyle.Directive
