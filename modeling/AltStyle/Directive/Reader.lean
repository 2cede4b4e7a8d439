import AltStyle.Directive.Basic
import AltStyle.Directive.Occurrence

/-! Reading the directives of an alt text. Every text can be read; what is no directive is
prose. -/
namespace AltStyle.Directive

def ofOccurrence (o : Occurrence) : Directive :=
  ⟨o.name, Argument.ofTail o.tail⟩

def parse (p : Prefix) (s : Text) : List Directive :=
  (Occurrence.all p s).map ofOccurrence

end AltStyle.Directive
