import AltStyle.Config.Environment

/-! The rule for references to environment variables, stated without the reader. A reference stands
in braces behind a dollar and reaches to the next closing brace. Every other character stands for
itself. -/
namespace AltStyle.Environment

def opening : Text :=
  ['$', '{']

def divider : Text :=
  [':', '-']

/-- What a reference names: the whole text between its braces is a name, or the part before the
first divider is one, if there is such a part, and the part after it the default. -/
inductive Names : Text → Text → Option Text → Prop
  | name {inside : Text} (whole : ¬ divider <:+: inside ∨ divider <+: inside) :
      Names inside inside none
  | withDefault {name : Text} (default : Text) (some_name : name ≠ [])
      (first : ¬ divider <:+: name) : Names (name ++ divider ++ default) name (some default)

def OpensReference (s : Text) : Prop :=
  ∃ inside rest, s = opening ++ (inside ++ '}' :: rest)

inductive Reads : Text → List Piece → Prop
  | nil : Reads [] []
  | plain {c : Char} {s : Text} {ps : List Piece} (other : ¬ OpensReference (c :: s))
      (others : Reads s ps) : Reads (c :: s) (.plain [c] :: ps)
  | reference {inside rest name : Text} {default : Option Text} {ps : List Piece}
      (closed : '}' ∉ inside) (names : Names inside name default) (others : Reads rest ps) :
      Reads (opening ++ (inside ++ '}' :: rest)) (.reference name default :: ps)

/-- What becomes of the pieces. An error is the name of the first variable that is not set and
has no default. -/
inductive Replaced (env : Environment) : List Piece → Except Text Text → Prop
  | nil : Replaced env [] (.ok [])
  | plain {s : Text} {ps : List Piece} {r : Except Text Text} (others : Replaced env ps r) :
      Replaced env (.plain s :: ps) (r.map (s ++ ·))
  | set {name value : Text} {default : Option Text} {ps : List Piece} {r : Except Text Text}
      (found : env.get? name = some value) (others : Replaced env ps r) :
      Replaced env (.reference name default :: ps) (r.map (value ++ ·))
  | default {name default : Text} {ps : List Piece} {r : Except Text Text}
      (missing : env.get? name = none) (others : Replaced env ps r) :
      Replaced env (.reference name (some default) :: ps) (r.map (default ++ ·))
  | unset {name : Text} {ps : List Piece} (missing : env.get? name = none) :
      Replaced env (.reference name none :: ps) (.error name)

def Expands (env : Environment) (s : Text) (r : Except Text Text) : Prop :=
  ∃ ps, Reads s ps ∧ Replaced env ps r

end AltStyle.Environment
