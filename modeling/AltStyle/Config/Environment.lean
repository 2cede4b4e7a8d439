import AltStyle.Text.Alphanumeric

/-! Environment variables and the references to them that a text may hold. -/
namespace AltStyle

structure Environment where
  bindings : List (Text × Text)

namespace Environment

/-- The value of a variable. No variable can have an empty name, nor one with an equals sign
or a null character. -/
def get? (env : Environment) (name : Text) : Option Text :=
  if name = [] ∨ name.contains '=' ∨ name.contains '\x00' then none
  else (env.bindings.find? (·.1 = name)).map (·.2)

def isNameChar (c : Char) : Bool :=
  Text.isAlphanumeric c || c == '_'

def splitDefault? : Text → Option (Text × Text)
  | [] => none
  | ':' :: '-' :: s => some ([], s)
  | c :: s => (splitDefault? s).map fun (name, default) => (c :: name, default)

/-- The name in a reference in braces. What has no name before its default is a name as a
whole. -/
def nameOf (inside : Text) : Text :=
  match splitDefault? inside with
  | none | some ([], _) => inside
  | some (name, _) => name

def defaultOf? (inside : Text) : Option Text :=
  match splitDefault? inside with
  | none | some ([], _) => none
  | some (_, default) => some default

def splitBrace? (s : Text) : Option (Text × Text) :=
  match s.dropWhile (· != '}') with
  | [] => none
  | _ :: rest => some (s.takeWhile (· != '}'), rest)

theorem length_of_splitBrace? {s inside rest : Text}
    (split : splitBrace? s = some (inside, rest)) : rest.length < s.length := by
  unfold splitBrace? at split
  split at split
  · cases split
  · next closed =>
    cases split
    have shorter := (List.dropWhile_sublist (l := s) (· != '}')).length_le
    rw [closed, List.length_cons] at shorter
    omega

inductive Piece
  | plain (s : Text)
  | reference (name : Text) (default : Option Text)
deriving DecidableEq, Repr

/-- The pieces of a text, from left to right. A doubled dollar stands for a single one, and a
dollar that begins no reference stands for itself. -/
def pieces (s : Text) : List Piece :=
  match s with
  | [] => []
  | '$' :: '{' :: s =>
    match _split : splitBrace? s with
    | some (inside, rest) => .reference (nameOf inside) (defaultOf? inside) :: pieces rest
    | none => .plain ['$', '{'] :: pieces s
  | '$' :: '$' :: s => .plain ['$'] :: pieces s
  | '$' :: s =>
    if s.takeWhile isNameChar = [] then .plain ['$'] :: pieces s
    else .reference (s.takeWhile isNameChar) none :: pieces (s.dropWhile isNameChar)
  | c :: s => .plain [c] :: pieces s
termination_by s.length
decreasing_by
  · have shorter := length_of_splitBrace? _split
    simp only [List.length_cons]
    omega
  · simp only [List.length_cons]
    omega
  · simp only [List.length_cons]
    omega
  · simp only [List.length_cons]
    omega
  · have shorter := (List.dropWhile_sublist (l := s) isNameChar).length_le
    simp only [List.length_cons]
    omega
  · simp only [List.length_cons]
    omega

def value (env : Environment) : Piece → Except Text Text
  | .plain s => .ok s
  | .reference name default =>
    match (env.get? name).or default with
    | some value => .ok value
    | none => .error name

def mentionsBrace : Text → Bool
  | '$' :: '{' :: _ => true
  | [] => false
  | _ :: s => mentionsBrace s

/-- The pieces that are to be replaced. A text in which no brace follows a dollar is left as it
is, so that dollars can be written plainly. -/
def expandable (s : Text) : List Piece :=
  if mentionsBrace s then pieces s else [.plain s]

/-- The text with its references replaced. Values that were put in are not searched for further
references. The error is the name of the first variable that is not set. -/
def expand (env : Environment) (s : Text) : Except Text Text :=
  ((expandable s).mapM env.value).map List.flatten

def namesIn (s : Text) : List Text :=
  (expandable s).filterMap fun
    | .plain _ => none
    | .reference name _ => some name

end Environment
end AltStyle
