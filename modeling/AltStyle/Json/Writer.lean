import AltStyle.Text.Basic

/-! JSON values and the two ways to write them: all on one line, or with each item on a line
of its own. -/
namespace AltStyle.Json

/-- The values that are written here, which do without numbers and truth values. -/
inductive Value
  | null
  | string (s : Text)
  | array (items : List Value)
  | object (members : List (Text × Value))

def hexDigit (n : Nat) : Char :=
  "0123456789abcdef".toList.getD n '0'

def escapeChar (c : Char) : Text :=
  match c with
  | '"' => ['\\', '"']
  | '\\' => ['\\', '\\']
  | '\x08' => ['\\', 'b']
  | '\t' => ['\\', 't']
  | '\n' => ['\\', 'n']
  | '\x0c' => ['\\', 'f']
  | '\r' => ['\\', 'r']
  | c =>
    if c.toNat < 0x20 then ['\\', 'u', '0', '0', hexDigit (c.toNat / 16), hexDigit (c.toNat % 16)]
    else [c]

def writeString (s : Text) : Text :=
  ['"'] ++ s.flatMap escapeChar ++ ['"']

/-- How a value is laid out: what stands before each item of a list and before its closing bracket,
at their depths, and between a key and its value. -/
structure Layout where
  gap : Nat → Text
  colon : Text

namespace Layout

def compact : Layout :=
  ⟨fun _ => [], [':']⟩

def pretty : Layout :=
  ⟨fun depth => '\n' :: List.replicate (2 * depth) ' ', ": ".toList⟩

def body (l : Layout) (closing : Char) (depth : Nat) (parts : List Text) : Text :=
  if parts = [] then [closing]
  else [','].intercalate (parts.map (l.gap (depth + 1) ++ ·)) ++ l.gap depth ++ [closing]

end Layout

mutual

def write (l : Layout) (depth : Nat) : Value → Text
  | .null => "null".toList
  | .string s => writeString s
  | .array items => '[' :: l.body ']' depth (writeItems l (depth + 1) items)
  | .object members => '{' :: l.body '}' depth (writeMembers l (depth + 1) members)

def writeItems (l : Layout) (depth : Nat) : List Value → List Text
  | [] => []
  | v :: items => write l depth v :: writeItems l depth items

def writeMembers (l : Layout) (depth : Nat) : List (Text × Value) → List Text
  | [] => []
  | (key, v) :: members =>
    (writeString key ++ l.colon ++ write l depth v) :: writeMembers l depth members

end

def compact : Value → Text :=
  write .compact 0

def pretty : Value → Text :=
  write .pretty 0

end AltStyle.Json
