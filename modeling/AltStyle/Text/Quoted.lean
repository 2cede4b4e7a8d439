import AltStyle.Text.Printable

/-! How a message quotes a text: between double quotes, with every character that would
not show as itself written as an escape. -/
namespace AltStyle.Text

def codePointEscape (c : Char) : Text :=
  ['\\', 'u', '{'] ++ Nat.toDigits 16 c.toNat ++ ['}']

def quotedChar (c : Char) : Text :=
  match c with
  | '\x00' => ['\\', '0']
  | '\t' => ['\\', 't']
  | '\r' => ['\\', 'r']
  | '\n' => ['\\', 'n']
  | '"' => ['\\', '"']
  | '\\' => ['\\', '\\']
  | c => if isPrintable c then [c] else codePointEscape c

def quoted (s : Text) : Text :=
  ['"'] ++ s.flatMap quotedChar ++ ['"']

end AltStyle.Text
