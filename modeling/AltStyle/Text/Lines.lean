import AltStyle.Text.Basic

/-! Input as bytes in UTF-8 and as lines. -/
namespace AltStyle.Text

def ofBytes? (bytes : ByteArray) : Option Text :=
  (String.fromUTF8? bytes).map String.toList

def toBytes (s : Text) : ByteArray :=
  (String.ofList s).toUTF8

def cutLines : List UInt8 → List (List UInt8)
  | [] => []
  | b :: bytes =>
    if b = 10 then [b] :: cutLines bytes
    else match cutLines bytes with
      | [] => [[b]]
      | line :: others => (b :: line) :: others

def dropReturn (s : Text) : Text :=
  if s.getLast? = some '\r' then s.dropLast else s

def dropLineEnd (s : Text) : Text :=
  if s.getLast? = some '\n' then dropReturn s.dropLast else s

end AltStyle.Text
