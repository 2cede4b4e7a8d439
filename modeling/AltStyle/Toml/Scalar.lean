import AltStyle.Toml.Lexeme
import AltStyle.Toml.Value

/-! The values of TOML 1.1 that are written without quotes and brackets: booleans, numbers,
dates and times. -/
namespace AltStyle.Toml

def digits? (isDigit : Char → Bool) : Text → Option Text
  | [] => none
  | [c] => if isDigit c then some [c] else none
  | c :: '_' :: s => if isDigit c then (digits? isDigit s).map (c :: ·) else none
  | c :: s => if isDigit c then (digits? isDigit s).map (c :: ·) else none

def wholeDigits? (s : Text) : Option Text :=
  (digits? Char.isDigit s).bind fun digits =>
    if digits.head? = some '0' ∧ 1 < digits.length then none else some digits

/-- An integer after the sign of its base. It may lack digits, but then it has no value. -/
def inBase? (base : Nat) (isDigit : Char → Bool) (s : Text) : Option Value :=
  if s = [] then some (.integer none)
  else (digits? isDigit s).map fun digits => .integer (some (digitsValue base digits))

def signed (negative : Bool) (n : Nat) : Int :=
  if negative then -n else n

def unsignedInteger? (s : Text) : Option Nat :=
  (wholeDigits? s).map (digitsValue 10)

def fraction? : Text → Option (Text × Text)
  | '.' :: s =>
    let isExponent := fun c => c == 'e' || c == 'E'
    (digits? Char.isDigit (s.takeWhile (!isExponent ·))).map fun digits =>
      (digits, s.dropWhile (!isExponent ·))
  | s => some ([], s)

def exponent? : Text → Option Int
  | [] => some 0
  | c :: s =>
    if c = 'e' ∨ c = 'E' then
      match s with
      | '-' :: s => (digits? Char.isDigit s).map fun digits => signed true (digitsValue 10 digits)
      | '+' :: s => (digits? Char.isDigit s).map fun digits => digitsValue 10 digits
      | s => (digits? Char.isDigit s).map fun digits => digitsValue 10 digits
    else none

def unsignedFloat? (s : Text) : Option Float := do
  let isWhole := fun c => c != '.' && c != 'e' && c != 'E'
  let rest := s.dropWhile isWhole
  let whole ← wholeDigits? (s.takeWhile isWhole)
  let (fraction, rest) ← fraction? rest
  let exponent ← exponent? rest
  some (.decimal (digitsValue 10 (whole ++ fraction)) (exponent - fraction.length))

def hasInnerUnderscores : Text → Bool
  | [] => true
  | '_' :: _ => false
  | c :: '_' :: d :: s => Text.isHexDigit c && Text.isHexDigit d && hasInnerUnderscores (d :: s)
  | _ :: s => hasInnerUnderscores s

/-- Whether the text is taken for an integer although it may have no value as one: it begins
with decimal digits and an underscore, and holds nothing that would make it another number. -/
def looksLikeInteger (s : Text) : Bool :=
  s.head? != some '0' && (s.dropWhile Char.isDigit).head? == some '_' &&
    !s.any (fun c => c == '.' || c == 'e' || c == 'E') && hasInnerUnderscores s

def number? (negative : Bool) (s : Text) : Option Value :=
  if s = "inf".toList then some (.float .infinity)
  else if s = "nan".toList then some (.float .notANumber)
  else match unsignedInteger? s with
    | some n => some (.integer (some (signed negative n)))
    | none =>
      if looksLikeInteger s then some (.integer none) else (unsignedFloat? s).map .float

def decimals? (count : Nat) (s : Text) : Option (Nat × Text) :=
  (Text.exactly? count Char.isDigit s).map fun (digits, rest) => (digitsValue 10 digits, rest)

def isLeapYear (year : Nat) : Bool :=
  year % 4 == 0 && (year % 100 != 0 || year % 400 == 0)

def daysIn (year month : Nat) : Nat :=
  match month with
  | 1 | 3 | 5 | 7 | 8 | 10 | 12 => 31
  | 4 | 6 | 9 | 11 => 30
  | 2 => if isLeapYear year then 29 else 28
  | _ => 0

def afterDate? (s : Text) : Option Text := do
  let (year, s) ← decimals? 4 s
  let s ← Text.after? ['-'] s
  let (month, s) ← decimals? 2 s
  let s ← Text.after? ['-'] s
  let (day, s) ← decimals? 2 s
  if 1 ≤ day ∧ day ≤ daysIn year month then some s else none

def afterSeconds? : Text → Option Text
  | ':' :: s => do
    let (second, s) ← decimals? 2 s
    if 60 < second then none
    else match s with
      | '.' :: s => if (s.takeWhile Char.isDigit) = [] then none else some (s.dropWhile Char.isDigit)
      | s => some s
  | s => some s

def afterMinutes? (s : Text) : Option Text := do
  let (hour, s) ← decimals? 2 s
  let s ← Text.after? [':'] s
  let (minute, s) ← decimals? 2 s
  if hour ≤ 23 ∧ minute ≤ 59 then some s else none

def afterTime? (s : Text) : Option Text :=
  (afterMinutes? s).bind afterSeconds?

def isOffset : Text → Bool
  | [] => true
  | ['Z'] | ['z'] => true
  | '+' :: s | '-' :: s => afterMinutes? s == some []
  | _ => false

def isDateTime (s : Text) : Bool :=
  match afterDate? s with
  | some [] => true
  | some (c :: s) =>
    (c == 'T' || c == 't' || c == ' ') &&
      (match afterTime? s with
        | some s => isOffset s
        | none => false)
  | none => afterTime? s == some []

def atom? (s : Text) : Option Value :=
  if s = "true".toList then some (.boolean true)
  else if s = "false".toList then some (.boolean false)
  else if isDateTime s then some (.dateTime s)
  else match s with
    | '0' :: 'x' :: s => inBase? 16 Text.isHexDigit s
    | '0' :: 'o' :: s => inBase? 8 (fun c => '0' ≤ c && c ≤ '7') s
    | '0' :: 'b' :: s => inBase? 2 (fun c => c == '0' || c == '1') s
    | '-' :: s => number? true s
    | '+' :: s => number? false s
    | s => number? false s

def isAtom (c : Char) : Bool :=
  !("=,[]\x7b\x7d \t#\r\n".toList.contains c)

def beginsTime : Text → Bool
  | ' ' :: c :: _ => c.isDigit
  | _ => false

/-- A value without quotes and brackets. A space may stand between a date and its time. -/
def scalar? (s : Text) : Option (Value × Text) :=
  let run := s.takeWhile isAtom
  let rest := s.dropWhile isAtom
  if afterDate? run = some [] ∧ beginsTime rest then
    let time := rest.tail.takeWhile isAtom
    (atom? (run ++ ' ' :: time)).map fun v => (v, rest.tail.dropWhile isAtom)
  else
    (atom? run).map fun v => (v, rest)

end AltStyle.Toml
