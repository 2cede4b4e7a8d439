import AltStyle.Text.Reading

/-! The lexical elements of TOML 1.1: blanks, line ends, comments, strings and keys. A reader
takes an element from the front of a text and gives it back with what follows. -/
namespace AltStyle.Toml

def isBlank (c : Char) : Bool :=
  c == ' ' || c == '\t'

def isPlain (c : Char) : Bool :=
  c == '\t' || (0x20 ≤ c.toNat && c.toNat != 0x7f)

def skipBlanks (s : Text) : Text :=
  s.dropWhile isBlank

def afterLineEnd? : Text → Option Text
  | '\n' :: s => some s
  | '\r' :: '\n' :: s => some s
  | _ => none

def skipComment : Text → Text
  | '#' :: s => s.dropWhile isPlain
  | s => s

def afterRestOfLine? (s : Text) : Option Text :=
  match skipComment (skipBlanks s) with
  | [] => some []
  | s => afterLineEnd? s

theorem length_skipBlanks_le (s : Text) : (skipBlanks s).length ≤ s.length :=
  (List.dropWhile_sublist _).length_le

theorem length_skipComment_le (s : Text) : (skipComment s).length ≤ s.length := by
  unfold skipComment
  split
  · next s =>
    have shorter := (List.dropWhile_sublist (l := s) isPlain).length_le
    simp only [List.length_cons]
    omega
  · exact Nat.le_refl _

theorem length_of_afterLineEnd? {s rest : Text} (ended : afterLineEnd? s = some rest) :
    rest.length < s.length := by
  unfold afterLineEnd? at ended
  split at ended
  · cases ended
    simp only [List.length_cons]
    omega
  · cases ended
    simp only [List.length_cons]
    omega
  · cases ended

def skipEmpty (s : Text) : Text :=
  match _ended : afterLineEnd? (skipBlanks s) with
  | some rest => skipEmpty rest
  | none => skipBlanks s
termination_by s.length
decreasing_by
  have shorter := length_of_afterLineEnd? _ended
  have blanks := length_skipBlanks_le s
  omega

def skipGaps (s : Text) : Text :=
  match _ended : afterLineEnd? (skipComment (skipBlanks s)) with
  | some rest => skipGaps rest
  | none => skipBlanks s
termination_by s.length
decreasing_by
  have shorter := length_of_afterLineEnd? _ended
  have comment := length_skipComment_le (skipBlanks s)
  have blanks := length_skipBlanks_le s
  omega

def digitValue (c : Char) : Nat :=
  if c.isDigit then c.toNat - '0'.toNat
  else if 'a' ≤ c ∧ c ≤ 'f' then c.toNat - 'a'.toNat + 10
  else c.toNat - 'A'.toNat + 10

def digitsValue (base : Nat) (digits : Text) : Nat :=
  digits.foldl (fun n c => n * base + digitValue c) 0

def codePoint? (count : Nat) (s : Text) : Option (Char × Text) :=
  (Text.exactly? count Text.isHexDigit s).bind fun (digits, rest) =>
    (Text.ofCodePoint? (digitsValue 16 digits)).map fun c => (c, rest)

def ofLetter? : Char → Option Char
  | 'b' => some '\x08'
  | 't' => some '\t'
  | 'n' => some '\n'
  | 'f' => some '\x0c'
  | 'r' => some '\r'
  | 'e' => some '\x1b'
  | '"' => some '"'
  | '\\' => some '\\'
  | _ => none

def numbered? : Char → Text → Option (Char × Text)
  | 'x' => codePoint? 2
  | 'u' => codePoint? 4
  | 'U' => codePoint? 8
  | _ => fun _ => none

def escape? : Text → Option (Char × Text) :=
  Text.escaped? ofLetter? numbered?

theorem neverGrows_codePoint? (count : Nat) : Text.NeverGrows (codePoint? count) :=
  (Text.neverGrows_exactly? count Text.isHexDigit).bind fun digits =>
    Text.neverGrows_map (Text.ofCodePoint? (digitsValue 16 digits))

theorem neverGrows_numbered? (c : Char) : Text.NeverGrows (numbered? c) := by
  unfold numbered?
  split
  · exact neverGrows_codePoint? 2
  · exact neverGrows_codePoint? 4
  · exact neverGrows_codePoint? 8
  · exact Text.neverGrows_map none

theorem length_of_escape? {s rest : Text} {c : Char} (read : escape? s = some (c, rest)) :
    rest.length < s.length :=
  Text.length_of_escaped? neverGrows_numbered? read

/-- A string in double quotes, read after the first of them. -/
def basicString? (s : Text) : Option (Text × Text) :=
  match s with
  | [] => none
  | '"' :: s => some ([], s)
  | '\\' :: s =>
    match _read : escape? s with
    | some (c, rest) => (basicString? rest).map fun (text, after) => (c :: text, after)
    | none => none
  | c :: s =>
    if isPlain c then (basicString? s).map fun (text, after) => (c :: text, after) else none
termination_by s.length
decreasing_by
  · have shorter := length_of_escape? _read
    simp only [List.length_cons]
    omega
  · simp

def literalString? : Text → Option (Text × Text)
  | [] => none
  | '\'' :: s => some ([], s)
  | c :: s =>
    if isPlain c then (literalString? s).map fun (text, after) => (c :: text, after) else none

/-- The end of a string in three quotes. Up to two further quotes before them belong to the
string. -/
def tripleClose? (q : Char) (s : Text) : Option (Text × Text) :=
  if s.take 3 = [q, q, q] then
    let further := (s.drop 3).take 2 |>.takeWhile (· == q)
    some (further, s.drop (3 + further.length))
  else none

theorem length_skipEmpty_le (s : Text) : (skipEmpty s).length ≤ s.length := by
  fun_induction skipEmpty s with
  | case1 s rest ended ih =>
    have shorter := length_of_afterLineEnd? ended
    have blanks := length_skipBlanks_le s
    omega
  | case2 s => exact length_skipBlanks_le s

/-- A string in three double quotes, read after them and the line end behind them. A backslash
at the end of a line hides all empty space up to the next character. -/
def basicLines? (s : Text) : Option (Text × Text) :=
  match tripleClose? '"' s with
  | some closed => some closed
  | none =>
    match s with
    | [] => none
    | '\\' :: s =>
      match _ended : afterLineEnd? (skipBlanks s) with
      | some rest => basicLines? (skipEmpty rest)
      | none =>
        match _read : escape? s with
        | some (c, rest) => (basicLines? rest).map fun (text, after) => (c :: text, after)
        | none => none
    | '\r' :: '\n' :: s =>
      (basicLines? s).map fun (text, after) => ('\r' :: '\n' :: text, after)
    | c :: s =>
      if c = '\n' ∨ isPlain c then
        (basicLines? s).map fun (text, after) => (c :: text, after)
      else none
termination_by s.length
decreasing_by
  · have shorter := length_of_afterLineEnd? _ended
    have blanks := length_skipBlanks_le s
    have empty := length_skipEmpty_le rest
    simp only [List.length_cons]
    omega
  · have shorter := length_of_escape? _read
    simp only [List.length_cons]
    omega
  · simp only [List.length_cons]
    omega
  · simp only [List.length_cons]
    omega

def literalLines? (s : Text) : Option (Text × Text) :=
  match tripleClose? '\'' s with
  | some closed => some closed
  | none =>
    match s with
    | [] => none
    | '\r' :: '\n' :: s =>
      (literalLines? s).map fun (text, after) => ('\r' :: '\n' :: text, after)
    | c :: s =>
      if c = '\n' ∨ isPlain c then
        (literalLines? s).map fun (text, after) => (c :: text, after)
      else none

def dropLineEnd (s : Text) : Text :=
  (afterLineEnd? s).getD s

def string? : Text → Option (Text × Text)
  | '"' :: '"' :: '"' :: s => basicLines? (dropLineEnd s)
  | '\'' :: '\'' :: '\'' :: s => literalLines? (dropLineEnd s)
  | '"' :: s => basicString? s
  | '\'' :: s => literalString? s
  | _ => none

def isBareKey (c : Char) : Bool :=
  c.isAlphanum || c == '_' || c == '-'

def simpleKey? : Text → Option (Text × Text)
  | '"' :: s => basicString? s
  | '\'' :: s => literalString? s
  | s =>
    match s.takeWhile isBareKey with
    | [] => none
    | key => some (key, s.dropWhile isBareKey)

def keysWithin? : Nat → Text → Option (List Text × Text)
  | 0, _ => none
  | n + 1, s =>
    (simpleKey? s).bind fun (key, rest) =>
      match skipBlanks rest with
      | '.' :: rest => (keysWithin? n (skipBlanks rest)).map fun (keys, after) => (key :: keys, after)
      | _ => some ([key], rest)

def maxKeys : Nat := 80

def keys? (s : Text) : Option (List Text × Text) :=
  keysWithin? maxKeys s

end AltStyle.Toml
