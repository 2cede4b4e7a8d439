import AltStyle.Json.Writer
import AltStyle.Toml.Lexeme

/-! Reading JSON, with white space wherever it may stand and all ways to write a character. Numbers
and truth values are left out, as they are not written here. -/
namespace AltStyle.Json

def isGap (c : Char) : Bool :=
  c == ' ' || c == '\t' || c == '\n' || c == '\r'

def skipGaps (s : Text) : Text :=
  s.dropWhile isGap

def codeUnit? (s : Text) : Option (Nat × Text) :=
  (Text.exactly? 4 Text.isHexDigit s).bind fun (digits, rest) =>
    some (Toml.digitsValue 16 digits, rest)

/-- The character that begins with the code unit. Of a first half, the second one has to follow
in an escape of its own. -/
def ofCodeUnit? (n : Nat) (s : Text) : Option (Char × Text) :=
  if 0xd800 ≤ n ∧ n < 0xdc00 then
    (Text.after? ['\\', 'u'] s).bind fun s =>
      (codeUnit? s).bind fun (m, rest) =>
        if 0xdc00 ≤ m ∧ m < 0xe000 then
          some (Char.ofNat (0x10000 + (n - 0xd800) * 0x400 + (m - 0xdc00)), rest)
        else none
  else (Text.ofCodePoint? n).map fun c => (c, s)

def codePoint? (s : Text) : Option (Char × Text) :=
  (codeUnit? s).bind fun (n, rest) => ofCodeUnit? n rest

def ofLetter? : Char → Option Char
  | '"' => some '"'
  | '\\' => some '\\'
  | '/' => some '/'
  | 'b' => some '\x08'
  | 'f' => some '\x0c'
  | 'n' => some '\n'
  | 'r' => some '\r'
  | 't' => some '\t'
  | _ => none

def numbered? : Char → Text → Option (Char × Text)
  | 'u' => codePoint?
  | _ => fun _ => none

def escape? : Text → Option (Char × Text) :=
  Text.escaped? ofLetter? numbered?

theorem neverGrows_codeUnit? : Text.NeverGrows codeUnit? :=
  (Text.neverGrows_exactly? 4 Text.isHexDigit).bind fun digits =>
    Text.neverGrows_map (some (Toml.digitsValue 16 digits))

theorem neverGrows_ofCodeUnit? (n : Nat) : Text.NeverGrows (ofCodeUnit? n) := by
  unfold ofCodeUnit?
  split
  · intro s c rest read
    obtain ⟨half, marked, read⟩ := Option.bind_eq_some_iff.1 read
    obtain ⟨⟨m, after⟩, second, read⟩ := Option.bind_eq_some_iff.1 read
    dsimp only at read
    split at read
    · obtain ⟨-, rfl⟩ := Prod.mk.inj (Option.some.inj read)
      exact Nat.le_trans (neverGrows_codeUnit? second) (Text.length_of_after? marked)
    · cases read
  · exact Text.neverGrows_map (Text.ofCodePoint? n)

theorem neverGrows_numbered? (c : Char) : Text.NeverGrows (numbered? c) := by
  unfold numbered?
  split
  · exact neverGrows_codeUnit?.bind neverGrows_ofCodeUnit?
  · exact Text.neverGrows_map none

theorem length_of_escape? {s rest : Text} {c : Char} (read : escape? s = some (c, rest)) :
    rest.length < s.length :=
  Text.length_of_escaped? neverGrows_numbered? read

def stringBody? (s : Text) : Option (Text × Text) :=
  match s with
  | [] => none
  | '"' :: s => some ([], s)
  | '\\' :: s =>
    match _read : escape? s with
    | some (c, rest) => (stringBody? rest).map fun (text, after) => (c :: text, after)
    | none => none
  | c :: s =>
    if c.toNat < 0x20 then none
    else (stringBody? s).map fun (text, after) => (c :: text, after)
termination_by s.length
decreasing_by
  · have shorter := length_of_escape? _read
    simp only [List.length_cons]
    omega
  · simp

/-- Items with commas between them up to a closing bracket. No more than the given number are
read. -/
def itemsWithin? {α : Type} (closing : Char) (item : Text → Option (α × Text)) :
    Nat → Text → Option (List α × Text)
  | 0, _ => none
  | n + 1, s =>
    (item s).bind fun (x, rest) =>
      match Text.after? [closing] (skipGaps rest) with
      | some rest => some ([x], rest)
      | none =>
        (Text.after? [','] (skipGaps rest)).bind fun rest =>
          (itemsWithin? closing item n rest).map fun (xs, after) => (x :: xs, after)

def enclosed? {α : Type} (closing : Char) (item : Text → Option (α × Text)) (s : Text) :
    Option (List α × Text) :=
  match Text.after? [closing] (skipGaps s) with
  | some rest => some ([], rest)
  | none => itemsWithin? closing item s.length s

def member? (value : Text → Option (Value × Text)) (s : Text) :
    Option ((Text × Value) × Text) := do
  let (key, rest) ← stringBody? (← Text.after? ['"'] (skipGaps s))
  let (v, rest) ← value (← Text.after? [':'] (skipGaps rest))
  some ((key, v), rest)

/-- A value with fewer brackets inside one another than the given number. -/
def value? : Nat → Text → Option (Value × Text)
  | 0, _ => none
  | n + 1, s =>
    match skipGaps s with
    | '"' :: s => (stringBody? s).map fun (text, rest) => (.string text, rest)
    | '[' :: s => (enclosed? ']' (value? n) s).map fun (items, rest) => (.array items, rest)
    | '{' :: s =>
      (enclosed? '}' (member? (value? n)) s).map fun (members, rest) => (.object members, rest)
    | s => (Text.after? "null".toList s).map fun rest => (.null, rest)

def read? (s : Text) : Option Value :=
  (value? (s.length + 1) s).bind fun (v, rest) => if skipGaps rest = [] then some v else none

end AltStyle.Json
