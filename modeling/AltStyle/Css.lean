import AltStyle.Style.Property

/-! CSS as far as style attributes need it. A browser takes the attribute apart again: it reads
strings as wholes and ends a declaration at a semicolon outside them. -/
namespace AltStyle.Css

def isLineBreak (c : Char) : Bool :=
  c == '\n' || c == '\r' || c == '\x0c'

/-- Splits the text after the first double quote that no backslash escapes. There is none in a
string that an unescaped line break ends before. -/
def throughQuote? : Text → Option (Text × Text)
  | [] => none
  | '\\' :: c :: s => (throughQuote? s).map fun (body, rest) => ('\\' :: c :: body, rest)
  | c :: s =>
    if c = '"' then some ([c], s)
    else if isLineBreak c then none
    else (throughQuote? s).map fun (body, rest) => (c :: body, rest)

def string? : Text → Option (Text × Text)
  | '"' :: s => (throughQuote? s).map fun (body, rest) => ('"' :: body, rest)
  | _ => none

def IsString (s : Text) : Prop :=
  string? s = some (s, [])

instance (s : Text) : Decidable (IsString s) :=
  inferInstanceAs (Decidable (_ = _))

def pushFront (c : Char) : List Text × Text → List Text × Text
  | ([], left) => ([], c :: left)
  | (piece :: pieces, left) => ((c :: piece) :: pieces, left)

/-- Cuts a text at every semicolon outside double-quoted strings: the pieces that end at one,
and what is left over after the last. The flag tells whether the text begins inside a string,
where a backslash protects the character after it. -/
def cut : Bool → Text → List Text × Text
  | _, [] => ([], [])
  | true, '\\' :: c :: s => pushFront '\\' (pushFront c (cut true s))
  | true, c :: s => pushFront c (cut (c != '"') s)
  | false, c :: s =>
    if c = ';' then ([] :: (cut false s).1, (cut false s).2)
    else pushFront c (cut (c == '"') s)

def declaration? : Text → Option Style.Property
  | [] => none
  | ':' :: ' ' :: s => some ⟨[], s⟩
  | c :: s => (declaration? s).map fun q => ⟨c :: q.name, q.value⟩

/-- The declarations of a style attribute, one space between each two of them and a semicolon
after each. Nothing else may stand in it. -/
def declarations? (s : Text) : Option (List Style.Property) :=
  match cut false s with
  | ([], []) => some []
  | (piece :: pieces, []) => do
    let others ← pieces.mapM (Text.after? [' '])
    (piece :: others).mapM declaration?
  | _ => none

theorem throughQuote?_pair (c : Char) (s : Text) :
    throughQuote? ('\\' :: c :: s) =
      (throughQuote? s).map fun (body, rest) => ('\\' :: c :: body, rest) := by
  rw [throughQuote?]

theorem throughQuote?_cons {c : Char} (s : Text) (plain : c ≠ '\\') :
    throughQuote? (c :: s) =
      if c = '"' then some ([c], s)
      else if isLineBreak c then none
      else (throughQuote? s).map fun (body, rest) => (c :: body, rest) := by
  rw [throughQuote?]
  rintro d r rfl
  exact absurd rfl plain

theorem cut_pair (c : Char) (s : Text) :
    cut true ('\\' :: c :: s) = pushFront '\\' (pushFront c (cut true s)) := by
  rw [cut]

theorem cut_inside {c : Char} (s : Text) (plain : c ≠ '\\') :
    cut true (c :: s) = pushFront c (cut (c != '"') s) := by
  rw [cut]
  rintro d r rfl
  exact absurd rfl plain

theorem cut_semicolon (s : Text) : cut false (';' :: s) = ([] :: (cut false s).1, (cut false s).2) := by
  rw [cut, if_pos rfl]

theorem cut_outside {c : Char} (s : Text) (other : c ≠ ';') :
    cut false (c :: s) = pushFront c (cut (c == '"') s) := by
  rw [cut, if_neg other]

theorem declaration?_cons {c : Char} (s : Text) (other : c ≠ ':') :
    declaration? (c :: s) = (declaration? s).map fun q => ⟨c :: q.name, q.value⟩ := by
  rw [declaration?]
  rintro r rfl
  exact absurd rfl other

end AltStyle.Css
