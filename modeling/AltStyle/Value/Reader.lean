import AltStyle.Text.Basic

/-! The five written forms of a value. Each has a reader that takes the longest value of its
form from the front of a text and gives it back together with what follows. -/
namespace AltStyle.Value

def isNumeral (c : Char) : Bool :=
  c.isDigit || c == '.'

def isChannel (c : Char) : Bool :=
  c.isDigit || c == ' ' || c == '.' || c == ',' || c == '|'

/-- Splits the text after the first `close` that no backslash protects. -/
def throughClose? (close : Char) : Text → Option (Text × Text)
  | [] => none
  | '\\' :: c :: s => (throughClose? close s).map fun (body, rest) => ('\\' :: c :: body, rest)
  | c :: s =>
    if c = close then some ([c], s)
    else (throughClose? close s).map fun (body, rest) => (c :: body, rest)

def stringClose? : Char → Option Char
  | '"' => some '"'
  | '\'' => some '\''
  | '{' => some '}'
  | _ => none

def number? (s : Text) : Option (Text × Text) :=
  match s.takeWhile isNumeral with
  | [] => none
  | digits => some (digits, s.dropWhile isNumeral)

def string? : Text → Option (Text × Text)
  | [] => none
  | c :: s => do
    let close ← stringClose? c
    let (body, rest) ← throughClose? close s
    some (c :: body, rest)

def functionalColor? : Text → Option (Text × Text)
  | '#' :: '(' :: s =>
    match s.dropWhile isChannel with
    | ')' :: rest => some ('#' :: '(' :: (s.takeWhile isChannel ++ [')']), rest)
    | _ => none
  | _ => none

def hexColor? : Text → Option (Text × Text)
  | '#' :: s => some ('#' :: s.takeWhile Text.isHexDigit, s.dropWhile Text.isHexDigit)
  | _ => none

def raw? : Text → Option (Text × Text)
  | '&' :: s => (throughClose? '&' s).map fun (body, rest) => ('&' :: body, rest)
  | _ => none

/-- A value of any form. Only the two colors begin alike, and the functional one has to be
tried first, because a lone `#` is a color too. -/
def read? (s : Text) : Option (Text × Text) :=
  (number? s).or ((string? s).or ((functionalColor? s).or ((hexColor? s).or (raw? s))))

def isWhole (reader : Text → Option (Text × Text)) (s : Text) : Bool :=
  match reader s with
  | some (_, []) => true
  | _ => false

theorem append_of_throughClose? {close : Char} {s body rest : Text}
    (found : throughClose? close s = some (body, rest)) : body ++ rest = s := by
  fun_induction throughClose? close s generalizing body rest with
  | case1 => simp at found
  | case2 c s ih =>
    obtain ⟨⟨b, r⟩, inner, same⟩ := Option.map_eq_some_iff.1 found
    cases same
    simp [ih inner]
  | case3 c s =>
    cases found
    rfl
  | case4 c s _ _ ih =>
    obtain ⟨⟨b, r⟩, inner, same⟩ := Option.map_eq_some_iff.1 found
    cases same
    simp [ih inner]

def Splits (reader : Text → Option (Text × Text)) : Prop :=
  ∀ s value rest, reader s = some (value, rest) → value ++ rest = s ∧ value ≠ []

theorem splits_number? : Splits number? := by
  intro s value rest found
  unfold number? at found
  split at found
  · cases found
  · next some_digit =>
    cases found
    exact ⟨List.takeWhile_append_dropWhile, some_digit⟩

theorem splits_string? : Splits string? := by
  intro s value rest found
  cases s with
  | nil => cases found
  | cons c s =>
    simp only [string?, Option.bind_eq_bind, Option.bind_eq_some_iff] at found
    obtain ⟨close, _, ⟨body, tail⟩, inner, same⟩ := found
    cases same
    exact ⟨by simp [append_of_throughClose? inner], by simp⟩

theorem splits_functionalColor? : Splits functionalColor? := by
  intro s value rest found
  unfold functionalColor? at found
  split at found
  · next s =>
    split at found
    · next tail closed =>
      cases found
      refine ⟨?_, by simp⟩
      have whole := List.takeWhile_append_dropWhile (p := isChannel) (l := s)
      rw [closed] at whole
      simpa using whole
    · cases found
  · cases found

theorem splits_hexColor? : Splits hexColor? := by
  intro s value rest found
  unfold hexColor? at found
  split at found
  · cases found
    exact ⟨by simp [List.takeWhile_append_dropWhile], by simp⟩
  · cases found

theorem splits_raw? : Splits raw? := by
  intro s value rest found
  unfold raw? at found
  split at found
  · obtain ⟨⟨body, tail⟩, inner, same⟩ := Option.map_eq_some_iff.1 found
    cases same
    exact ⟨by simp [append_of_throughClose? inner], by simp⟩
  · cases found

theorem splits_or {first second : Text → Option (Text × Text)} (one : Splits first)
    (other : Splits second) : Splits fun s => (first s).or (second s) := by
  intro s value rest found
  rcases Option.or_eq_some_iff.1 found with here | ⟨_, there⟩
  · exact one s value rest here
  · exact other s value rest there

/-- No value is empty, and its reader loses nothing. -/
theorem splits_read? : Splits read? :=
  splits_or splits_number? (splits_or splits_string? (splits_or
    splits_functionalColor? (splits_or splits_hexColor? splits_raw?)))

end AltStyle.Value
