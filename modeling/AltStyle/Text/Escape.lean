import AltStyle.Text.Basic

/-! Backslash escapes. A backslash stands for the character after it, whichever that is;
one with nothing after it stands for itself. -/
namespace AltStyle.Text

def unescape : Text → Text
  | [] => []
  | ['\\'] => ['\\']
  | '\\' :: c :: s => c :: unescape s
  | c :: s => c :: unescape s

def escape (special : Char → Bool) (s : Text) : Text :=
  s.flatMap fun c => if special c then ['\\', c] else [c]

def isQuoteSpecial (c : Char) : Bool :=
  c == '"' || c == '\\'

def quote (s : Text) : Text :=
  ['"'] ++ escape isQuoteSpecial s ++ ['"']

/-- The text between its first and its last byte. There is none if fewer than two bytes are
there or one of the two belongs to a longer character. -/
def betweenEnds : Text → Text
  | [] => []
  | c :: s =>
    match s.getLast? with
    | some d => if c.utf8Size = 1 ∧ d.utf8Size = 1 then s.dropLast else []
    | none => []

theorem unescape_cons {c : Char} (s : Text) (plain : c ≠ '\\') :
    unescape (c :: s) = c :: unescape s := by
  rw [unescape]
  · rintro rfl
    exact absurd rfl plain
  · intro d r same
    exact absurd same plain

theorem unescape_pair (c : Char) (s : Text) : unescape ('\\' :: c :: s) = c :: unescape s := by
  rw [unescape]

theorem escape_cons (special : Char → Bool) (c : Char) (s : Text) :
    escape special (c :: s) =
      (if special c then ['\\', c] else [c]) ++ escape special s := rfl

/-- Every escaping that covers the backslash is undone, whatever else it covers. -/
theorem unescape_escape {special : Char → Bool} (backslash : special '\\' = true) (s : Text) :
    unescape (escape special s) = s := by
  induction s with
  | nil => rfl
  | cons c s ih =>
    rw [escape_cons]
    by_cases marked : special c = true
    · simp [marked, unescape_pair, ih]
    · have plain : c ≠ '\\' := by
        rintro rfl
        exact marked backslash
      simp [marked, unescape_cons _ plain, ih]

theorem betweenEnds_delimited {o d : Char} (s : Text) (opens : o.utf8Size = 1)
    (closes : d.utf8Size = 1) : betweenEnds (o :: (s ++ [d])) = s := by
  simp [betweenEnds, opens, closes]

theorem unescape_betweenEnds_quote (s : Text) : unescape (betweenEnds (quote s)) = s := by
  rw [quote, List.append_assoc, List.singleton_append,
    betweenEnds_delimited _ (by decide) (by decide)]
  exact unescape_escape (by decide) s

end AltStyle.Text
