import AltStyle.Text.Basic

/-! Readers take something from the front of a text and give it back with what follows. Here
stand those for a fixed number of digits and for escapes, which several languages share, and the
fact that they never leave more than they were given. -/
namespace AltStyle.Text

def exactly? (count : Nat) (p : Char → Bool) (s : Text) : Option (Text × Text) :=
  let front := s.take count
  if front.length = count ∧ front.all p then some (front, s.drop count) else none

def ofCodePoint? (n : Nat) : Option Char :=
  if n.isValidChar then some (Char.ofNat n) else none

/-- The character that an escape stands for, read after its backslash. A letter stands for a
character itself, or it tells how the number of the character is written. -/
def escaped? (ofLetter? : Char → Option Char) (numbered? : Char → Text → Option (Char × Text)) :
    Text → Option (Char × Text)
  | [] => none
  | c :: s =>
    match ofLetter? c with
    | some d => some (d, s)
    | none => numbered? c s

section Lengths

variable {A B : Type} {read : Text → Option (A × Text)} {next : A → Text → Option (B × Text)}

def NeverGrows (read : Text → Option (A × Text)) : Prop :=
  ∀ ⦃s x rest⦄, read s = some (x, rest) → rest.length ≤ s.length

/-- Either so many characters are dropped or nothing is read. -/
theorem neverGrows_exactly? (count : Nat) (p : Char → Bool) : NeverGrows (exactly? count p) := by
  intro s front rest found
  unfold exactly? at found
  dsimp only at found
  split at found
  · cases found
    simp
  · cases found

theorem neverGrows_map (x : Option A) : NeverGrows fun s => x.map fun a => (a, s) := by
  intro s a rest found
  obtain ⟨_, -, same⟩ := Option.map_eq_some_iff.1 found
  cases same
  exact Nat.le_refl _

/-- A reader that goes on where another one stopped grows no text either. -/
theorem NeverGrows.bind (first : NeverGrows read) (second : ∀ x, NeverGrows (next x)) :
    NeverGrows fun s => (read s).bind fun (x, rest) => next x rest := by
  intro s y rest found
  obtain ⟨⟨x, middle⟩, started, ended⟩ := Option.bind_eq_some_iff.1 found
  exact Nat.le_trans (second x ended) (first started)

theorem length_of_after? {beginning s rest : Text} (found : after? beginning s = some rest) :
    rest.length ≤ s.length := by
  rw [after?_eq_some_iff.1 found, List.length_append]
  exact Nat.le_add_left _ _

/-- An escape is at least one character long. -/
theorem length_of_escaped? {ofLetter? : Char → Option Char}
    {numbered? : Char → Text → Option (Char × Text)} (numbers : ∀ c, NeverGrows (numbered? c))
    {s rest : Text} {d : Char} (found : escaped? ofLetter? numbered? s = some (d, rest)) :
    rest.length < s.length := by
  cases s with
  | nil => cases found
  | cons c s =>
    rw [List.length_cons, Nat.lt_succ_iff]
    rw [escaped?] at found
    split at found
    · cases found
      exact Nat.le_refl _
    · exact numbers c found

end Lengths
end AltStyle.Text
