import AltStyle.Directive.Body

/-! The language of directives, stated without its readers. An argument begins with a hyphen
and so does every further word of a name, yet a written directive can be taken apart in one
way only, because no value begins with a letter. -/
namespace AltStyle.Grammar

def IsWord (s : Text) : Prop :=
  s ≠ [] ∧ ∀ c ∈ s, c.isLower = true

-- The letters tested are those of the word: left to itself, the search may test every character.
instance (s : Text) : Decidable (IsWord s) :=
  @instDecidableAnd _ _ inferInstance (List.decidableBAll _ s)

inductive IsName : Text → Prop
  | word {s : Text} (letters : IsWord s) : IsName s
  | join {s t : Text} (letters : IsWord s) (others : IsName t) : IsName (s ++ '-' :: t)

/-- A text in which the closing character, if it occurs at all, follows a backslash that
protects it. -/
inductive IsProtected (close : Char) : Text → Prop
  | nil : IsProtected close []
  | plain {c : Char} {s : Text} (inside : c ≠ close) (unescaped : c ≠ '\\')
      (others : IsProtected close s) : IsProtected close (c :: s)
  | escaped (c : Char) {s : Text} (others : IsProtected close s) :
      IsProtected close ('\\' :: c :: s)

inductive IsValue : Kind → Text → Prop
  | number {s : Text} (some_digit : s ≠ []) (numerals : ∀ c ∈ s, Value.isNumeral c = true) :
      IsValue .numeric s
  | string {o d : Char} {s : Text} (closes : Value.stringClose? o = some d)
      (body : IsProtected d s) : IsValue .string (o :: (s ++ [d]))
  | functionalColor {s : Text} (channels : ∀ c ∈ s, Value.isChannel c = true) :
      IsValue .color ('#' :: '(' :: (s ++ [')']))
  | hexColor {s : Text} (digits : ∀ c ∈ s, Text.isHexDigit c = true) : IsValue .color ('#' :: s)
  | raw {s : Text} (body : IsProtected '&' s) : IsValue .raw ('&' :: (s ++ ['&']))

def IsUnit (s : Text) : Prop :=
  ∃ letters : Text, (∀ c ∈ letters, c.isLower = true) ∧ (s = letters ∨ s = letters ++ ['%'])

structure IsSource (a : Argument.Source) : Prop where
  name : ∀ c ∈ a.name, c.isLower = true
  value : ∃ k, IsValue k a.value
  unit : IsUnit a.unit

structure IsBody (b : Body) : Prop where
  name : IsName b.name
  sources : ∀ a ∈ b.sources, IsSource a

end AltStyle.Grammar
