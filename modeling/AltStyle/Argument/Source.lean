import AltStyle.Argument.Basic

/-! Arguments as they are written: a hyphen, a name of lowercase letters or none, a value, and
a unit or none. -/
namespace AltStyle.Argument

/-- The parts of a written argument. The name and the unit are empty when left out. -/
structure Source where
  name : Text
  value : Text
  unit : Text
deriving DecidableEq, Repr

namespace Source

def text (a : Source) : Text :=
  '-' :: (a.name ++ a.value ++ a.unit)

def readUnit (s : Text) : Text × Text :=
  match s.dropWhile Char.isLower with
  | '%' :: rest => (s.takeWhile Char.isLower ++ ['%'], rest)
  | rest => (s.takeWhile Char.isLower, rest)

/-- Takes an argument from the front of the text. No value begins with a letter, so the name
has to be all the letters that follow the hyphen. -/
def read? : Text → Option (Source × Text)
  | '-' :: s =>
    (Value.read? (s.dropWhile Char.isLower)).map fun (value, rest) =>
      (⟨s.takeWhile Char.isLower, value, (readUnit rest).1⟩, (readUnit rest).2)
  | _ => none

theorem append_readUnit (s : Text) : (readUnit s).1 ++ (readUnit s).2 = s := by
  have whole := List.takeWhile_append_dropWhile (p := Char.isLower) (l := s)
  unfold readUnit
  split
  · next rest percent =>
    rw [percent] at whole
    simpa using whole
  · next rest _ => exact whole

theorem append_of_read? {s rest : Text} {a : Source} (found : read? s = some (a, rest)) :
    a.text ++ rest = s := by
  unfold read? at found
  split at found
  · next s =>
    obtain ⟨⟨value, tail⟩, inner, same⟩ := Option.map_eq_some_iff.1 found
    cases same
    have split := (Value.splits_read? _ _ _ inner).1
    simp only [text, List.cons_append, List.append_assoc, append_readUnit, split,
      List.takeWhile_append_dropWhile]
  · cases found

/-- An argument holds at least its hyphen, so the readers that repeat come to an end. -/
theorem length_of_read? {s rest : Text} {a : Source} (found : read? s = some (a, rest)) :
    rest.length < s.length := by
  have whole := congrArg List.length (append_of_read? found)
  simp only [text, List.length_append, List.length_cons] at whole
  omega

def readAll (s : Text) : List Source × Text :=
  match _found : read? s with
  | none => ([], s)
  | some (a, rest) =>
    let (others, after) := readAll rest
    (a :: others, after)
termination_by s.length
decreasing_by exact length_of_read? _found

/-- The arguments that stand anywhere in the text, from left to right. Whatever is no part of
an argument is skipped. -/
def search (s : Text) : List Source :=
  match _found : read? s with
  | some (a, rest) => a :: search rest
  | none =>
    match s with
    | [] => []
    | _ :: s => search s
termination_by s.length
decreasing_by
  · exact length_of_read? _found
  · simp

theorem readAll_of_none {s : Text} (nothing : read? s = none) : readAll s = ([], s) := by
  rw [readAll]
  split
  · rfl
  · next a rest found =>
    rw [nothing] at found
    cases found

theorem readAll_of_some {s rest : Text} {a : Source} (found : read? s = some (a, rest)) :
    readAll s = (a :: (readAll rest).1, (readAll rest).2) := by
  rw [readAll]
  split
  · next nothing =>
    rw [found] at nothing
    cases nothing
  · next b tail same =>
    rw [found] at same
    cases same
    rfl

theorem search_of_some {s rest : Text} {a : Source} (found : read? s = some (a, rest)) :
    search s = a :: search rest := by
  rw [search]
  split
  · next b tail same =>
    rw [found] at same
    cases same
    rfl
  · next nothing =>
    rw [found] at nothing
    cases nothing

theorem search_cons_of_none {c : Char} {s : Text} (nothing : read? (c :: s) = none) :
    search (c :: s) = search s := by
  rw [search]
  split
  · next a rest found =>
    rw [nothing] at found
    cases found
  · rfl

/-- The arguments that were taken, written side by side, and what follows them are the text. -/
theorem append_readAll (s : Text) :
    (readAll s).1.flatMap (·.text) ++ (readAll s).2 = s := by
  fun_induction readAll s with
  | case1 => rfl
  | case2 s a rest found others after same ih =>
    rw [same] at ih
    simpa [ih] using append_of_read? found

def argument? (a : Source) : Option Argument :=
  (Kind.ofValue? a.value).map fun kind =>
    { name := if a.name = [] then none else some a.name
      kind := kind
      value := kind.normalize a.value
      unit := if kind = .numeric ∧ a.unit ≠ [] then some a.unit else none }

end Source

def ofTail (tail : Option Text) : List Argument :=
  match tail with
  | none => []
  | some s => (Source.search s).filterMap Source.argument?

end AltStyle.Argument
