import AltStyle.Prefix
import AltStyle.Argument.Source

/-! One written directive: a prefix, a name and arguments, without anything between them. The
name is made of words of lowercase letters with hyphens between them, and an argument begins
with a hyphen too; what tells them apart is that every argument has a value. -/
namespace AltStyle

structure Body where
  name : Text
  sources : List Argument.Source
deriving DecidableEq, Repr

namespace Body

def tail (b : Body) : Text :=
  b.sources.flatMap (·.text)

def text (b : Body) : Text :=
  b.name ++ b.tail

def isBareWord (b : Body) : Bool :=
  b.sources.isEmpty && !b.name.contains '-'

/-- Takes the further words of a name, each after a hyphen. A word that a value follows is
not one of them but the name of an argument. -/
def readWords (s : Text) : Text × Text :=
  match s with
  | '-' :: r =>
    if r.takeWhile Char.isLower = [] ∨ (Argument.Source.read? s).isSome then ([], s)
    else
      let (words, rest) := readWords (r.dropWhile Char.isLower)
      ('-' :: (r.takeWhile Char.isLower ++ words), rest)
  | _ => ([], s)
termination_by s.length
decreasing_by
  have shorter := (List.dropWhile_sublist (l := r) Char.isLower).length_le
  simp only [List.length_cons]
  omega

def read? (s : Text) : Option (Body × Text) :=
  match s.takeWhile Char.isLower with
  | [] => none
  | word =>
    let (words, afterName) := readWords (s.dropWhile Char.isLower)
    let (sources, rest) := Argument.Source.readAll afterName
    some (⟨word ++ words, sources⟩, rest)

def endsBefore : Text → Bool
  | [] => true
  | c :: _ => Text.isWhiteSpace c

def readWhole? (p : Prefix) (s : Text) : Option (Body × Text) := do
  let s ← Text.after? p.text s
  let (body, rest) ← read? s
  if endsBefore rest then some (body, rest) else none

theorem append_readWords (s : Text) : (readWords s).1 ++ (readWords s).2 = s := by
  fun_induction readWords s with
  | case1 r stop =>
    rw [if_pos stop]
    rfl
  | case2 r words rest same more ih =>
    rw [same] at ih
    rw [if_neg more, same]
    simp only [List.cons_append, List.append_assoc, ih, List.takeWhile_append_dropWhile]
  | case3 => rfl

theorem append_of_read? {s rest : Text} {b : Body} (found : read? s = some (b, rest)) :
    b.text ++ rest = s := by
  unfold read? at found
  split at found
  · cases found
  · next word _ =>
    cases found
    have words := append_readWords (s.dropWhile Char.isLower)
    have args := Argument.Source.append_readAll (readWords (s.dropWhile Char.isLower)).2
    simp only [text, tail, List.append_assoc, args, words, List.takeWhile_append_dropWhile]

theorem name_ne_nil_of_read? {s rest : Text} {b : Body} (found : read? s = some (b, rest)) :
    b.name ≠ [] := by
  unfold read? at found
  split at found
  · cases found
  · next word some_letter =>
    cases found
    exact fun empty => some_letter (List.append_eq_nil_iff.1 empty).1

theorem endsBefore_of_readWhole? {p : Prefix} {s rest : Text} {b : Body}
    (found : readWhole? p s = some (b, rest)) : endsBefore rest = true := by
  simp only [readWhole?, Option.bind_eq_bind, Option.bind_eq_some_iff] at found
  obtain ⟨after, marked, ⟨body, tail⟩, inner, ends⟩ := found
  split at ends
  · next boundary =>
    cases ends
    exact boundary
  · cases ends

theorem name_ne_nil_of_readWhole? {p : Prefix} {s rest : Text} {b : Body}
    (found : readWhole? p s = some (b, rest)) : b.name ≠ [] := by
  simp only [readWhole?, Option.bind_eq_bind, Option.bind_eq_some_iff] at found
  obtain ⟨after, marked, ⟨body, tail⟩, inner, ends⟩ := found
  split at ends
  · cases ends
    exact name_ne_nil_of_read? inner
  · cases ends

/-- The reader loses nothing: prefix, body and rest are the text. -/
theorem append_of_readWhole? {p : Prefix} {s rest : Text} {b : Body}
    (found : readWhole? p s = some (b, rest)) : p.text ++ b.text ++ rest = s := by
  simp only [readWhole?, Option.bind_eq_bind, Option.bind_eq_some_iff] at found
  obtain ⟨after, marked, ⟨body, tail⟩, inner, ends⟩ := found
  split at ends
  · cases ends
    rw [List.append_assoc, append_of_read? inner]
    exact (Text.after?_eq_some_iff.1 marked).symm
  · cases ends

end Body

end AltStyle
