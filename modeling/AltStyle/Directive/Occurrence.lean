import AltStyle.Directive.Body

/-! Where directives stand in a text. A directive begins where the text begins or after white
space, and it ends where the text ends or before white space. The white space after one
directive can be the white space before the next. -/
namespace AltStyle

structure Found where
  skipped : Text
  body : Body
  rest : Text
deriving DecidableEq, Repr

namespace Found

/-- The first directive of the text. The flag tells whether one may begin at its front. -/
def first? (p : Prefix) (opens : Bool) (s : Text) : Option Found :=
  match if opens then Body.readWhole? p s else none with
  | some (body, rest) => some ⟨[], body, rest⟩
  | none =>
    match s with
    | [] => none
    | c :: s =>
      (first? p (Text.isWhiteSpace c) s).map fun found =>
        { found with skipped := c :: found.skipped }

theorem readWhole?_of_first? {p : Prefix} {opens : Bool} {s : Text} {found : Found}
    (first : first? p opens s = some found) :
    (∃ before, s = found.skipped ++ before ∧
      Body.readWhole? p before = some (found.body, found.rest)) := by
  induction s generalizing opens found with
  | nil =>
    unfold first? at first
    split at first
    · next body rest whole =>
      cases first
      split at whole
      · exact ⟨[], rfl, whole⟩
      · cases whole
    · cases first
  | cons c s ih =>
    unfold first? at first
    split at first
    · next body rest whole =>
      cases first
      split at whole
      · exact ⟨c :: s, rfl, whole⟩
      · cases whole
    · obtain ⟨inner, later, same⟩ := Option.map_eq_some_iff.1 first
      cases same
      obtain ⟨before, split, whole⟩ := ih later
      exact ⟨before, by simp [split], whole⟩

/-- What was passed over, the directive and what follows it are the text. -/
theorem append_of_first? {p : Prefix} {opens : Bool} {s : Text} {found : Found}
    (first : first? p opens s = some found) :
    found.skipped ++ p.text ++ found.body.text ++ found.rest = s := by
  obtain ⟨before, split, whole⟩ := readWhole?_of_first? first
  simp [split, ← Body.append_of_readWhole? whole]

theorem length_of_first? {p : Prefix} {opens : Bool} {s : Text} {found : Found}
    (first : first? p opens s = some found) : found.rest.length < s.length := by
  obtain ⟨before, _, whole⟩ := readWhole?_of_first? first
  have named := List.length_pos_iff.2 (Body.name_ne_nil_of_readWhole? whole)
  rw [← append_of_first? first]
  simp only [List.length_append, Body.text]
  omega

end Found

/-- A directive of a text with its arguments not yet taken apart. It reaches from the byte at
`start`, where the prefix begins, to the byte before `stop`. -/
structure Occurrence where
  name : Text
  tail : Option Text
  start : Nat
  stop : Nat
deriving DecidableEq, Repr

namespace Occurrence

/-- Whether a found directive counts as one. Without a prefix a bare word is prose. -/
def isReported (p : Prefix) (b : Body) : Bool :=
  !(p.isEmpty && b.isBareWord)

def ofBody (p : Prefix) (start : Nat) (b : Body) : Occurrence where
  name := b.name
  tail := if b.sources = [] then none else some b.tail
  start := start
  stop := start + Text.byteLength (p.text ++ b.text)

/-- The directives of a text that begins at the byte `offset`. The search goes on where a
found directive ends, also if that was a bare word, so that the white space after it can
stand before the next one. -/
def scan (p : Prefix) (offset : Nat) (opens : Bool) (s : Text) : List Occurrence :=
  match _found : Found.first? p opens s with
  | none => []
  | some found =>
    let here := ofBody p (offset + Text.byteLength found.skipped) found.body
    let others := scan p here.stop false found.rest
    if isReported p found.body then here :: others else others
termination_by s.length
decreasing_by exact Found.length_of_first? _found

theorem scan_of_none {p : Prefix} {offset : Nat} {opens : Bool} {s : Text}
    (nowhere : Found.first? p opens s = none) : scan p offset opens s = [] := by
  rw [scan]
  split
  · rfl
  · next found first =>
    rw [nowhere] at first
    cases first

theorem scan_of_some {p : Prefix} {offset : Nat} {opens : Bool} {s : Text} {found : Found}
    (first : Found.first? p opens s = some found) :
    scan p offset opens s =
      let here := ofBody p (offset + Text.byteLength found.skipped) found.body
      let others := scan p here.stop false found.rest
      if isReported p found.body then here :: others else others := by
  rw [scan]
  split
  · next nowhere =>
    rw [first] at nowhere
    cases nowhere
  · next other same =>
    rw [first] at same
    cases same
    rfl

def all (p : Prefix) (s : Text) : List Occurrence :=
  scan p 0 true s

end Occurrence
end AltStyle
