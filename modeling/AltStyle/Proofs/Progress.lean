import AltStyle.Proofs.Search

/-! The search for directives as a loop that carries a byte of the text and what has been reported.
Every step has to find its place in the text again from the byte alone. The byte is the first one
of a character or the end of the text, and every directive, reported or not, brings it forward. -/
namespace AltStyle
open Grammar

namespace Text

/-- What the text holds from the byte on, if a character begins there or the text ends there. -/
def fromByte? : Nat → Text → Option Text
  | 0, s => some s
  | _ + 1, [] => none
  | n + 1, c :: s => if c.utf8Size ≤ n + 1 then fromByte? (n + 1 - c.utf8Size) s else none

theorem fromByte?_append (before rest : Text) :
    fromByte? (byteLength before) (before ++ rest) = some rest := by
  induction before with
  | nil => cases rest <;> rfl
  | cons c before ih =>
    have size := Char.utf8Size_pos c
    cases place : byteLength (c :: before) with
    | zero =>
      rw [byteLength_cons] at place
      omega
    | succ n =>
      rw [byteLength_cons] at place
      rw [List.cons_append, fromByte?, if_pos (by omega), ← place, Nat.add_sub_cancel_left, ih]

end Text

namespace Occurrence
open Found

/-- A directive that the search comes upon. Its name begins behind the prefix, and its arguments
end at `stop`. -/
structure Hit where
  body : Body
  nameStart : Nat
  stop : Nat
deriving DecidableEq, Repr

namespace Hit

def ofFound (p : Prefix) (pos : Nat) (found : Found) : Hit :=
  let nameStart := pos + Text.byteLength (found.skipped ++ p.text)
  ⟨found.body, nameStart, nameStart + Text.byteLength found.body.text⟩

def from? (p : Prefix) (s : Text) (pos : Nat) : Option Hit := do
  let rest ← Text.fromByte? pos s
  (first? p (pos = 0) rest).map (ofFound p pos)

def occurrence (p : Prefix) (h : Hit) : Occurrence where
  name := h.body.name
  tail := if h.body.sources = [] then none else some h.body.tail
  start := h.nameStart - Text.byteLength p.text
  stop := h.stop

section Facts
variable {p : Prefix} {pos : Nat} {found : Found}

theorem from?_append {before rest : Text} (place : Text.byteLength before = pos) :
    from? p (before ++ rest) pos = (first? p (pos = 0) rest).map (ofFound p pos) := by
  rw [from?, ← place, Text.fromByte?_append]
  rfl

theorem occurrence_ofFound :
    (ofFound p pos found).occurrence p = Occurrence.ofFound p pos found := by
  have start : pos + Text.byteLength (found.skipped ++ p.text) - Text.byteLength p.text =
      pos + Text.byteLength found.skipped := by
    rw [Text.byteLength_append]
    omega
  have stop : pos + Text.byteLength (found.skipped ++ p.text) + Text.byteLength found.body.text =
      pos + Text.byteLength found.skipped + Text.byteLength (p.text ++ found.body.text) := by
    simp only [Text.byteLength_append]
    omega
  simp only [occurrence, ofFound, Occurrence.ofFound, ofBody, start, stop]

theorem bounds_ofFound {opens : Bool} {s : Text} (first : first? p opens s = some found) :
    Text.byteLength p.text ≤ (ofFound p pos found).nameStart ∧
      pos < (ofFound p pos found).stop := by
  have size := Text.byteLength_pos (parts_of_first? first).1.isBody.text_ne_nil
  simp only [ofFound, Text.byteLength_append]
  omega

end Facts
end Hit

structure Progress where
  pos : Nat
  reported : List Occurrence
deriving DecidableEq, Repr

namespace Progress

/-- The search goes on where the directive ends, also if that is not reported. -/
def next (p : Prefix) (z : Progress) (h : Hit) : Progress where
  pos := h.stop
  reported := z.reported ++ if isReported p h.body then [h.occurrence p] else []

inductive Reached (p : Prefix) (s : Text) : Nat → Progress → Prop
  | start : Reached p s 0 ⟨0, []⟩
  | next {n : Nat} {z : Progress} {h : Hit} (reached : Reached p s n z)
      (hit : Hit.from? p s z.pos = some h) : Reached p s (n + 1) (z.next p h)

/-- The byte is the first one of a character or the end of the text, and the directives of the text
are what is reported and what the search finds from there on. -/
def IsSound (p : Prefix) (s : Text) (z : Progress) : Prop :=
  ∃ before rest, s = before ++ rest ∧ Text.byteLength before = z.pos ∧
    all p s = z.reported ++ scan p z.pos (z.pos = 0) rest

section Steps
variable {p : Prefix} {s : Text} {n : Nat} {z : Progress} {h : Hit}

theorem isSound_start (p : Prefix) (s : Text) : IsSound p s ⟨0, []⟩ :=
  ⟨[], s, rfl, rfl, rfl⟩

theorem IsSound.pos_le (sound : IsSound p s z) : z.pos ≤ Text.byteLength s := by
  obtain ⟨before, rest, rfl, place, _⟩ := sound
  rw [← place, Text.byteLength_append]
  exact Nat.le_add_right _ _

theorem IsSound.bounds (sound : IsSound p s z) (hit : Hit.from? p s z.pos = some h) :
    Text.byteLength p.text ≤ h.nameStart ∧ z.pos < h.stop := by
  obtain ⟨before, rest, rfl, place, _⟩ := sound
  rw [Hit.from?_append place] at hit
  obtain ⟨found, first, rfl⟩ := Option.map_eq_some_iff.1 hit
  exact Hit.bounds_ofFound first

/-- The step lemma. -/
theorem IsSound.next (sound : IsSound p s z) (hit : Hit.from? p s z.pos = some h) :
    IsSound p s (z.next p h) := by
  have forward := (sound.bounds hit).2
  obtain ⟨before, rest, rfl, place, split⟩ := sound
  rw [Hit.from?_append place] at hit
  obtain ⟨found, first, rfl⟩ := Option.map_eq_some_iff.1 hit
  have whole := (parts_of_first? first).2.1
  have here : (Hit.ofFound p z.pos found).occurrence p = ofFound p z.pos found :=
    Hit.occurrence_ofFound
  have stop : (Hit.ofFound p z.pos found).stop = (ofFound p z.pos found).stop :=
    congrArg Occurrence.stop here
  have behind : decide ((Hit.ofFound p z.pos found).stop = 0) = false :=
    decide_eq_false (Nat.ne_zero_of_lt forward)
  refine ⟨before ++ (found.skipped ++ p.text ++ found.body.text), found.rest, ?_, ?_, ?_⟩
  · rw [whole]
    simp only [List.append_assoc]
  · simp only [Progress.next, Hit.ofFound, Text.byteLength_append, place, Nat.add_assoc]
  · rw [split, scan_of_first? first, ← List.append_assoc]
    simp only [Progress.next, here, behind, ← stop]
    rfl

theorem IsSound.reported_eq (sound : IsSound p s z) (last : Hit.from? p s z.pos = none) :
    z.reported = all p s := by
  obtain ⟨before, rest, rfl, place, split⟩ := sound
  rw [Hit.from?_append place, Option.map_eq_none_iff] at last
  rw [split, scan_of_none last, List.append_nil]

/-- The run lemma: the invariant holds wherever the search gets. -/
theorem Reached.isSound (reached : Reached p s n z) : IsSound p s z := by
  induction reached with
  | start => exact isSound_start p s
  | next reached hit ih => exact ih.next hit

/-- Every directive moves the search by a byte at least, which bounds how many there can be. -/
theorem Reached.le_pos (reached : Reached p s n z) : n ≤ z.pos := by
  induction reached with
  | start => exact Nat.le_refl 0
  | next reached hit ih =>
    have forward := (reached.isSound.bounds hit).2
    exact Nat.lt_of_le_of_lt ih forward

/-- Either the search takes so many steps, or it has ended before. -/
theorem reached_or_ended (p : Prefix) (s : Text) (n : Nat) :
    (∃ z, Reached p s n z) ∨ ∃ m z, Reached p s m z ∧ Hit.from? p s z.pos = none := by
  induction n with
  | zero => exact .inl ⟨_, .start⟩
  | succ n ih =>
    rcases ih with ⟨z, reached⟩ | ended
    · cases hit : Hit.from? p s z.pos with
      | none => exact .inr ⟨n, z, reached, hit⟩
      | some h => exact .inl ⟨_, reached.next hit⟩
    · exact .inr ended

end Steps

/-- Wherever the search goes on, the byte divides the text between two characters or at an end, and
a directive that it comes upon from there has room for its prefix and ends farther on, whether or
not it is reported. So there are no more steps than bytes, and after the last one all directives of
the text are reported. -/
theorem search_advances_and_ends (p : Prefix) (s : Text) :
    (∀ n z, Reached p s n z →
      (∃ before rest, s = before ++ rest ∧ Text.byteLength before = z.pos ∧
        all p s = z.reported ++ scan p z.pos (z.pos = 0) rest) ∧
      z.pos ≤ Text.byteLength s ∧ n ≤ z.pos ∧
      ∀ h, Hit.from? p s z.pos = some h →
        Text.byteLength p.text ≤ h.nameStart ∧ z.pos < h.stop) ∧
    ∃ n z, Reached p s n z ∧ Hit.from? p s z.pos = none ∧ z.reported = all p s := by
  constructor
  · intro n z reached
    have sound := reached.isSound
    exact ⟨sound, sound.pos_le, reached.le_pos, fun h hit => sound.bounds hit⟩
  · rcases reached_or_ended p s (Text.byteLength s + 1) with ⟨z, reached⟩ | ended
    · -- there is no byte for one step more
      have steps := reached.le_pos
      have inside := reached.isSound.pos_le
      omega
    · obtain ⟨n, z, reached, last⟩ := ended
      exact ⟨n, z, reached, last, reached.isSound.reported_eq last⟩

/-- A bare word is passed over, and the ideographic space behind it opens the next directive. -/
example : Hit.from? .none "the\u3000w-1".toList 0 = some ⟨⟨"the".toList, []⟩, 0, 3⟩ ∧
    Hit.from? .none "the\u3000w-1".toList 3 = some ⟨⟨"w".toList, [⟨[], ['1'], []⟩]⟩, 6, 9⟩ := by
  decide +kernel

end Progress
end Occurrence
end AltStyle
