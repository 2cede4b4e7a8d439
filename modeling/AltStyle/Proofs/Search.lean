import AltStyle.Proofs.Occurrences

/-! The first directive of a text, by what stands before it. A part of the text in which none
can be read is passed over, whatever is found behind it. -/
namespace AltStyle
open Grammar

namespace Found

/-- No directive can be read at any place inside the text where one may begin, if `rest` is
what follows the text. -/
def Unread (p : Prefix) (opens : Bool) (s rest : Text) : Prop :=
  ∀ u v, s = u ++ v → v ≠ [] → opensAfter opens u = true → Body.readWhole? p (v ++ rest) = none

section Search
variable {p : Prefix} {opens : Bool} {s rest : Text} {found : Found}

theorem Unread.head {c : Char} (unread : Unread p opens (c :: s) rest) (front : opens = true) :
    Body.readWhole? p (c :: (s ++ rest)) = none :=
  unread [] (c :: s) rfl (List.cons_ne_nil c s) front

theorem Unread.tail {c : Char} (unread : Unread p opens (c :: s) rest) :
    Unread p (Text.isWhiteSpace c) s rest := by
  intro u v split inside opened
  rw [← opensAfter_cons opens] at opened
  exact unread (c :: u) v (congrArg (c :: ·) split) inside opened

/-- Text without a directive can be passed over. -/
theorem first?_append (unread : Unread p opens s rest) :
    first? p opens (s ++ rest) = (first? p (opensAfter opens s) rest).map
      fun found => { found with skipped := s ++ found.skipped } := by
  induction s generalizing opens with
  | nil =>
    show first? p opens rest = (first? p opens rest).map id
    rw [Option.map_id, id]
  | cons c s ih =>
    have nothing : (if opens = true then Body.readWhole? p (c :: (s ++ rest)) else none) = none := by
      split
      · next front => exact unread.head front
      · rfl
    rw [List.cons_append, first?, nothing, opensAfter_cons]
    simp only [ih unread.tail, Option.map_map]
    rfl

theorem first?_eq_some {b : Body} (unread : Unread p opens s (p.text ++ b.text ++ rest))
    (opened : opensAfter opens s = true) (settled : IsSettledBody b)
    (boundary : Body.endsBefore rest = true) :
    first? p opens (s ++ (p.text ++ b.text ++ rest)) = some ⟨s, b, rest⟩ := by
  rw [first?_append unread, opened, first?_front settled boundary, Option.map_some,
    List.append_nil]

theorem unread_skipped (first : first? p opens s = some found) :
    Unread p opens found.skipped (p.text ++ found.body.text ++ found.rest) := by
  intro u v split inside opened
  rw [← Option.not_isSome_iff_eq_none]
  intro read
  have whole := (parts_of_first? first).2.1
  rw [split, List.append_assoc] at whole
  -- a directive that could be read there would have been the first one
  have earliest := length_skipped_le (whole ▸ first) opened read
  have longer := List.length_pos_iff.2 inside
  rw [split, List.length_append] at earliest
  omega

end Search
end Found

namespace Occurrence
open Found

section Steps
variable {p : Prefix} {offset : Nat} {opens : Bool} {s rest : Text} {found : Found}

/-- Induction along the search: it finds nothing, or it goes on behind the first directive. -/
theorem search_induction (p : Prefix) {motive : Nat → Bool → Text → Prop}
    (nowhere : ∀ offset opens s, first? p opens s = none → motive offset opens s)
    (found : ∀ offset opens s found, first? p opens s = some found →
      motive (ofFound p offset found).stop false found.rest → motive offset opens s)
    (offset : Nat) (opens : Bool) (s : Text) : motive offset opens s := by
  fun_induction scan p offset opens s with
  | case1 offset opens s nothing => exact nowhere offset opens s nothing
  | case2 offset opens s first step here others reported ih =>
    exact found offset opens s first step ih
  | case3 offset opens s first step here others reported ih =>
    exact found offset opens s first step ih

/-- The equation of the search that inductions on it use. -/
theorem scan_of_first? (first : first? p opens s = some found) :
    scan p offset opens s = (if isReported p found.body then [ofFound p offset found] else []) ++
      scan p (ofFound p offset found).stop false found.rest := by
  rw [scan_of_some first]
  by_cases reported : isReported p found.body = true
  · rw [if_pos reported, if_pos reported]
    rfl
  · rw [if_neg reported, if_neg reported]
    rfl

theorem stop_ofFound (first : first? p opens s = some found) :
    (ofFound p offset found).stop + Text.byteLength found.rest = offset + Text.byteLength s := by
  rw [← append_of_first? first]
  simp only [ofFound, ofBody, Text.byteLength_append, Nat.add_assoc]

theorem scan_append_of_unread (offset : Nat) (unread : Unread p opens s rest) :
    scan p offset opens (s ++ rest) =
      scan p (offset + Text.byteLength s) (opensAfter opens s) rest := by
  have step := first?_append unread
  cases first : first? p (opensAfter opens s) rest with
  | none =>
    rw [first] at step
    rw [scan_of_none step, scan_of_none first]
  | some found =>
    rw [first] at step
    rw [scan_of_some step, scan_of_some first]
    simp only [Text.byteLength_append, Nat.add_assoc]

def shift (size : Nat) (o : Occurrence) : Occurrence :=
  { o with start := size + o.start, stop := size + o.stop }

theorem ofFound_add (size : Nat) :
    ofFound p (size + offset) found = shift size (ofFound p offset found) := by
  simp only [ofFound, ofBody, shift, Nat.add_assoc]

theorem scan_add (size : Nat) :
    scan p (size + offset) opens s = (scan p offset opens s).map (shift size) := by
  induction offset, opens, s using search_induction p with
  | nowhere offset opens s nowhere => rw [scan_of_none nowhere, scan_of_none nowhere, List.map_nil]
  | found offset opens s found first ih =>
    have later : scan p (shift size (ofFound p offset found)).stop false found.rest =
        (scan p (ofFound p offset found).stop false found.rest).map (shift size) := ih
    rw [scan_of_first? first, scan_of_first? first, ofFound_add, later, List.map_append,
      apply_ite (List.map (shift size)), List.map_singleton, List.map_nil]

end Steps
end Occurrence
end AltStyle
