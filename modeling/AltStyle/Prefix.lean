import AltStyle.Text.Quoted

/-! The text that has to stand before every directive. It may be any text in which nothing
could be taken for the boundary of a directive or for a part of one; the empty prefix asks
for nothing. -/
namespace AltStyle

def isReserved (c : Char) : Bool :=
  ['-', '#', '&', '"', '\'', '{', '}', '(', ')', '\\'].contains c

structure Prefix where
  text : Text
  unbroken : text.any Text.isWhiteSpace = false
  unreserved : text.any isReserved = false
deriving DecidableEq

namespace Prefix

inductive Fault
  | whiteSpace
  | reserved
deriving DecidableEq, Repr

structure Error where
  text : Text
  fault : Fault
deriving DecidableEq, Repr

def Fault.message : Fault → Text
  | .whiteSpace => "must not contain whitespace".toList
  | .reserved => "must not contain any of - # & \" ' \x7b \x7d ( ) \\".toList

def Error.message (e : Error) : Text :=
  "Invalid prefix ".toList ++ Text.quoted e.text ++ ": ".toList ++ e.fault.message

def none : Prefix :=
  ⟨[], rfl, rfl⟩

/-- The prefix with the given text. White space is the graver fault. -/
def ofText (s : Text) : Except Error Prefix :=
  match unbroken : s.any Text.isWhiteSpace with
  | true => .error ⟨s, .whiteSpace⟩
  | false =>
    match unreserved : s.any isReserved with
    | true => .error ⟨s, .reserved⟩
    | false => .ok ⟨s, unbroken, unreserved⟩

def isEmpty (p : Prefix) : Bool :=
  p.text.isEmpty

def text? (p : Prefix) : Option Text :=
  if p.isEmpty then .none else some p.text

theorem ofText_eq_ok_iff {s : Text} {p : Prefix} : ofText s = .ok p ↔ p.text = s := by
  obtain ⟨t, unbroken, unreserved⟩ := p
  unfold ofText
  constructor
  · intro accepted
    split at accepted
    · cases accepted
    · split at accepted
      · cases accepted
      · injection accepted with same
        exact (congrArg Prefix.text same).symm
  · rintro rfl
    split
    · next broken => simp_all
    · split
      · next reserved => simp_all
      · rfl

end Prefix
end AltStyle
