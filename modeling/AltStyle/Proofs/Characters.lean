import Mathlib.Data.List.TakeWhile
import AltStyle.Grammar

/-! Classes of characters and the runs that readers take of them. A run ends where the rest of
the text stops the class, that is, where it begins with none of its characters. -/
namespace AltStyle

namespace Text

def Stops (p : Char → Bool) (s : Text) : Prop :=
  ∀ c r, s = c :: r → p c = false

@[simp] theorem stops_nil (p : Char → Bool) : Stops p [] := by
  intro c r same
  cases same

@[simp] theorem stops_cons {p : Char → Bool} {c : Char} {s : Text} :
    Stops p (c :: s) ↔ p c = false := by
  constructor
  · intro stops
    exact stops c s rfl
  · intro outside d r same
    cases same
    exact outside

theorem Stops.append {p : Char → Bool} {s t : Text} (front : Stops p s) (back : Stops p t) :
    Stops p (s ++ t) := by
  cases s with
  | nil => exact back
  | cons c s => exact stops_cons.2 (stops_cons.1 front)

theorem Stops.left {p : Char → Bool} {s t : Text} (whole : Stops p (s ++ t)) : Stops p s := by
  cases s with
  | nil => exact stops_nil p
  | cons c s => exact stops_cons.2 (stops_cons.1 whole)

theorem stops_dropWhile (p : Char → Bool) (s : Text) : Stops p (s.dropWhile p) := by
  induction s with
  | nil => exact stops_nil p
  | cons c s ih =>
    rw [List.dropWhile_cons]
    split
    · exact ih
    · next outside => exact stops_cons.2 (by simpa using outside)

theorem dropWhile_of_stops {p : Char → Bool} {s : Text} (stops : Stops p s) :
    s.dropWhile p = s := by
  cases s with
  | nil => rfl
  | cons c s => rw [List.dropWhile_cons, if_neg (by simp [stops_cons.1 stops])]

theorem takeWhile_of_stops {p : Char → Bool} {s : Text} (stops : Stops p s) :
    s.takeWhile p = [] := by
  cases s with
  | nil => rfl
  | cons c s => rw [List.takeWhile_cons, if_neg (by simp [stops_cons.1 stops])]

theorem takeWhile_run {p : Char → Bool} {s t : Text} (run : ∀ c ∈ s, p c = true)
    (ends : Stops p t) : (s ++ t).takeWhile p = s := by
  rw [List.takeWhile_append_of_pos run, takeWhile_of_stops ends, List.append_nil]

theorem dropWhile_run {p : Char → Bool} {s t : Text} (run : ∀ c ∈ s, p c = true)
    (ends : Stops p t) : (s ++ t).dropWhile p = t := by
  rw [List.dropWhile_append_of_pos run, dropWhile_of_stops ends]

theorem forall_mem_replaced {p q : Char → Bool} {old new : Char} {s : Text}
    (kept : ∀ c, p c = true → c ≠ old → q c = true) (fresh : q new = true)
    (inside : ∀ c ∈ s, p c = true) :
    ∀ c ∈ s.map (fun c => if c = old then new else c), q c = true := by
  intro c member
  obtain ⟨d, before, rfl⟩ := List.mem_map.1 member
  split
  · exact fresh
  · next other => exact kept d (inside d before) other

theorem intercalate_cons (c : Char) (s : Text) (l : List Text) :
    [c].intercalate (s :: l) = s ++ l.flatMap (c :: ·) := by
  induction l generalizing s with
  | nil => simp
  | cons t l ih => simp [List.intercalate_cons_cons, ih]

/-- A class without any of some characters holds none that is one of them. -/
theorem not_mem_of_class {l : List Char} (p : Char → Bool)
    (outside : l.all (fun d => !p d) = true) {c : Char} (inside : p c = true) : c ∉ l := by
  intro member
  have excluded := List.all_eq_true.1 outside c member
  rw [inside] at excluded
  cases excluded

theorem isLower_iff {c : Char} : c.isLower = true ↔ 97 ≤ c.toNat ∧ c.toNat ≤ 122 := by
  show (decide (c.val ≥ 'a'.val) && decide (c.val ≤ 'z'.val)) = true ↔ _
  simp only [ge_iff_le, Bool.and_eq_true, decide_eq_true_eq, UInt32.le_iff_toNat_le]
  exact Iff.rfl

theorem isHexDigit_iff {c : Char} :
    isHexDigit c = true ↔ (48 ≤ c.toNat ∧ c.toNat ≤ 57) ∨ (97 ≤ c.toNat ∧ c.toNat ≤ 102) ∨
      (65 ≤ c.toNat ∧ c.toNat ≤ 70) := by
  simp only [isHexDigit, Bool.or_eq_true, Bool.and_eq_true, decide_eq_true_eq,
    Char.isDigit_iff_toNat, Char.le_def, UInt32.le_iff_toNat_le, or_assoc]
  exact Iff.rfl

theorem isWhiteSpace_eq_false {c : Char} (low : 32 < c.toNat) (high : c.toNat < 127) :
    isWhiteSpace c = false := by
  simp only [isWhiteSpace, Bool.or_eq_false_iff, Bool.and_eq_false_iff, decide_eq_false_iff_not,
    beq_eq_false_iff_ne]
  omega

theorem isWhiteSpace_of_isLower {c : Char} (letter : c.isLower = true) :
    isWhiteSpace c = false := by
  have range := isLower_iff.1 letter
  exact isWhiteSpace_eq_false (by omega) (by omega)

theorem isWhiteSpace_of_isHexDigit {c : Char} (digit : isHexDigit c = true) :
    isWhiteSpace c = false := by
  have range := isHexDigit_iff.1 digit
  exact isWhiteSpace_eq_false (by omega) (by omega)

def EndsVisibly (s : Text) : Prop :=
  ∀ c, s.getLast? = some c → isWhiteSpace c = false

theorem endsVisibly_nil : EndsVisibly [] := by
  intro c last
  cases last

theorem endsVisibly_concat {s : Text} {c : Char} (visible : isWhiteSpace c = false) :
    EndsVisibly (s ++ [c]) := by
  intro d last
  rw [List.getLast?_concat] at last
  cases last
  exact visible

theorem EndsVisibly.append {s t : Text} (front : EndsVisibly s) (back : EndsVisibly t) :
    EndsVisibly (s ++ t) := by
  intro c last
  rw [List.getLast?_append] at last
  rcases Option.or_eq_some_iff.1 last with inner | ⟨_, outer⟩
  · exact back c inner
  · exact front c outer

theorem endsVisibly_of_forall {s : Text} (visible : ∀ c ∈ s, isWhiteSpace c = false) :
    EndsVisibly s := by
  intro c last
  exact visible c (List.mem_of_getLast? last)

/-- A part that is left out when it is empty is the empty one. -/
theorem getD_none_of_nil (s : Text) : (if s = [] then none else some s).getD [] = s := by
  split
  · next nothing => exact nothing.symm
  · rfl

end Text

namespace Value

theorem isNumeral_iff {c : Char} :
    isNumeral c = true ↔ (48 ≤ c.toNat ∧ c.toNat ≤ 57) ∨ c = '.' := by
  simp only [isNumeral, Bool.or_eq_true, Char.isDigit_iff_toNat, beq_iff_eq]
  exact Iff.rfl

theorem isNumeral_of_isLower {c : Char} (letter : c.isLower = true) : isNumeral c = false := by
  have range := Text.isLower_iff.1 letter
  rw [Bool.eq_false_iff]
  intro numeral
  rcases isNumeral_iff.1 numeral with digit | rfl
  · omega
  · revert letter
    decide

theorem isWhiteSpace_of_isNumeral {c : Char} (numeral : isNumeral c = true) :
    Text.isWhiteSpace c = false := by
  rcases isNumeral_iff.1 numeral with digit | rfl
  · exact Text.isWhiteSpace_eq_false (by omega) (by omega)
  · decide

end Value
end AltStyle
