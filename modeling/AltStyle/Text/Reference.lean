import AltStyle.Text.Basic

/-! Character references, which keep a text inside a double-quoted HTML attribute. A browser
replaces them, so a text that holds what looks like one needs a reference for its ampersand. -/
namespace AltStyle.Text

def referenceFor (c : Char) : Text :=
  match c with
  | '&' => "&amp;".toList
  | '<' => "&lt;".toList
  | '>' => "&gt;".toList
  | '"' => "&quot;".toList
  | c => [c]

def withReferences (s : Text) : Text :=
  s.flatMap referenceFor

/-- Replaces the references by their characters from left to right. What a reference was replaced
by is not looked at again. -/
def withoutReferences : Text → Text
  | [] => []
  | '&' :: 'a' :: 'm' :: 'p' :: ';' :: s => '&' :: withoutReferences s
  | '&' :: 'l' :: 't' :: ';' :: s => '<' :: withoutReferences s
  | '&' :: 'g' :: 't' :: ';' :: s => '>' :: withoutReferences s
  | '&' :: 'q' :: 'u' :: 'o' :: 't' :: ';' :: s => '"' :: withoutReferences s
  | c :: s => c :: withoutReferences s

def isMarkup (c : Char) : Bool :=
  c == '&' || c == '<' || c == '>' || c == '"'

theorem referenceFor_of_not_isMarkup {c : Char} (plain : isMarkup c = false) :
    referenceFor c = [c] := by
  unfold referenceFor
  split
  case h_5 => rfl
  all_goals exact absurd plain (by decide)

theorem eq_of_isMarkup {c : Char} (markup : isMarkup c = true) :
    c = '&' ∨ c = '<' ∨ c = '>' ∨ c = '"' := by
  simpa [isMarkup, or_assoc] using markup

theorem withoutReferences_cons {c : Char} (s : Text) (plain : c ≠ '&') :
    withoutReferences (c :: s) = c :: withoutReferences s := by
  rw [withoutReferences]
  all_goals
    rintro r rfl
    exact absurd rfl plain

theorem withoutReferences_reference (c : Char) (s : Text) :
    withoutReferences (referenceFor c ++ s) = c :: withoutReferences s := by
  by_cases markup : isMarkup c = true
  · rcases eq_of_isMarkup markup with rfl | rfl | rfl | rfl
    all_goals rfl
  · rw [Bool.not_eq_true] at markup
    have plain : c ≠ '&' := by
      rintro rfl
      exact absurd markup (by decide)
    rw [referenceFor_of_not_isMarkup markup, List.singleton_append, withoutReferences_cons s plain]

/-- The references give the text back, also where it looks like a reference itself. -/
theorem withoutReferences_withReferences (s : Text) :
    withoutReferences (withReferences s) = s := by
  induction s with
  | nil => rfl
  | cons c s ih =>
    rw [withReferences, List.flatMap_cons, withoutReferences_reference]
    exact congrArg (c :: ·) ih

example : withReferences "&quot;".toList = "&amp;quot;".toList ∧
    withoutReferences "&amp;quot;".toList = "&quot;".toList := by decide

theorem eq_ampersand_of_mem_referenceFor {c d : Char} (inside : c ∈ referenceFor d)
    (markup : isMarkup c = true) : c = '&' := by
  by_cases escaped : isMarkup d = true
  · have clean : (referenceFor d).all (fun e => !isMarkup e || e == '&') = true := by
      rcases eq_of_isMarkup escaped with rfl | rfl | rfl | rfl
      all_goals decide
    simpa [markup] using List.all_eq_true.1 clean c inside
  · rw [Bool.not_eq_true] at escaped
    rw [referenceFor_of_not_isMarkup escaped, List.mem_singleton] at inside
    rw [inside, escaped] at markup
    cases markup

/-- The ampersands of the references are the only markup that is left. -/
theorem eq_ampersand_of_mem_withReferences {c : Char} {s : Text} (member : c ∈ withReferences s)
    (markup : isMarkup c = true) : c = '&' := by
  obtain ⟨d, _, inside⟩ := List.mem_flatMap.1 member
  exact eq_ampersand_of_mem_referenceFor inside markup

end AltStyle.Text
