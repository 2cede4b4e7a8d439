import AltStyle.Css
import AltStyle.Proofs.RoundTrip

/-! The values of string arguments as CSS reads them. Each ends at its first double quote that
nothing escapes. But quoting leaves line breaks as they are, and so CSS takes the value for a
string exactly if its text has none. -/
namespace AltStyle
open Grammar

namespace Css

/-- A quoted text is read through to its closing quote, unless a line break stops the reading. -/
theorem throughQuote?_escape (t rest : Text) :
    throughQuote? (Text.escape Text.isQuoteSpecial t ++ '"' :: rest) =
      if t.any isLineBreak then none
      else some (Text.escape Text.isQuoteSpecial t ++ ['"'], rest) := by
  induction t with
  | nil => rfl
  | cons c t ih =>
    rw [Text.escape_cons, List.any_cons]
    by_cases special : Text.isQuoteSpecial c = true
    · have ordinary : isLineBreak c = false := by
        rw [Text.isQuoteSpecial, Bool.or_eq_true, beq_iff_eq, beq_iff_eq] at special
        rcases special with rfl | rfl <;> rfl
      rw [if_pos special, ordinary, Bool.false_or, List.append_assoc, List.cons_append,
        List.cons_append, throughQuote?_pair, List.nil_append, ih]
      split <;> rfl
    · have plain := special
      rw [Text.isQuoteSpecial, Bool.or_eq_true, beq_iff_eq, beq_iff_eq, not_or] at plain
      rw [if_neg special, List.append_assoc, List.cons_append, throughQuote?_cons _ plain.2,
        if_neg plain.1, List.nil_append, ih]
      cases isLineBreak c with
      | true => rfl
      | false =>
        rw [Bool.false_or, if_neg Bool.false_ne_true]
        split <;> rfl

theorem string?_quote (t : Text) :
    string? (Text.quote t) =
      if t.any isLineBreak then none else some (Text.quote t, []) := by
  rw [Text.quote, List.append_assoc, List.singleton_append, string?, throughQuote?_escape]
  split <;> rfl

/-- Quoting escapes no line break, and nothing else can end the string early. -/
theorem isString_quote_iff (t : Text) :
    IsString (Text.quote t) ↔ ∀ c ∈ t, isLineBreak c = false := by
  rw [IsString, string?_quote]
  constructor
  · intro read c inside
    by_contra broken
    rw [if_pos (List.any_eq_true.2 ⟨c, inside, eq_true_of_ne_false broken⟩)] at read
    cases read
  · intro unbroken
    rw [if_neg]
    intro broken
    obtain ⟨c, inside, breaks⟩ := List.any_eq_true.1 broken
    rw [unbroken c inside] at breaks
    cases breaks

end Css

namespace Argument

theorem exists_text_of_string {a : Argument} (normal : IsArgument a) (string : a.kind = .string) :
    ∃ t, a.text? = some t ∧ a.value = Text.quote t := by
  have value := normal.value
  rw [string] at value
  obtain ⟨t, quoted⟩ := isNormal_string_iff.1 value
  refine ⟨t, ?_, quoted⟩
  rw [text?, if_pos string, quoted, Text.unescape_betweenEnds_quote]

end Argument

namespace Directive

/-- The value of a string argument ends at its first double quote that nothing escapes. It is a
string of CSS exactly if its text has no line break. -/
theorem isString_value_iff {p : Prefix} {s : Text} {d : Directive} {a : Argument}
    (parsed : d ∈ parse p s) (inside : a ∈ d.args) (string : a.kind = .string) :
    ∃ t, a.text? = some t ∧
      (∃ body, a.value = '"' :: (body ++ ['"']) ∧ IsProtected '"' body) ∧
      (Css.IsString a.value ↔ ∀ c ∈ t, Css.isLineBreak c = false) := by
  obtain ⟨o, reported, rfl⟩ := List.mem_map.1 parsed
  have normal := (isDirective_ofOccurrence reported).args a inside
  obtain ⟨t, text, quoted⟩ := Argument.exists_text_of_string normal string
  refine ⟨t, text, ⟨Text.escape Text.isQuoteSpecial t, quoted, ?_⟩, ?_⟩
  · exact Text.isProtected_escape rfl rfl t
  · rw [quoted]
    exact Css.isString_quote_iff t

/-- The text is that of a string in braces which holds both characters that are escaped. -/
theorem isString_value_iff_braces :
    ⟨"label".toList, [⟨none, .string, "\"a\\\"b\\\\;\"".toList, none⟩]⟩ ∈
        parse .none "label-\x7ba\"b\\\\;\x7d".toList ∧
      ∃ t, some "a\"b\\;".toList = some t ∧
        (∃ body, "\"a\\\"b\\\\;\"".toList = '"' :: (body ++ ['"']) ∧ IsProtected '"' body) ∧
        (Css.IsString "\"a\\\"b\\\\;\"".toList ↔ ∀ c ∈ t, Css.isLineBreak c = false) := by
  have parsed : ⟨"label".toList, [⟨none, .string, "\"a\\\"b\\\\;\"".toList, none⟩]⟩ ∈
      parse .none "label-\x7ba\"b\\\\;\x7d".toList := by decide +kernel
  exact ⟨parsed, isString_value_iff parsed (List.mem_singleton.2 rfl) rfl⟩

/-- A line feed in a string stays as it is, and ends the string too early for CSS. -/
theorem exists_value_not_isString :
    ∃ d ∈ parse .none "label-\x7ba\nb\x7d".toList, ∃ a ∈ d.args,
      a.kind = .string ∧ ¬ Css.IsString a.value := by
  refine ⟨⟨"label".toList, [⟨none, .string, "\"a\nb\"".toList, none⟩]⟩, ?_, _,
    List.mem_singleton.2 rfl, rfl, ?_⟩
  · decide +kernel
  · decide

end Directive
end AltStyle
