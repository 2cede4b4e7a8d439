import AltStyle.Directive.Reader
import AltStyle.Proofs.Segmentation

/-! Directives in normal form. Every directive that is parsed is in normal form, whatever text it
was written in. A string in normal form is the quotation of some text. -/
namespace AltStyle
open Grammar

namespace Grammar

/-- A text in which every double quote and every backslash follows a backslash that escapes
nothing else. -/
inductive IsEscaped : Text → Prop
  | nil : IsEscaped []
  | plain {c : Char} {s : Text} (unquoted : c ≠ '"') (unescaped : c ≠ '\\')
      (others : IsEscaped s) : IsEscaped (c :: s)
  | escaped {c : Char} {s : Text} (special : c = '"' ∨ c = '\\') (others : IsEscaped s) :
      IsEscaped ('\\' :: c :: s)

def isFunctionChannel (c : Char) : Bool :=
  c.isDigit || c == ' ' || c == '.' || c == ',' || c == '/'

inductive IsNormal : Kind → Text → Prop
  | number {s : Text} (some_digit : s ≠ []) (numerals : ∀ c ∈ s, Value.isNumeral c = true) :
      IsNormal .numeric s
  | string {s : Text} (body : IsEscaped s) : IsNormal .string ('"' :: (s ++ ['"']))
  | hexColor {s : Text} (digits : ∀ c ∈ s, Text.isHexDigit c = true) :
      IsNormal .color ('#' :: s)
  | functionalColor {s : Text} (channels : ∀ c ∈ s, isFunctionChannel c = true) :
      IsNormal .color ("rgba(".toList ++ s ++ [')'])
  | raw (s : Text) : IsNormal .raw s

structure IsArgument (a : Argument) : Prop where
  name : ∀ n, a.name = some n → IsWord n
  value : IsNormal a.kind a.value
  unit : ∀ u, a.unit = some u → a.kind = .numeric ∧ u ≠ [] ∧ IsUnit u

/-- A directive that the prefix can stand before. Without a prefix it has to differ from a word
of prose. -/
structure IsDirective (p : Prefix) (d : Directive) : Prop where
  name : IsName d.name
  args : ∀ a ∈ d.args, IsArgument a
  set_off : p.text = [] → '-' ∈ d.name ∨ d.args ≠ []

theorem isEscaped_escape (t : Text) : IsEscaped (Text.escape Text.isQuoteSpecial t) := by
  induction t with
  | nil => exact .nil
  | cons c t ih =>
    rw [Text.escape_cons]
    split
    · next special =>
      rw [Text.isQuoteSpecial, Bool.or_eq_true, beq_iff_eq, beq_iff_eq] at special
      exact .escaped special ih
    · next ordinary =>
      rw [Text.isQuoteSpecial, Bool.or_eq_true, beq_iff_eq, beq_iff_eq, not_or] at ordinary
      exact .plain ordinary.1 ordinary.2 ih

theorem isEscaped_iff {s : Text} :
    IsEscaped s ↔ ∃ t, s = Text.escape Text.isQuoteSpecial t := by
  constructor
  · intro escaped
    induction escaped with
    | nil => exact ⟨[], rfl⟩
    | @plain c s unquoted unescaped others ih =>
      obtain ⟨t, rfl⟩ := ih
      refine ⟨c :: t, ?_⟩
      rw [Text.escape_cons, if_neg (by simp [Text.isQuoteSpecial, unquoted, unescaped])]
      rfl
    | @escaped c s special others ih =>
      obtain ⟨t, rfl⟩ := ih
      refine ⟨c :: t, ?_⟩
      rw [Text.escape_cons, if_pos (by simpa [Text.isQuoteSpecial] using special)]
      rfl
  · intro written
    obtain ⟨t, rfl⟩ := written
    exact isEscaped_escape t

theorem isNormal_string_iff {v : Text} : IsNormal .string v ↔ ∃ t, v = Text.quote t := by
  constructor
  · intro normal
    cases normal with
    | string body =>
      obtain ⟨t, rfl⟩ := isEscaped_iff.1 body
      exact ⟨t, rfl⟩
  · intro quoted
    obtain ⟨t, rfl⟩ := quoted
    exact .string (isEscaped_escape t)

end Grammar

namespace Kind

theorem rgba_delimited (channels : Text) :
    rgba ('#' :: '(' :: (channels ++ [')'])) =
      "rgba(".toList ++ channels.map (fun c => if c = '|' then '/' else c) ++ [')'] := by
  have bare : (channels ++ [')']).dropLast = channels := List.dropLast_concat
  exact congrArg (fun s : Text =>
    "rgba(".toList ++ s.map (fun c => if c = '|' then '/' else c) ++ [')']) bare

theorem isFunctionChannel_of_mem_slashed {channels : Text}
    (inside : ∀ c ∈ channels, Value.isChannel c = true) :
    ∀ c ∈ channels.map (fun c => if c = '|' then '/' else c), isFunctionChannel c = true := by
  apply Text.forall_mem_replaced _ rfl inside
  intro c channel other
  rw [Value.isChannel, Bool.or_eq_true, beq_iff_eq] at channel
  rw [isFunctionChannel, channel.resolve_right other]
  rfl

theorem isNormal_rgba {v : Text} (functional : IsFunctionalColor v) :
    IsNormal .color (rgba v) := by
  obtain ⟨channels, inside, rfl⟩ := functional
  rw [rgba_delimited]
  exact .functionalColor (isFunctionChannel_of_mem_slashed inside)

theorem normalize_string {o d : Char} (closes : Value.stringClose? o = some d) (s : Text) :
    normalize .string (o :: (s ++ [d])) = Text.quote (Text.unescape s) := by
  have opens : o.utf8Size = 1 ∧ d.utf8Size = 1 := by
    unfold Value.stringClose? at closes
    split at closes
    all_goals cases closes
    all_goals decide
  rw [normalize, Text.betweenEnds_delimited s opens.1 opens.2]

theorem normalize_functionalColor {v : Text} (functional : IsFunctionalColor v) :
    normalize .color v = rgba v :=
  if_pos (Value.isWhole_functionalColor?_iff.2 functional)

theorem normalize_hexColor {v : Text} (hex : IsHexColor v) : normalize .color v = v :=
  if_neg fun whole => hex.not_functional (Value.isWhole_functionalColor?_iff.1 whole)

theorem normalize_raw (s : Text) : normalize .raw ('&' :: (s ++ ['&'])) = Text.unescape s := by
  rw [normalize, Text.betweenEnds_delimited s (by decide) (by decide)]

theorem isWord_defaultName (k : Kind) : IsWord k.defaultName := by
  cases k
  all_goals decide

/-- Normalizing leads to the normal form of the kind, case by case. -/
theorem isNormal_normalize {k : Kind} {v : Text} (value : IsValue k v) :
    IsNormal k (normalize k v) := by
  cases k with
  | numeric =>
    obtain ⟨some_digit, numerals⟩ := isValue_numeric_iff.1 value
    exact .number some_digit numerals
  | string => exact isNormal_string_iff.2 ⟨_, rfl⟩
  | color =>
    rcases isValue_color_iff.1 value with functional | hex
    · rw [normalize_functionalColor functional]
      exact isNormal_rgba functional
    · rw [normalize_hexColor hex]
      obtain ⟨digits, inside, rfl⟩ := hex
      exact .hexColor inside
  | raw => exact .raw _

end Kind

namespace Argument

theorem isArgument_of_source {a : Source} {x : Argument} (source : IsSource a)
    (written : a.argument? = some x) : IsArgument x := by
  obtain ⟨k, kind, rfl⟩ := Option.map_eq_some_iff.1 written
  refine ⟨?_, Kind.isNormal_normalize (Kind.ofValue?_eq_some_iff.1 kind), ?_⟩
  · intro n named
    dsimp only at named
    split at named
    · cases named
    · next some_letter =>
      cases named
      exact ⟨some_letter, source.name⟩
  · intro u measured
    dsimp only at measured
    split at measured
    · next number =>
      cases measured
      exact ⟨number.1, number.2, source.unit⟩
    · cases measured

theorem isWord_effectiveName {x : Argument} (normal : IsArgument x) : IsWord x.effectiveName := by
  rw [effectiveName]
  cases named : x.name with
  | some n => exact normal.name n named
  | none => exact x.kind.isWord_defaultName

theorem isArgument_of_mem_ofTail {tail : Option Text} {x : Argument} (member : x ∈ ofTail tail) :
    IsArgument x := by
  cases tail with
  | none => cases member
  | some t =>
    obtain ⟨a, found, written⟩ := List.mem_filterMap.1 member
    exact isArgument_of_source (Source.isSettled_of_mem_search found).toIsSource written

end Argument

namespace Directive

theorem ofOccurrence_ofBody {p : Prefix} {b : Body} (offset : Nat) (settled : IsSettledBody b) :
    ofOccurrence (Occurrence.ofBody p offset b) =
      ⟨b.name, b.sources.filterMap Argument.Source.argument?⟩ := by
  have args : Argument.ofTail (Occurrence.ofBody p offset b).tail =
      b.sources.filterMap Argument.Source.argument? := by
    rw [Occurrence.ofBody]
    split
    · next bare => rw [bare, List.filterMap_nil, Argument.ofTail]
    · rw [Argument.ofTail, Body.tail, Argument.Source.search_sources settled.sources]
  rw [ofOccurrence, args]
  rfl

theorem isDirective_ofOccurrence {p : Prefix} {s : Text} {o : Occurrence}
    (reported : o ∈ Occurrence.all p s) : IsDirective p (ofOccurrence o) := by
  obtain ⟨stands, counted, _⟩ := Occurrence.mem_scan_iff.1 reported
  obtain ⟨before, after, b, body, _, _, _, same⟩ := stands
  refine ⟨?_, fun a => Argument.isArgument_of_mem_ofTail, ?_⟩
  · rw [same]
    exact body.name
  · intro unmarked
    by_cases hyphen : '-' ∈ o.name
    · exact .inl hyphen
    · right
      have tailed : o.tail ≠ none := fun bare => counted ⟨unmarked, hyphen, bare⟩
      obtain ⟨t, tailed⟩ := Option.ne_none_iff_exists'.1 tailed
      obtain ⟨c, settled, _, rfl, some_source⟩ :=
        Occurrence.exists_settled_of_mem_all reported tailed
      rw [ofOccurrence, tailed]
      exact Argument.ofTail_sources_ne_nil settled.sources some_source

/-- Every directive that is parsed is in normal form. -/
theorem parse_normal {p : Prefix} {s : Text} : ∀ d ∈ parse p s, IsDirective p d := by
  intro d member
  obtain ⟨o, reported, rfl⟩ := List.mem_map.1 member
  exact isDirective_ofOccurrence reported

theorem parse_normal_note :
    ⟨"note".toList, [⟨some "by".toList, .string, "\"it's\"".toList, none⟩,
        ⟨none, .color, "rgba(1,2/3)".toList, none⟩]⟩ ∈
        parse ⟨['@'], rfl, rfl⟩ "see @note-by\"it\\'s\"-#(1,2|3)em".toList ∧
      IsDirective ⟨['@'], rfl, rfl⟩
        ⟨"note".toList, [⟨some "by".toList, .string, "\"it's\"".toList, none⟩,
          ⟨none, .color, "rgba(1,2/3)".toList, none⟩]⟩ := by
  refine ⟨by decide +kernel, ?_⟩
  apply parse_normal (s := "see @note-by\"it\\'s\"-#(1,2|3)em".toList)
  decide +kernel

end Directive
end AltStyle
