import AltStyle.Css
import AltStyle.Proofs.NormalForms
import AltStyle.Style.Dimensions

/-! The style attribute read back. Names, numbers and colors hold nothing that separates
declarations, and what a string holds stays inside its quotes. So an alt text without raw
arguments sets the properties of its own arguments and no others, whatever else it says. In HTML
the attribute is written with character references, and nothing at all can leave its quotes. -/
namespace AltStyle
open Grammar

namespace Css

def separators : List Char :=
  [':', ';', '"']

def IsPlain (s : Text) : Prop :=
  ∀ c ∈ s, c ∉ separators

instance (s : Text) : Decidable (IsPlain s) :=
  List.decidableBAll (· ∉ separators) s

/-- A text that nothing is cut in. Every string in it is closed, and semicolons stand inside
strings only. -/
def Uncut (s : Text) : Prop :=
  ∀ rest, cut false (s ++ rest) = s.foldr pushFront (cut false rest)

theorem foldr_pushFront_piece (s piece left : Text) (pieces : List Text) :
    s.foldr pushFront (piece :: pieces, left) = ((s ++ piece) :: pieces, left) := by
  induction s with
  | nil => rfl
  | cons c s ih => rw [List.foldr_cons, ih, pushFront, List.cons_append]

theorem isPlain_of_class {s : Text} (p : Char → Bool)
    (outside : separators.all (fun d => !p d) = true) (inside : ∀ c ∈ s, p c = true) : IsPlain s :=
  fun c member => Text.not_mem_of_class p outside (inside c member)

theorem IsPlain.append {s t : Text} (front : IsPlain s) (back : IsPlain t) : IsPlain (s ++ t) :=
  List.forall_mem_append.2 ⟨front, back⟩

theorem Uncut.append {s t : Text} (front : Uncut s) (back : Uncut t) : Uncut (s ++ t) := by
  intro rest
  rw [List.append_assoc, front, back, List.foldr_append]

theorem IsPlain.uncut {s : Text} (plain : IsPlain s) : Uncut s := by
  intro rest
  induction s with
  | nil => rfl
  | cons c s ih =>
    obtain ⟨other, others⟩ := List.forall_mem_cons.1 plain
    simp only [separators, List.mem_cons, List.not_mem_nil, or_false, not_or] at other
    rw [List.cons_append, cut_outside _ other.2.1, beq_eq_false_iff_ne.2 other.2.2, ih others,
      List.foldr_cons]

theorem cut_of_isEscaped {s : Text} (escaped : IsEscaped s) (rest : Text) :
    cut true (s ++ rest) = s.foldr pushFront (cut true rest) := by
  induction escaped with
  | nil => rfl
  | plain unquoted unescaped others ih =>
    rw [List.cons_append, cut_inside _ unescaped, bne_iff_ne.2 unquoted, ih, List.foldr_cons]
  | escaped special others ih =>
    rw [List.cons_append, List.cons_append, cut_pair, ih, List.foldr_cons, List.foldr_cons]

theorem uncut_quote (t : Text) : Uncut (Text.quote t) := by
  intro rest
  have opens : cut false ('"' :: (Text.escape Text.isQuoteSpecial t ++ '"' :: rest)) =
      pushFront '"' (cut true (Text.escape Text.isQuoteSpecial t ++ '"' :: rest)) :=
    cut_outside _ (by decide)
  have closes : cut true ('"' :: rest) = pushFront '"' (cut false rest) :=
    cut_inside _ (by decide)
  rw [Text.quote, List.append_assoc, List.append_assoc, List.singleton_append,
    List.singleton_append, opens, cut_of_isEscaped (isEscaped_escape t), closes, List.foldr_append,
    List.foldr_append]
  rfl

def unended (q : Style.Property) : Text :=
  q.name ++ (':' :: ' ' :: q.value)

structure IsSafe (q : Style.Property) : Prop where
  name : IsPlain q.name
  value : Uncut q.value

theorem declaration?_append {name : Text} (plain : IsPlain name) (value : Text) :
    declaration? (name ++ ':' :: ' ' :: value) = some ⟨name, value⟩ := by
  induction name with
  | nil => rfl
  | cons c name ih =>
    obtain ⟨other, others⟩ := List.forall_mem_cons.1 plain
    have noColon : c ≠ ':' := by
      rintro rfl
      exact other List.mem_cons_self
    rw [List.cons_append, declaration?_cons _ noColon, ih others]
    rfl

theorem IsSafe.uncut_unended {q : Style.Property} (safe : IsSafe q) : Uncut (unended q) := by
  intro rest
  have colon : Uncut [':', ' '] := fun _ => rfl
  exact (safe.name.uncut.append (colon.append safe.value)) rest

/-- A declaration ends at its own semicolon, however many its value holds. -/
theorem cut_text {q : Style.Property} (safe : IsSafe q) (rest : Text) :
    cut false (q.text ++ rest) = (unended q :: (cut false rest).1, (cut false rest).2) := by
  have parts : q.text ++ rest = unended q ++ ';' :: rest := by
    simp [Style.Property.text, unended]
  rw [parts, safe.uncut_unended, cut_semicolon, foldr_pushFront_piece, List.append_nil]

theorem cut_spaced {l : List Style.Property} (safe : ∀ q ∈ l, IsSafe q) :
    cut false (l.flatMap fun q => ' ' :: q.text) = (l.map fun q => ' ' :: unended q, []) := by
  induction l with
  | nil => rfl
  | cons q l ih =>
    obtain ⟨first, others⟩ := List.forall_mem_cons.1 safe
    rw [List.flatMap_cons, List.cons_append, cut_outside _ (by decide)]
    show pushFront ' ' (cut false (q.text ++ _)) = _
    rw [cut_text first, ih others]
    rfl

theorem mapM_map_eq_some {A B C : Type} {f : A → B} {g : B → Option C} {h : A → C} {l : List A}
    (each : ∀ a ∈ l, g (f a) = some (h a)) : (l.map f).mapM g = some (l.map h) := by
  induction l with
  | nil => rfl
  | cons a l ih =>
    obtain ⟨first, others⟩ := List.forall_mem_cons.1 each
    rw [List.map_cons, List.mapM_cons, first, ih others]
    rfl

/-- Safe declarations are read back as they were written. -/
theorem declarations?_intercalate {l : List Style.Property} (safe : ∀ q ∈ l, IsSafe q) :
    declarations? ([' '].intercalate (l.map (·.text))) = some l := by
  cases l with
  | nil => rfl
  | cons q l =>
    obtain ⟨first, others⟩ := List.forall_mem_cons.1 safe
    have spaced : [' '].intercalate ((q :: l).map (·.text)) =
        q.text ++ l.flatMap fun r => ' ' :: r.text := by
      rw [List.map_cons, Text.intercalate_cons, List.flatMap_map]
    have pieces : (l.map fun r => ' ' :: unended r).mapM (Text.after? [' ']) =
        some (l.map unended) :=
      mapM_map_eq_some fun r _ => rfl
    have read : ((q :: l).map unended).mapM declaration? = some ((q :: l).map id) :=
      mapM_map_eq_some fun r inside => declaration?_append (safe r inside).name r.value
    rw [List.map_id] at read
    rw [spaced, declarations?, cut_text first, cut_spaced others]
    simp only [pieces]
    exact read

end Css

namespace Style
open Css

theorem isPlain_of_isWord {n : Text} (word : IsWord n) : IsPlain n :=
  isPlain_of_class Char.isLower (by decide) word.2

theorem isPlain_of_isName {n : Text} (name : IsName n) : IsPlain n :=
  name.forall_mem (fun _ => Text.not_mem_of_class Char.isLower (by decide)) (by decide)

theorem isPlain_of_isUnit {u : Text} (unit : IsUnit u) : IsPlain u :=
  unit.forall_mem (fun _ => Text.not_mem_of_class Char.isLower (by decide)) (by decide)

theorem isPlain_propertyName {d : Directive} {a : Argument} (name : IsName d.name)
    (normal : IsArgument a) : IsPlain (propertyName d a) := by
  have front : IsPlain ("--".toList ++ rootClass ++ ['-']) := by decide
  have hyphen : IsPlain ['-'] := by decide
  exact ((front.append (isPlain_of_isName name)).append hyphen).append
    (isPlain_of_isWord (Argument.isWord_effectiveName normal))

theorem isPlain_of_defaultUnit? {n u : Text} (default : defaultUnit? n = some u) : IsPlain u := by
  have table : ∀ e ∈ unitTable, IsPlain e.1 := by decide
  obtain ⟨e, found, rfl⟩ := Option.map_eq_some_iff.1 default
  exact table e (List.mem_of_find?_eq_some found)

theorem isPlain_unit {d : Directive} {a : Argument} (normal : IsArgument a) :
    IsPlain ((a.unit.or (defaultUnit? d.name)).getD []) := by
  cases both : a.unit.or (defaultUnit? d.name) with
  | none => exact List.forall_mem_nil _
  | some u =>
    rcases Option.or_eq_some_iff.1 both with own | ⟨_, default⟩
    · exact isPlain_of_isUnit (normal.unit u own).2.2
    · exact isPlain_of_defaultUnit? default

theorem isPlain_of_isNormal_color {v : Text} (normal : IsNormal .color v) : IsPlain v := by
  cases normal with
  | @hexColor s digits =>
    have front : IsPlain ['#'] := by decide
    exact front.append (isPlain_of_class Text.isHexDigit (by decide) digits)
  | @functionalColor s channels =>
    have front : IsPlain "rgba(".toList := by decide
    have back : IsPlain [')'] := by decide
    exact (front.append (isPlain_of_class isFunctionChannel (by decide) channels)).append back

/-- Quotes and semicolons occur in strings only, and there they are escaped or enclosed. -/
theorem uncut_propertyValue {d : Directive} {a : Argument} (normal : IsArgument a)
    (bare : a.kind ≠ .raw) : Uncut (propertyValue d a) := by
  have value := normal.value
  rw [propertyValue]
  cases kind : a.kind with
  | numeric =>
    rw [kind] at value
    cases value with
    | number some_digit numerals =>
      have digits := isPlain_of_class Value.isNumeral (by decide) numerals
      exact (digits.append (isPlain_unit normal)).uncut
  | string =>
    rw [kind] at value
    obtain ⟨t, quoted⟩ := isNormal_string_iff.1 value
    exact quoted ▸ uncut_quote t
  | color =>
    rw [kind] at value
    exact (isPlain_of_isNormal_color value).uncut
  | raw => exact absurd kind bare

end Style

namespace Dimensions

/-- The directive of a size has one argument, a number that is written like the whole size. -/
theorem exists_number_of_directive? {name value : Text} {d : Directive}
    (found : directive? name value = some d) :
    ∃ a, d = ⟨name, [a]⟩ ∧ IsArgument a ∧ a.kind = .numeric ∧
      a.value ++ a.unit.getD [] = Text.trim value := by
  dsimp only [directive?] at found
  split at found
  · cases found
  · split at found
    · next a only =>
      have member : a ∈ Argument.ofTail _ := only ▸ List.mem_singleton_self a
      split at found
      · next accepted =>
        cases found
        exact ⟨a, rfl, Argument.isArgument_of_mem_ofTail member, accepted.1, accepted.2.2⟩
      · cases found
    · cases found

theorem isDirective_of_directive? (p : Prefix) {name value : Text} {d : Directive}
    (word : IsWord name) (found : directive? name value = some d) : IsDirective p d := by
  obtain ⟨a, rfl, normal, _, _⟩ := exists_number_of_directive? found
  exact ⟨.word word, List.forall_mem_singleton.2 normal, fun _ => .inr (List.cons_ne_nil a [])⟩

theorem isDirective_of_mem (p : Prefix) {sizes : Dimensions} {d : Directive}
    (member : d ∈ sizes.directives) : IsDirective p d := by
  rcases List.mem_append.1 member with width | height
  · obtain ⟨value, _, found⟩ := Option.bind_eq_some_iff.1 (Option.mem_toList.1 width)
    exact isDirective_of_directive? p (by decide) found
  · obtain ⟨value, _, found⟩ := Option.bind_eq_some_iff.1 (Option.mem_toList.1 height)
    exact isDirective_of_directive? p (by decide) found

end Dimensions

namespace Image

/-- Every directive of an image is in normal form, those for its explicit sizes among them. -/
theorem isDirective_of_mem_ofAlt {p : Prefix} {fit : ObjectFit} {sizes : Dimensions} {alt : Text}
    {d : Directive} (member : d ∈ (ofAlt p fit sizes alt).directives) : IsDirective p d := by
  rcases List.mem_append.1 member with written | sized
  · obtain ⟨o, reported, rfl⟩ := List.mem_map.1 written
    exact Directive.isDirective_ofOccurrence reported
  · exact Dimensions.isDirective_of_mem p sized

theorem isSafe_objectFitProperty (fit : ObjectFit) : Css.IsSafe (objectFitProperty fit) := by
  have name : Css.IsPlain "--ois-default-object-fit".toList := by decide
  have value : Css.IsPlain (objectFitProperty fit).value := by cases fit <;> decide
  exact ⟨name, value.uncut⟩

theorem isSafe_of_mem_ofDirectives {p : Prefix} {fit : ObjectFit} {ds : List Directive}
    (normal : ∀ d ∈ ds, IsDirective p d) (bare : ∀ d ∈ ds, ∀ a ∈ d.args, a.kind ≠ .raw) :
    ∀ q ∈ (ofDirectives fit ds).properties, Css.IsSafe q := by
  intro q member
  rcases List.mem_cons.1 member with rfl | given
  · exact isSafe_objectFitProperty fit
  · obtain ⟨d, directive, made⟩ := List.mem_flatMap.1 given
    obtain ⟨a, argument, rfl⟩ := List.mem_map.1 made
    have isArgument := (normal d directive).args a argument
    exact ⟨Style.isPlain_propertyName (normal d directive).name isArgument,
      Style.uncut_propertyValue isArgument (bare d directive a argument)⟩

/-- Without raw arguments the style attribute of an image is taken apart into exactly the
properties of the image, whatever its strings hold. -/
theorem read_styleAttribute (p : Prefix) (fit : ObjectFit) (sizes : Dimensions) (alt : Text)
    (bare : ∀ d ∈ (ofAlt p fit sizes alt).directives, ∀ a ∈ d.args, a.kind ≠ .raw) :
    Css.declarations? (ofAlt p fit sizes alt).styleAttribute =
      some (ofAlt p fit sizes alt).properties := by
  have normal : ∀ d ∈ (ofAlt p fit sizes alt).directives, IsDirective p d :=
    fun d member => isDirective_of_mem_ofAlt member
  exact Css.declarations?_intercalate (isSafe_of_mem_ofDirectives normal bare)

def misleading : Text :=
  "label-'\";--a: 1;'-by\x7b\\\\\";: \x7d border-1-#fff".toList

theorem read_styleAttribute_misleading :
    (∀ d ∈ (ofAlt .none .fill ⟨some "50%".toList, none⟩ misleading).directives,
      ∀ a ∈ d.args, a.kind ≠ .raw) ∧
    Css.declarations? (ofAlt .none .fill ⟨some "50%".toList, none⟩ misleading).styleAttribute =
      some [⟨"--ois-default-object-fit".toList, "fill".toList⟩,
        ⟨"--ois-label-str".toList, "\"\\\";--a: 1;\"".toList⟩,
        ⟨"--ois-label-by".toList, "\"\\\\\\\";: \"".toList⟩,
        ⟨"--ois-border-num".toList, "1px".toList⟩, ⟨"--ois-border-col".toList, "#fff".toList⟩,
        ⟨"--ois-w-num".toList, "50%".toList⟩] := by
  have bare : ∀ d ∈ (ofAlt .none .fill ⟨some "50%".toList, none⟩ misleading).directives,
      ∀ a ∈ d.args, a.kind ≠ .raw := by decide +kernel
  refine ⟨bare, (read_styleAttribute _ _ _ _ bare).trans ?_⟩
  decide +kernel

/-- In HTML nothing in the style attribute closes its quotes or opens a tag, and a browser gets
the attribute back as it was, also where a value looks like a character reference. -/
theorem withoutReferences_styleAttributeHtml (fit : ObjectFit) (ds : List Directive) :
    ('"' ∉ (ofDirectives fit ds).styleAttributeHtml ∧
        '<' ∉ (ofDirectives fit ds).styleAttributeHtml ∧
        '>' ∉ (ofDirectives fit ds).styleAttributeHtml) ∧
      Text.withoutReferences (ofDirectives fit ds).styleAttributeHtml =
        (ofDirectives fit ds).styleAttribute := by
  have escaped (c : Char) (markup : Text.isMarkup c = true) (other : c ≠ '&') :
      c ∉ (ofDirectives fit ds).styleAttributeHtml := by
    intro member
    exact other (Text.eq_ampersand_of_mem_withReferences member markup)
  refine ⟨⟨?_, ?_, ?_⟩, Text.withoutReferences_withReferences _⟩
  all_goals exact escaped _ (by decide) (by decide)

end Image
end AltStyle
