import AltStyle.Style.Dimensions
import AltStyle.Proofs.Composition
import AltStyle.Proofs.RoundTrip

/-! Sizes that are given apart from the alt text. They style an image as if they were written
behind the text. Nothing in the text can reach into them, because they hold no closing
delimiter, and an argument without a name counts like one with the name of its kind. -/
namespace AltStyle
open Grammar

namespace Argument

def named (a : Argument) : Argument :=
  { a with name := some a.effectiveName }

theorem ofTail_source {l : List Argument} (normal : ∀ a ∈ l, IsArgument a) :
    ofTail (some (l.flatMap source)) = l := by
  have settled : ∀ a ∈ l.map toSource, IsSettled a := by
    intro a member
    obtain ⟨x, inside, rfl⟩ := List.mem_map.1 member
    exact isSettled_toSource (normal x inside)
  have written : (l.map toSource).flatMap (·.text) = l.flatMap source := by
    rw [List.flatMap_map]
    rfl
  rw [← written, ofTail, Source.search_sources settled, filterMap_toSource normal]

end Argument

namespace Directive

def named (d : Directive) : Directive :=
  { d with args := d.args.map Argument.named }

theorem arg?_named (d : Directive) (name : Text) :
    d.named.arg? name = (d.arg? name).map Argument.named := by
  rw [arg?, named, List.find?_map]
  rfl

theorem propertiesOf_named (d : Directive) : Style.propertiesOf d.named = Style.propertiesOf d := by
  rw [Style.propertiesOf, named, List.map_map]
  rfl

end Directive

namespace Image

structure Alike (a b : Image) : Prop where
  classes : a.classes = b.classes
  properties : a.properties = b.properties
  styleAttribute : a.styleAttribute = b.styleAttribute
  labelText : a.labelText? = b.labelText?
  isBanner : a.isBanner = b.isBanner

theorem Alike.symm {a b : Image} (alike : Alike a b) : Alike b a :=
  ⟨alike.classes.symm, alike.properties.symm, alike.styleAttribute.symm, alike.labelText.symm,
    alike.isBanner.symm⟩

theorem Alike.trans {a b c : Image} (one : Alike a b) (other : Alike b c) : Alike a c :=
  ⟨one.classes.trans other.classes, one.properties.trans other.properties,
    one.styleAttribute.trans other.styleAttribute, one.labelText.trans other.labelText,
    one.isBanner.trans other.isBanner⟩

/-- It makes no difference to an image whether the names of arguments are left out. -/
theorem alike_named (fit : ObjectFit) (ds : List Directive) :
    Alike (ofDirectives fit (ds.map Directive.named)) (ofDirectives fit ds) := by
  have properties : (ofDirectives fit (ds.map Directive.named)).properties =
      (ofDirectives fit ds).properties := by
    simp only [ofDirectives, List.flatMap_map, Directive.propertiesOf_named]
  refine ⟨?_, properties, ?_, ?_, ?_⟩
  · simp only [ofDirectives, List.map_map]
    rfl
  · rw [styleAttribute, styleAttribute, properties]
  · have caption (d : Directive) : (d.named.arg? Kind.string.defaultName).bind (·.text?) =
        (d.arg? Kind.string.defaultName).bind (·.text?) := by
      rw [Directive.arg?_named, Option.bind_map]
      rfl
    have filtered : isCaption ∘ Directive.named = isCaption := rfl
    simp only [labelText?, ofDirectives, List.filter_map, List.findSome?_map, filtered,
      Function.comp_def, caption]
  · simp only [isBanner, ofDirectives, List.any_map]
    rfl

end Image

namespace Grammar

def IsSize (s : Text) : Prop :=
  ∃ number unit, IsValue .numeric number ∧ IsUnit unit ∧ s = number ++ unit

theorem isCloser_eq_false (q : Char → Bool) {c : Char}
    (outside : ['"', '\'', '}', '&', ')'].all (fun d => !q d) = true) (inside : q c = true) :
    isCloser c = false := by
  rw [Bool.eq_false_iff]
  intro closer
  exact Text.not_mem_of_class q outside inside (List.contains_iff_mem.1 closer)

theorem IsSize.not_isCloser {s : Text} (size : IsSize s) : ∀ c ∈ s, isCloser c = false := by
  obtain ⟨number, unit, value, measured, rfl⟩ := size
  have numerals := (isValue_numeric_iff.1 value).2
  rw [List.forall_mem_append]
  constructor
  · exact fun c inside => isCloser_eq_false Value.isNumeral (by decide) (numerals c inside)
  · exact measured.forall_mem (fun c => isCloser_eq_false Char.isLower (by decide)) rfl

end Grammar

namespace Dimensions

def sizeText (p : Prefix) (name : Text) : Option Text → Text
  | .none => []
  | some value => ' ' :: (p.text ++ name ++ '-' :: Text.trim value)

def written (p : Prefix) (d : Dimensions) : Text :=
  sizeText p ['w'] d.width ++ sizeText p ['h'] d.height

def sizeArgument (name : Option Text) (number unit : Text) : Argument :=
  ⟨name, .numeric, number, if unit = [] then .none else some unit⟩

theorem source_sizeArgument (name : Option Text) (number unit : Text) :
    (sizeArgument name number unit).source = '-' :: (name.getD [] ++ number ++ unit) := by
  rw [Argument.source, sizeArgument, Text.getD_none_of_nil]
  rfl

theorem isArgument_sizeArgument {name : Option Text} {number unit : Text}
    (named : ∀ n, name = some n → IsWord n) (value : IsValue .numeric number)
    (measured : IsUnit unit) : IsArgument (sizeArgument name number unit) := by
  obtain ⟨some_digit, numerals⟩ := isValue_numeric_iff.1 value
  refine ⟨named, .number some_digit numerals, ?_⟩
  intro u same
  rw [sizeArgument, Option.ite_none_left_eq_some] at same
  cases same.2
  exact ⟨rfl, same.1, measured⟩

theorem directive?_eq_some {value number unit : Text} (name : Text)
    (trimmed : Text.trim value = number ++ unit) (isNumber : IsValue .numeric number)
    (isUnit : IsUnit unit) :
    directive? name value =
      some ⟨name, [sizeArgument (some Kind.numeric.defaultName) number unit]⟩ := by
  have normal : IsArgument (sizeArgument (some Kind.numeric.defaultName) number unit) := by
    apply isArgument_sizeArgument _ isNumber isUnit
    intro n same
    cases same
    exact Kind.isWord_defaultName .numeric
  have found := Argument.ofTail_source (List.forall_mem_singleton.2 normal)
  rw [List.flatMap_singleton, source_sizeArgument, Option.getD_some, List.append_assoc] at found
  have some_char : number ++ unit ≠ [] :=
    List.append_ne_nil_of_left_ne_nil (isValue_numeric_iff.1 isNumber).1 unit
  have unit_back : (sizeArgument (some Kind.numeric.defaultName) number unit).unit.getD [] = unit :=
    Text.getD_none_of_nil unit
  simp only [directive?, trimmed, if_neg some_char, found, unit_back]
  exact if_pos ⟨rfl, rfl, rfl⟩

/-- A size that is written as a directive is read as one, named as it is. -/
theorem parse_sizeText {p : Prefix} {name number unit : Text} (word : IsWord name)
    (isNumber : IsValue .numeric number) (isUnit : IsUnit unit) :
    Directive.parse p (p.text ++ name ++ '-' :: (number ++ unit)) =
      [⟨name, [sizeArgument .none number unit]⟩] := by
  have argument : IsArgument (sizeArgument .none number unit) := by
    apply isArgument_sizeArgument _ isNumber isUnit
    intro n same
    cases same
  have normal : IsDirective p ⟨name, [sizeArgument .none number unit]⟩ :=
    ⟨.word word, List.forall_mem_singleton.2 argument, fun _ => .inr (List.cons_ne_nil _ _)⟩
  have written : Directive.source p [⟨name, [sizeArgument .none number unit]⟩] =
      p.text ++ name ++ '-' :: (number ++ unit) := by
    simp [Directive.source, Directive.write, source_sizeArgument]
  rw [← written]
  exact Directive.scan_source 0 (List.forall_mem_singleton.2 normal)

theorem not_isCloser_sizeText (p : Prefix) {name s : Text} (word : IsWord name) (size : IsSize s) :
    ∀ c ∈ p.text ++ name ++ '-' :: s, isCloser c = false := by
  have marker : ∀ c ∈ p.text, (!isReserved c) = true := by
    simpa using p.unreserved
  rw [List.forall_mem_append, List.forall_mem_append, List.forall_mem_cons]
  exact ⟨⟨fun c inside => isCloser_eq_false (fun d => !isReserved d) (by decide) (marker c inside),
    fun c letter => isCloser_eq_false Char.isLower (by decide) (word.2 c letter)⟩, rfl,
    size.not_isCloser⟩

/-- The text before a size cannot swallow it, since a size closes nothing. -/
theorem parse_append_sizeText {p : Prefix} {name : Text} {value : Option Text} (word : IsWord name)
    (sized : ∀ v, value = some v → IsSize (Text.trim v)) (s : Text) :
    (Directive.parse p (s ++ sizeText p name value)).map Directive.named =
      (Directive.parse p s ++ (value.bind (directive? name)).toList).map Directive.named := by
  cases value with
  | none => simp [sizeText]
  | some v =>
    have closed := not_isCloser_sizeText p word (sized v rfl)
    obtain ⟨number, unit, isNumber, isUnit, trimmed⟩ := sized v rfl
    rw [sizeText, Directive.parse_append_blank rfl (.inr closed), trimmed,
      parse_sizeText word isNumber isUnit, Option.bind_some,
      directive?_eq_some name trimmed isNumber isUnit, List.map_append, List.map_append]
    rfl

end Dimensions

/-- Explicit sizes style an image as if they were written behind its alt text, whatever the text
leaves open. -/
theorem Image.ofAlt_alike_written (p : Prefix) (fit : ObjectFit) {d : Dimensions}
    (width : ∀ v, d.width = some v → IsSize (Text.trim v))
    (height : ∀ v, d.height = some v → IsSize (Text.trim v)) (alt : Text) :
    Image.Alike (Image.ofAlt p fit d alt) (Image.ofAlt p fit .none (alt ++ d.written p)) := by
  have word (c : Char) (letter : c.isLower = true) : IsWord [c] :=
    ⟨List.cons_ne_nil c [], List.forall_mem_singleton.2 letter⟩
  have front := Dimensions.parse_append_sizeText (word 'w' rfl) width alt (p := p)
  have same : (Directive.parse p (alt ++ d.written p)).map Directive.named =
      (Directive.parse p alt ++ d.directives).map Directive.named := by
    rw [Dimensions.written, ← List.append_assoc,
      Dimensions.parse_append_sizeText (word 'h' rfl) height, List.map_append, front,
      ← List.map_append, List.append_assoc]
    rfl
  have apart := Image.alike_named fit (Directive.parse p alt ++ d.directives)
  have together := Image.alike_named fit (Directive.parse p (alt ++ d.written p))
  rw [same] at together
  have nothing : Image.ofAlt p fit .none (alt ++ d.written p) =
      Image.ofDirectives fit (Directive.parse p (alt ++ d.written p)) := by
    rw [Image.ofAlt]
    exact congrArg (Image.ofDirectives fit) (List.append_nil _)
  rw [nothing]
  exact apart.symm.trans together

def Image.unclosed (p : Prefix) : Image :=
  Image.ofAlt p .fill ⟨some " 50% ".toList, some "1.5em".toList⟩ ".label-\"x\" .note-\"y".toList

/-- The text ends inside a string that nothing closes. It makes no directive, but the sizes
behind it do. -/
theorem Image.ofAlt_alike_written_unclosed :
    IsSize (Text.trim " 50% ".toList) ∧ IsSize (Text.trim "1.5em".toList) ∧
      Image.Alike (unclosed ⟨['.'], rfl, rfl⟩)
        (Image.ofAlt ⟨['.'], rfl, rfl⟩ .fill .none
          ".label-\"x\" .note-\"y .w-50% .h-1.5em".toList) ∧
      (unclosed ⟨['.'], rfl, rfl⟩).classes =
        ["ois", "ois-label", "ois-w", "ois-h"].map String.toList ∧
      (unclosed ⟨['.'], rfl, rfl⟩).properties.map (String.ofList ·.text) =
        ["--ois-default-object-fit: fill;", "--ois-label-str: \"x\";", "--ois-w-num: 50%;",
          "--ois-h-num: 1.5em;"] ∧
      (unclosed ⟨['.'], rfl, rfl⟩).labelText? = some ['x'] := by
  have width : IsSize (Text.trim " 50% ".toList) :=
    ⟨"50".toList, ['%'], .number (by decide) (List.all_eq_true.1 (by decide)),
      ⟨[], List.forall_mem_nil _, .inr rfl⟩, by decide⟩
  have height : IsSize (Text.trim "1.5em".toList) :=
    ⟨"1.5".toList, "em".toList, .number (by decide) (List.all_eq_true.1 (by decide)),
      ⟨"em".toList, List.all_eq_true.1 (by decide), .inl rfl⟩, by decide⟩
  refine ⟨width, height, ?_, by decide +kernel, by decide +kernel, by decide +kernel⟩
  apply Image.ofAlt_alike_written (d := ⟨some " 50% ".toList, some "1.5em".toList⟩)
  · intro v same
    cases same
    exact width
  · intro v same
    cases same
    exact height

end AltStyle
