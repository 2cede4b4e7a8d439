import AltStyle.Proofs.CustomProperties
import AltStyle.Proofs.Sizes

/-! Which sizes count that are given apart from the alt text. A size is glued behind the name of
an argument and searched for arguments; what is found has to be one number that is written like
the whole size. So numbers with a unit or without one count and nothing else does. The others
leave the image as it is without them. -/
namespace AltStyle
open Grammar

namespace Grammar

theorem isUnit_iff {s : Text} :
    IsUnit s ↔ s.dropWhile Char.isLower = [] ∨ s.dropWhile Char.isLower = ['%'] := by
  constructor
  · rintro ⟨letters, lower, rfl | rfl⟩
    · exact .inl (List.dropWhile_eq_nil_iff.2 lower)
    · exact .inr (Text.dropWhile_run lower (Text.stops_cons.2 (by decide)))
  · intro rest
    refine ⟨s.takeWhile Char.isLower, fun c inside => List.mem_takeWhile_imp inside, ?_⟩
    have whole := List.takeWhile_append_dropWhile (p := Char.isLower) (l := s)
    apply rest.imp
    · intro nothing
      simpa [nothing] using whole.symm
    · intro percent
      simpa [percent] using whole.symm

theorem isSize_iff {s : Text} :
    IsSize s ↔ s.takeWhile Value.isNumeral ≠ [] ∧ IsUnit (s.dropWhile Value.isNumeral) := by
  constructor
  · rintro ⟨number, unit, value, measured, rfl⟩
    obtain ⟨some_digit, numerals⟩ := isValue_numeric_iff.1 value
    have ends := measured.stops (by decide) fun _ => Value.isNumeral_of_isLower
    rw [Text.takeWhile_run numerals ends, Text.dropWhile_run numerals ends]
    exact ⟨some_digit, measured⟩
  · rintro ⟨some_digit, measured⟩
    exact ⟨_, _, .number some_digit fun c inside => List.mem_takeWhile_imp inside, measured,
      List.takeWhile_append_dropWhile.symm⟩

instance (s : Text) : Decidable (IsSize s) :=
  decidable_of_iff _ (isSize_iff.trans (and_congr_right' isUnit_iff)).symm

end Grammar

namespace Dimensions

def sizeDirective (name size : Text) : Directive :=
  ⟨name, [sizeArgument (some "num".toList) (size.takeWhile Value.isNumeral)
    (size.dropWhile Value.isNumeral)]⟩

def sized (name : Text) : Option Text → List Directive
  | .none => []
  | some v => if IsSize (Text.trim v) then [sizeDirective name (Text.trim v)] else []

def inPixels (size : Text) : Text :=
  size.takeWhile Value.isNumeral ++
    if size.dropWhile Value.isNumeral = [] then "px".toList else size.dropWhile Value.isNumeral

theorem isSize_of_directive? {name value : Text} {d : Directive}
    (found : directive? name value = some d) : IsSize (Text.trim value) := by
  obtain ⟨a, _, normal, number, same⟩ := exists_number_of_directive? found
  have digits : IsValue .numeric a.value := by
    have value := normal.value
    rw [number] at value
    cases value with
    | number some_digit numerals => exact .number some_digit numerals
  refine ⟨a.value, a.unit.getD [], digits, ?_, same.symm⟩
  cases measured : a.unit with
  | none => exact isUnit_nil
  | some u => exact (normal.unit u measured).2.2

/-- A size makes a directive exactly if the grammar has it. -/
theorem directive?_eq (name value : Text) :
    directive? name value =
      if IsSize (Text.trim value) then some (sizeDirective name (Text.trim value)) else .none := by
  split
  · next size =>
    obtain ⟨some_digit, measured⟩ := isSize_iff.1 size
    have numerals : IsValue .numeric ((Text.trim value).takeWhile Value.isNumeral) :=
      .number some_digit fun c inside => List.mem_takeWhile_imp inside
    exact directive?_eq_some name List.takeWhile_append_dropWhile.symm numerals measured
  · next other =>
    rw [Option.eq_none_iff_forall_ne_some]
    intro d found
    exact other (isSize_of_directive? found)

theorem directives_eq (width height : Option Text) :
    (Dimensions.mk width height).directives = sized ['w'] width ++ sized ['h'] height := by
  have single (name : Text) (value : Option Text) :
      (value.bind (directive? name)).toList = sized name value := by
    cases value with
    | none => rfl
    | some v =>
      rw [Option.bind_some, directive?_eq, sized]
      split
      all_goals rfl
  rw [directives, single, single]

theorem name_of_mem_sized {name : Text} {value : Option Text} {d : Directive}
    (member : d ∈ sized name value) : d.name = name := by
  cases value with
  | none => cases member
  | some v =>
    rw [sized] at member
    split at member
    · rw [List.mem_singleton.1 member]
      rfl
    · cases member

theorem shown_sizeArgument {directive : Text}
    (pixels : Style.defaultUnit? directive = some "px".toList) (name : Option Text)
    (number unit : Text) :
    (sizeArgument name number unit).shown directive =
      number ++ if unit = [] then "px".toList else unit := by
  by_cases bare : unit = []
  · simp [sizeArgument, Argument.shown, bare, pixels]
  · simp [sizeArgument, Argument.shown, bare]

theorem argumentsOf_sizeDirective (name size : Text) :
    Directive.argumentsOf [sizeDirective name size] name "num".toList =
      (sizeDirective name size).args := by
  simp [Directive.argumentsOf, sizeDirective, sizeArgument, Argument.effectiveName]

theorem argumentsOf_eq_nil {ds : List Directive} {name : Text} (apart : ∀ d ∈ ds, d.name ≠ name)
    (argument : Text) : Directive.argumentsOf ds name argument = [] := by
  have nothing : ds.filter (·.name = name) = [] := by simpa using apart
  rw [Directive.argumentsOf, nothing]
  rfl

end Dimensions

namespace Image
open Dimensions Style

/-- The last size of a name counts, whatever the directives before it set. -/
theorem property?_size {p : Prefix} {before after : List Directive} {name size : Text}
    (fit : ObjectFit) (normal : ∀ d ∈ before ++ sizeDirective name size :: after, IsDirective p d)
    (apart : ∀ d ∈ after, d.name ≠ name) (pixels : defaultUnit? name = some "px".toList) :
    (ofDirectives fit (before ++ sizeDirective name size :: after)).property?
      (customProperty name "num".toList) = some (inPixels size) := by
  have word : IsWord "num".toList := by decide
  have last : (Directive.argumentsOf (before ++ sizeDirective name size :: after) name
      "num".toList).getLast? = (sizeDirective name size).args.getLast? := by
    rw [← List.singleton_append, Directive.argumentsOf_append, Directive.argumentsOf_append,
      argumentsOf_sizeDirective, argumentsOf_eq_nil apart]
    simp [sizeDirective]
  rw [property?_ofDirectives fit normal word, last, sizeDirective, List.getLast?_singleton,
    Option.map_some, shown_sizeArgument pixels]
  rfl

/-- An explicit size counts exactly if it is one number with a unit or without one, and then it
counts whatever the alt text says. Otherwise the image is as it is without the size. Width and
height do not depend on each other. -/
theorem ofAlt_sizes (p : Prefix) (fit : ObjectFit) (alt v : Text) (other : Option Text) :
    (IsSize (Text.trim v) →
      (ofAlt p fit ⟨some v, other⟩ alt).directives =
          Directive.parse p alt ++ sizeDirective ['w'] (Text.trim v) :: sized ['h'] other ∧
        (ofAlt p fit ⟨some v, other⟩ alt).property? "--ois-w-num".toList =
          some (inPixels (Text.trim v)) ∧
        (ofAlt p fit ⟨other, some v⟩ alt).directives =
          Directive.parse p alt ++ sized ['w'] other ++ [sizeDirective ['h'] (Text.trim v)] ∧
        (ofAlt p fit ⟨other, some v⟩ alt).property? "--ois-h-num".toList =
          some (inPixels (Text.trim v))) ∧
      (¬ IsSize (Text.trim v) →
        ofAlt p fit ⟨some v, other⟩ alt = ofAlt p fit ⟨none, other⟩ alt ∧
          ofAlt p fit ⟨other, some v⟩ alt = ofAlt p fit ⟨other, none⟩ alt) := by
  constructor
  · intro size
    have given (name : Text) : sized name (some v) = [sizeDirective name (Text.trim v)] :=
      if_pos size
    have normal (sizes : Dimensions) : ∀ d ∈ (ofAlt p fit sizes alt).directives, IsDirective p d :=
      fun d member => isDirective_of_mem_ofAlt member
    have width : ofAlt p fit ⟨some v, other⟩ alt = ofDirectives fit
        (Directive.parse p alt ++ sizeDirective ['w'] (Text.trim v) :: sized ['h'] other) := by
      rw [ofAlt, directives_eq, given, List.singleton_append]
    have height : ofAlt p fit ⟨other, some v⟩ alt = ofDirectives fit
        (Directive.parse p alt ++ sized ['w'] other ++ [sizeDirective ['h'] (Text.trim v)]) := by
      rw [ofAlt, directives_eq, given, List.append_assoc]
    refine ⟨congrArg directives width, ?_, congrArg directives height, ?_⟩
    · -- only a directive for the height can follow, and that has another name
      have name : "--ois-w-num".toList = customProperty ['w'] "num".toList := by decide
      have all := normal ⟨some v, other⟩
      rw [width] at all ⊢
      rw [name]
      apply property?_size fit all _ rfl
      intro d member
      rw [name_of_mem_sized member]
      decide
    · have name : "--ois-h-num".toList = customProperty ['h'] "num".toList := by decide
      have all := normal ⟨other, some v⟩
      rw [height] at all ⊢
      rw [name]
      exact property?_size fit all (List.forall_mem_nil _) rfl
  · intro unlike
    have nothing (name : Text) : sized name (some v) = [] := if_neg unlike
    simp only [ofAlt, directives_eq, nothing]
    exact ⟨rfl, rfl⟩

/-- The second value is found as one number of the right name, but it is written in other words. -/
theorem ofAlt_sizes_renamed :
    IsSize (Text.trim " 1.5em ".toList) ∧ ¬ IsSize (Text.trim "-num5".toList) ∧
      (ofAlt .none .cover ⟨some " 1.5em ".toList, some "7".toList⟩ "w-2".toList).directives =
        [⟨['w'], [⟨none, .numeric, ['2'], none⟩]⟩,
          ⟨['w'], [⟨some "num".toList, .numeric, "1.5".toList, some "em".toList⟩]⟩,
          ⟨['h'], [⟨some "num".toList, .numeric, ['7'], none⟩]⟩] ∧
      (ofAlt .none .cover ⟨some " 1.5em ".toList, some "7".toList⟩ "w-2".toList).property?
        "--ois-w-num".toList = some "1.5em".toList ∧
      ofAlt .none .cover ⟨some "-num5".toList, some "7".toList⟩ "w-2".toList =
        ofAlt .none .cover ⟨none, some "7".toList⟩ "w-2".toList := by
  have size : IsSize (Text.trim " 1.5em ".toList) := by decide
  have unlike : ¬ IsSize (Text.trim "-num5".toList) := by decide
  have counts := (ofAlt_sizes .none .cover "w-2".toList _ (some "7".toList)).1 size
  refine ⟨size, unlike, counts.1.trans ?_, counts.2.1,
    ((ofAlt_sizes .none .cover _ _ _).2 unlike).1⟩
  decide +kernel

end Image

end AltStyle
