import AltStyle.Proofs.Declarations

/-! Custom properties looked up by name. A name joins that of a directive to that of an argument
by the hyphen that names of directives hold as well. Names of arguments hold none, so the last
hyphen tells the two apart, and a property has the value of the last argument with both names. -/
namespace AltStyle
open Grammar

namespace Text

theorem append_hyphen_inj {s t a b : Text} (one : '-' ∉ a) (other : '-' ∉ b) :
    s ++ '-' :: a = t ++ '-' :: b ↔ s = t ∧ a = b := by
  constructor
  · intro same
    rcases List.append_eq_append_iff.1 same with ⟨r, rfl, rest⟩ | ⟨r, rfl, rest⟩
    -- whatever one front has more than the other would put a hyphen into the end of the other
    · cases r with
      | nil => simpa using rest
      | cons c r =>
        cases rest
        simp at one
    · cases r with
      | nil => simpa [eq_comm] using rest
      | cons c r =>
        cases rest
        simp at other
  · rintro ⟨rfl, rfl⟩
    rfl

end Text

namespace Argument

/-- What an argument sets its property to in a directive of the given name: a number with its own
unit or else with that of the directive, if there is one, and any other value as it is. -/
def shown (x : Argument) (directive : Text) : Text :=
  match x.kind, x.unit, Style.defaultUnit? directive with
  | .numeric, some own, _ => x.value ++ own
  | .numeric, none, some default => x.value ++ default
  | .numeric, none, none => x.value
  | _, _, _ => x.value

end Argument

namespace Directive

def argumentsOf (ds : List Directive) (directive argument : Text) : List Argument :=
  ((ds.filter (·.name = directive)).flatMap (·.args)).filter (·.effectiveName = argument)

theorem argumentsOf_append (ds es : List Directive) (n a : Text) :
    argumentsOf (ds ++ es) n a = argumentsOf ds n a ++ argumentsOf es n a := by
  simp [argumentsOf]

end Directive

namespace Style

def customProperty (directive argument : Text) : Text :=
  "--ois-".toList ++ directive ++ '-' :: argument

theorem propertyName_eq (d : Directive) (x : Argument) :
    propertyName d x = customProperty d.name x.effectiveName := by
  have front : "--".toList ++ rootClass ++ ['-'] = "--ois-".toList := by decide
  have joined : propertyName d x =
      "--".toList ++ rootClass ++ ['-'] ++ d.name ++ '-' :: x.effectiveName :=
    List.append_assoc _ _ _
  rw [front] at joined
  exact joined

theorem hyphen_not_mem_of_isWord {a : Text} (word : IsWord a) : '-' ∉ a := by
  intro member
  exact absurd (word.2 '-' member) (by decide)

/-- Names of arguments hold no hyphen, so the last one in the name of a property divides it. -/
theorem customProperty_inj {n m a b : Text} (one : IsWord a) (other : IsWord b) :
    customProperty n a = customProperty m b ↔ n = m ∧ a = b := by
  apply (Text.append_hyphen_inj (hyphen_not_mem_of_isWord one)
    (hyphen_not_mem_of_isWord other)).trans
  exact and_congr_left' (List.append_right_inj _)

theorem propertyName_eq_iff {d : Directive} {x : Argument} {n a : Text} (normal : IsArgument x)
    (word : IsWord a) :
    propertyName d x = customProperty n a ↔ d.name = n ∧ x.effectiveName = a := by
  rw [propertyName_eq, customProperty_inj (Argument.isWord_effectiveName normal) word]

theorem propertyValue_eq_shown (d : Directive) (x : Argument) :
    propertyValue d x = x.shown d.name := by
  unfold propertyValue Argument.shown
  cases x.kind
  all_goals cases x.unit
  all_goals cases defaultUnit? d.name
  all_goals simp

theorem filter_propertiesOf {p : Prefix} {d : Directive} {n a : Text} (normal : IsDirective p d)
    (word : IsWord a) :
    (propertiesOf d).filter (·.name = customProperty n a) =
      (Directive.argumentsOf [d] n a).map fun x => ⟨customProperty n a, x.shown n⟩ := by
  have named : ∀ x ∈ d.args,
      (propertyName d x = customProperty n a ↔ d.name = n ∧ x.effectiveName = a) :=
    fun x inside => propertyName_eq_iff (normal.args x inside) word
  by_cases same : d.name = n
  · have selected : Directive.argumentsOf [d] n a =
        d.args.filter fun x => propertyName d x = customProperty n a := by
      simp only [Directive.argumentsOf, List.filter_cons, same, decide_true, if_true,
        List.filter_nil, List.flatMap_cons, List.flatMap_nil, List.append_nil]
      apply List.filter_congr
      intro x inside
      simp [named x inside, same]
    rw [selected, propertiesOf, List.filter_map]
    apply List.map_congr_left
    intro x inside
    have own : propertyName d x = customProperty n a := by simpa using (List.mem_filter.1 inside).2
    rw [own, propertyValue_eq_shown, same]
  · have nothing : Directive.argumentsOf [d] n a = [] := by simp [Directive.argumentsOf, same]
    rw [nothing, List.map_nil, List.filter_eq_nil_iff]
    intro q member
    obtain ⟨x, inside, rfl⟩ := List.mem_map.1 member
    simp [named x inside, same]

end Style

namespace Image
open Style

/-- The properties of one name are set by the arguments with both names, one after another. -/
theorem filter_properties {p : Prefix} {ds : List Directive} {n a : Text}
    (normal : ∀ d ∈ ds, IsDirective p d) (word : IsWord a) :
    (ds.flatMap propertiesOf).filter (·.name = customProperty n a) =
      (Directive.argumentsOf ds n a).map fun x => ⟨customProperty n a, x.shown n⟩ := by
  induction ds with
  | nil => rfl
  | cons d ds ih =>
    obtain ⟨first, others⟩ := List.forall_mem_cons.1 normal
    rw [List.flatMap_cons, List.filter_append, filter_propertiesOf first word, ih others,
      ← List.map_append, ← Directive.argumentsOf_append, List.singleton_append]

theorem property?_eq_getLast? (image : Image) (name : Text) :
    image.property? name = (image.properties.filter (·.name = name)).getLast?.map (·.value) := by
  rw [property?, ← List.head?_filter, List.filter_reverse, List.head?_reverse]

/-- The default fit counts as set before everything else. -/
theorem property?_ofDirectives {p : Prefix} {ds : List Directive} {n a : Text} (fit : ObjectFit)
    (normal : ∀ d ∈ ds, IsDirective p d) (word : IsWord a) :
    (ofDirectives fit ds).property? (customProperty n a) =
      ((Directive.argumentsOf ds n a).getLast?.map (·.shown n)).or
        (if n = "default-object".toList ∧ a = "fit".toList then some fit.name else none) := by
  have fitWord : IsWord "fit".toList := by decide
  have default : (objectFitProperty fit).name = customProperty n a ↔
      n = "default-object".toList ∧ a = "fit".toList := by
    have parts : (objectFitProperty fit).name =
        customProperty "default-object".toList "fit".toList := rfl
    rw [parts, eq_comm, customProperty_inj word fitWord]
  -- the object fit is set before everything else, so each argument with its name overrides it
  have split : (ofDirectives fit ds).properties =
      [objectFitProperty fit] ++ ds.flatMap propertiesOf := rfl
  rw [property?_eq_getLast?, split, List.filter_append, filter_properties normal word,
    List.getLast?_append, Option.map_or, List.getLast?_map, Option.map_map]
  congr 1
  by_cases own : n = "default-object".toList ∧ a = "fit".toList
  · rw [if_pos own, List.filter_cons_of_pos (by simpa using default.2 own)]
    rfl
  · rw [if_neg own, List.filter_cons_of_neg (by simpa [default] using own)]
    rfl

/-- A property has the value of the last argument that has its two names, and no other argument
has a property of that name. Only the object fit is there without an argument. -/
theorem property?_ofAlt (p : Prefix) (fit : ObjectFit) (sizes : Dimensions) (alt n : Text) {a : Text}
    (word : IsWord a) :
    (ofAlt p fit sizes alt).property? (customProperty n a) =
        ((Directive.argumentsOf (ofAlt p fit sizes alt).directives n a).getLast?.map
          (·.shown n)).or
          (if n = "default-object".toList ∧ a = "fit".toList then some fit.name else none) ∧
      ∀ d ∈ (ofAlt p fit sizes alt).directives, ∀ x ∈ d.args,
        (propertyName d x = customProperty n a ↔ d.name = n ∧ x.effectiveName = a) := by
  have normal : ∀ d ∈ (ofAlt p fit sizes alt).directives, IsDirective p d :=
    fun d member => isDirective_of_mem_ofAlt member
  refine ⟨property?_ofDirectives fit normal word, ?_⟩
  intro d member x inside
  exact propertyName_eq_iff ((normal d member).args x inside) word

def contested : Image :=
  ofAlt .none .fill ⟨some "3".toList, none⟩ "w-1em w-x2 default-object-fit&none& up-w-4".toList

theorem property?_ofAlt_contested :
    IsWord "num".toList ∧ contested.property? "--ois-w-num".toList = some "3px".toList ∧
      IsWord "fit".toList ∧
      contested.property? "--ois-default-object-fit".toList = some "none".toList := by
  have number : IsWord "num".toList := by decide
  have fit : IsWord "fit".toList := by decide
  refine ⟨number, (property?_ofAlt .none .fill _ _ ['w'] number).1.trans ?_, fit,
    (property?_ofAlt .none .fill _ _ "default-object".toList fit).1.trans ?_⟩
  all_goals decide +kernel

end Image

end AltStyle
