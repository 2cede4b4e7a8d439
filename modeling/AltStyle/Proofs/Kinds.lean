import AltStyle.Proofs.Arguments

/-! The kind of a value is determined by its form, so that no argument that is found is dropped. -/
namespace AltStyle
open Grammar

namespace Value

theorem isWhole_iff {reader : Text → Option (Text × Text)} (splits : Splits reader) {s : Text} :
    isWhole reader s = true ↔ reader s = some (s, []) := by
  unfold isWhole
  constructor
  · intro whole
    split at whole
    · next v found =>
      have same := (splits s v [] found).1
      rw [List.append_nil] at same
      rw [found, same]
    · cases whole
  · intro found
    rw [found]

theorem isWhole_functionalColor?_iff {v : Text} :
    isWhole functionalColor? v = true ↔ IsFunctionalColor v := by
  rw [isWhole_iff splits_functionalColor?, functionalColor?_eq_some_iff]
  simp

end Value

namespace Kind

/-- The checker of a kind accepts exactly the values that the grammar gives it. -/
theorem accepts_iff {k : Kind} {v : Text} : accepts k v = true ↔ IsValue k v := by
  cases k with
  | numeric =>
    rw [accepts, Value.isWhole_iff Value.splits_number?, Value.number?_eq_some_iff]
    simp
  | string =>
    rw [accepts, Value.isWhole_iff Value.splits_string?, Value.string?_eq_some_iff]
    simp
  | color =>
    rw [accepts, Bool.or_eq_true, Value.isWhole_functionalColor?_iff,
      Value.isWhole_iff Value.splits_hexColor?, Value.hexColor?_eq_some_iff, isValue_color_iff]
    simp
  | raw =>
    rw [accepts, Value.isWhole_iff Value.splits_raw?, Value.raw?_eq_some_iff]
    simp

theorem ofValue?_eq_some_iff {k : Kind} {v : Text} : ofValue? v = some k ↔ IsValue k v := by
  constructor
  · intro found
    unfold ofValue? at found
    split at found
    · next l only =>
      cases found
      have member : k ∈ all.filter (·.accepts v) := only ▸ List.mem_singleton.2 rfl
      exact accepts_iff.1 (List.mem_filter.1 member).2
    · cases found
  · intro value
    have only : all.filter (·.accepts v) = all.filter (· = k) := by
      apply List.filter_congr
      intro l _
      rw [Bool.eq_iff_iff, accepts_iff, decide_eq_true_iff]
      constructor
      · intro other
        exact other.kind_eq value
      · intro same
        exact same ▸ value
    unfold ofValue?
    rw [only]
    cases k
    all_goals rfl

theorem ofValue?_eq_none_iff {v : Text} : ofValue? v = none ↔ ∀ k : Kind, k.accepts v = false := by
  rw [Option.eq_none_iff_forall_ne_some]
  apply forall_congr'
  intro k
  rw [ne_eq, ofValue?_eq_some_iff, ← accepts_iff, Bool.not_eq_true]

end Kind

namespace Argument.Source

theorem kind_of_argument? {a : Source} {x : Argument} (argument : a.argument? = some x) :
    Kind.ofValue? a.value = some x.kind := by
  obtain ⟨k, kind, rfl⟩ := Option.map_eq_some_iff.1 argument
  exact kind

/-- No argument is dropped for want of a kind. -/
theorem exists_argument {a : Source} (source : IsSource a) : ∃ x, a.argument? = some x := by
  obtain ⟨k, value⟩ := source.value
  unfold argument?
  rw [Kind.ofValue?_eq_some_iff.2 value]
  exact ⟨_, rfl⟩

end Argument.Source
end AltStyle
