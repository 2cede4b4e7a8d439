import AltStyle.Proofs.Values

/-! Written arguments side by side. One argument ends where white space, the hyphen of the next
one or nothing follows, so the arguments of a text are found in it whether they are taken from
its front or searched for. Only the letters between a hexadecimal color and its unit could
belong to either; a settled argument gives the color all that it can have. -/
namespace AltStyle
open Grammar Argument

namespace Grammar

def Follows (s : Text) : Prop :=
  ∀ c r, s = c :: r → c = '-' ∨ Text.isWhiteSpace c = true

theorem Follows.stops {p : Char → Bool} {s : Text} (follows : Follows s) (hyphen : p '-' = false)
    (visible : ∀ c, p c = true → Text.isWhiteSpace c = false) : Text.Stops p s := by
  intro c r same
  rw [Bool.eq_false_iff]
  intro inside
  rcases follows c r same with other | blank
  · subst other
    rw [hyphen] at inside
    cases inside
  · rw [visible c inside] at blank
    cases blank

theorem follows_nil : Follows [] := by
  intro c r same
  cases same

theorem follows_of_endsBefore {s : Text} (ends : Body.endsBefore s = true) : Follows s := by
  intro c r same
  subst same
  exact .inr ends

theorem follows_text_append (a : Source) (s : Text) : Follows (a.text ++ s) := by
  intro c r same
  cases same
  exact .inl rfl

theorem follows_sources (l : List Source) {rest : Text} (follows : Follows rest) :
    Follows (l.flatMap (·.text) ++ rest) := by
  cases l with
  | nil => exact follows
  | cons a l =>
    rw [List.flatMap_cons, List.append_assoc]
    exact follows_text_append a _

theorem flatMap_text_eq_nil_iff {l : List Source} : l.flatMap (·.text) = [] ↔ l = [] := by
  cases l with
  | nil => exact iff_of_true rfl rfl
  | cons a l => simp [Source.text]

theorem isUnit_nil : IsUnit [] :=
  ⟨[], by simp, .inl rfl⟩

theorem IsUnit.stops {p : Char → Bool} {u : Text} (unit : IsUnit u) (percent : p '%' = false)
    (letters : ∀ c, c.isLower = true → p c = false) : Text.Stops p u := by
  obtain ⟨l, lower, same⟩ := unit
  have front : Text.Stops p l := by
    intro c r same
    exact letters c (lower c (same ▸ List.mem_cons_self))
  rcases same with rfl | rfl
  · exact front
  · exact front.append (Text.stops_cons.2 percent)

theorem IsUnit.dropWhile {p : Char → Bool} {u : Text} (unit : IsUnit u) (percent : p '%' = false) :
    IsUnit (u.dropWhile p) := by
  obtain ⟨l, lower, same⟩ := unit
  have fewer : ∀ c ∈ l.dropWhile p, c.isLower = true := fun c inside =>
    lower c ((List.dropWhile_sublist p).subset inside)
  refine ⟨l.dropWhile p, fewer, ?_⟩
  rcases same with rfl | rfl
  · exact .inl rfl
  · right
    rw [List.dropWhile_append]
    split
    · next nothing =>
      rw [List.isEmpty_iff.1 nothing, Text.dropWhile_of_stops (Text.stops_cons.2 percent)]
      rfl
    · rfl

theorem IsUnit.forall_mem {P : Char → Prop} {u : Text} (unit : IsUnit u)
    (letters : ∀ c, c.isLower = true → P c) (percent : P '%') : ∀ c ∈ u, P c := by
  obtain ⟨l, lower, same⟩ := unit
  have front : ∀ c ∈ l, P c := fun c inside => letters c (lower c inside)
  rcases same with rfl | rfl
  · exact front
  · exact List.forall_mem_append.2 ⟨front, List.forall_mem_singleton.2 percent⟩

theorem IsUnit.visible {u : Text} (unit : IsUnit u) : ∀ c ∈ u, Text.isWhiteSpace c = false :=
  unit.forall_mem (fun _ => Text.isWhiteSpace_of_isLower) (by decide)

theorem isUnit_readUnit (s : Text) : IsUnit (Source.readUnit s).1 := by
  have lower : ∀ c ∈ s.takeWhile Char.isLower, c.isLower = true := fun c inside =>
    List.mem_takeWhile_imp inside
  unfold Source.readUnit
  split
  · exact ⟨_, lower, .inr rfl⟩
  · exact ⟨_, lower, .inl rfl⟩

theorem readUnit_append {u rest : Text} (unit : IsUnit u)
    (letters : Text.Stops Char.isLower rest) (percent : Text.Stops (· == '%') rest) :
    Source.readUnit (u ++ rest) = (u, rest) := by
  obtain ⟨l, lower, same⟩ := unit
  unfold Source.readUnit
  rcases same with rfl | rfl
  · rw [Text.takeWhile_run lower letters, Text.dropWhile_run lower letters]
    split
    · exact absurd (Text.stops_cons.1 percent) (by decide)
    · rfl
  · have ends : Text.Stops Char.isLower ('%' :: rest) := Text.stops_cons.2 (by decide)
    rw [List.append_assoc, List.singleton_append, Text.takeWhile_run lower ends,
      Text.dropWhile_run lower ends]
    rfl

/-- An argument whose unit takes nothing away from a hexadecimal color. -/
structure IsSettled (a : Source) : Prop extends IsSource a where
  settled : IsHexColor a.value → Text.Stops Text.isHexDigit a.unit

theorem IsSource.visible_name {a : Source} (source : IsSource a) :
    ∀ c ∈ '-' :: a.name, Text.isWhiteSpace c = false :=
  List.forall_mem_cons.2
    ⟨by decide, fun c letter => Text.isWhiteSpace_of_isLower (source.name c letter)⟩

theorem IsSource.endsVisibly {a : Source} (source : IsSource a) :
    Text.EndsVisibly a.text := by
  obtain ⟨k, value⟩ := source.value
  have before := Text.endsVisibly_of_forall source.visible_name
  have after := Text.endsVisibly_of_forall source.unit.visible
  have whole := (before.append value.endsVisibly).append after
  simpa [Source.text] using whole

/-- Every written argument has a settled reading. -/
theorem IsSource.exists_settled {a : Source} (source : IsSource a) :
    ∃ b, IsSettled b ∧ b.text = a.text := by
  by_cases hex : IsHexColor a.value
  · -- the digits at the front of the unit go over to the color
    obtain ⟨digits, hexDigits, same⟩ := hex
    let more := a.unit.takeWhile Text.isHexDigit
    have all : ∀ c ∈ digits ++ more, Text.isHexDigit c = true := by
      intro c inside
      rcases List.mem_append.1 inside with old | new
      · exact hexDigits c old
      · exact List.mem_takeWhile_imp new
    refine ⟨⟨a.name, '#' :: (digits ++ more), a.unit.dropWhile Text.isHexDigit⟩, ?_, ?_⟩
    · exact {
        name := source.name
        value := ⟨.color, .hexColor all⟩
        unit := source.unit.dropWhile (by decide)
        settled := fun _ => Text.stops_dropWhile _ _ }
    · have whole : more ++ a.unit.dropWhile Text.isHexDigit = a.unit :=
        List.takeWhile_append_dropWhile
      simp [Source.text, same, whole]
  · exact ⟨a, ⟨source, fun color => absurd color hex⟩, rfl⟩

theorem exists_settled_sources {l : List Source} (sources : ∀ a ∈ l, IsSource a) :
    ∃ m : List Source, (∀ a ∈ m, IsSettled a) ∧ m.map (·.text) = l.map (·.text) := by
  induction l with
  | nil => exact ⟨[], by simp, rfl⟩
  | cons a l ih =>
    obtain ⟨b, settled, same⟩ := (sources a List.mem_cons_self).exists_settled
    obtain ⟨m, others, equal⟩ := ih fun c inside => sources c (List.mem_cons_of_mem a inside)
    refine ⟨b :: m, ?_, ?_⟩
    · intro c inside
      rcases List.mem_cons.1 inside with first | later
      · exact first ▸ settled
      · exact others c later
    · rw [List.map_cons, List.map_cons, same, equal]

end Grammar

namespace Argument.Source

/-- Soundness: what is read is in the form in which it would be read again. -/
theorem isSettled_of_read? {s rest : Text} {a : Source} (found : read? s = some (a, rest)) :
    IsSettled a := by
  unfold read? at found
  split at found
  · next s =>
    obtain ⟨⟨v, tail⟩, inner, same⟩ := Option.map_eq_some_iff.1 found
    cases same
    obtain ⟨value, whole, hex⟩ := Value.isValue_of_read? inner
    refine {
      name := fun c letter => List.mem_takeWhile_imp letter
      value := value
      unit := isUnit_readUnit tail
      settled := ?_ }
    intro color
    have ends := hex color
    rw [← append_readUnit tail] at ends
    exact ends.left
  · cases found

/-- Completeness: a settled argument is read as a whole if nothing behind it can belong to it. -/
theorem read?_text_append {a : Source} {rest : Text} (settled : IsSettled a)
    (follows : Follows rest) : read? (a.text ++ rest) = some (a, rest) := by
  obtain ⟨name, value, unit⟩ := a
  obtain ⟨k, isValue⟩ := settled.value
  have isUnit : IsUnit unit := settled.unit
  have named := isValue.stops_isLower (unit ++ rest)
  have numerals : Text.Stops Value.isNumeral (unit ++ rest) :=
    (isUnit.stops (by decide) fun _ => Value.isNumeral_of_isLower).append
      (follows.stops (by decide) fun _ => Value.isWhiteSpace_of_isNumeral)
  have bracket : Text.Stops (· == '(') (unit ++ rest) := by
    apply Text.Stops.append
    · apply isUnit.stops (by decide)
      intro c letter
      rw [beq_eq_false_iff_ne]
      intro same
      subst same
      exact absurd letter (by decide)
    · apply follows.stops (by decide)
      intro c same
      rw [beq_iff_eq.1 same]
      decide
  have hex : IsHexColor value → Text.Stops Text.isHexDigit (unit ++ rest) := fun color =>
    (settled.settled color).append
      (follows.stops (by decide) fun _ => Text.isWhiteSpace_of_isHexDigit)
  have percent : Text.Stops (· == '%') rest := by
    apply follows.stops (by decide)
    intro c same
    rw [beq_iff_eq.1 same]
    decide
  have taken := Value.read?_append isValue numerals bracket hex
  have ended := readUnit_append isUnit
    (follows.stops (by decide) fun _ => Text.isWhiteSpace_of_isLower) percent
  simp only [text, List.cons_append, List.append_assoc, read?]
  rw [Text.takeWhile_run settled.name named, Text.dropWhile_run settled.name named, taken,
    Option.map_some, ended]

theorem read?_of_endsBefore {s : Text} (ends : Body.endsBefore s = true) : read? s = none := by
  unfold read?
  split
  · have blank : Text.isWhiteSpace '-' = true := ends
    exact absurd blank (by decide)
  · rfl

/-- The run over arguments side by side, by induction on them. -/
theorem readAll_sources {l : List Source} {rest : Text} (settled : ∀ a ∈ l, IsSettled a)
    (ends : Body.endsBefore rest = true) :
    readAll (l.flatMap (·.text) ++ rest) = (l, rest) := by
  induction l with
  | nil => exact readAll_of_none (read?_of_endsBefore ends)
  | cons a l ih =>
    have others := ih fun b inside => settled b (List.mem_cons_of_mem a inside)
    have first := read?_text_append (settled a List.mem_cons_self)
      (follows_sources l (follows_of_endsBefore ends))
    rw [List.flatMap_cons, List.append_assoc, readAll_of_some first, others]

theorem isSettled_of_mem_readAll {s : Text} {a : Source} (member : a ∈ (readAll s).1) :
    IsSettled a := by
  fun_induction readAll s with
  | case1 => cases member
  | case2 s b rest found others after same ih =>
    rw [same] at ih
    rcases List.mem_cons.1 member with first | later
    · exact first ▸ isSettled_of_read? found
    · exact ih later

theorem isSettled_of_mem_search {s : Text} {a : Source} (member : a ∈ search s) :
    IsSettled a := by
  fun_induction search s with
  | case1 s b rest found ih =>
    rcases List.mem_cons.1 member with first | later
    · exact first ▸ isSettled_of_read? found
    · exact ih later
  | case2 => cases member
  | case3 c s nothing ih => exact ih member

end Argument.Source
end AltStyle
