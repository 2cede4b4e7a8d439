import AltStyle.Proofs.Segmentation

/-! The arguments of any text, whether or not a directive was found in it. Which ones the search
meets is said in terms of the grammar alone: each is the longest at the first place where one
stands, and the search goes on behind it. The kind of every value among them is the only one that
accepts it, so none of the arguments is dropped. -/
namespace AltStyle
open Grammar Argument

namespace Grammar

theorem IsUnit.tail {c : Char} {u : Text} (unit : IsUnit (c :: u)) : IsUnit u := by
  obtain ⟨l, lower, same⟩ := unit
  rcases same with rfl | same
  · exact ⟨u, (List.forall_mem_cons.1 lower).2, .inl rfl⟩
  · cases l with
    | nil =>
      cases same
      exact isUnit_nil
    | cons d l =>
      cases same
      exact ⟨l, (List.forall_mem_cons.1 lower).2, .inr rfl⟩

def Begins (s : Text) : Prop :=
  ∃ a rest, IsSource a ∧ s = a.text ++ rest

/-- Of all arguments that may be seen at the front of the text, this one has the longest text and
the longest value. -/
structure IsLongest (s : Text) (a : Source) (rest : Text) : Prop where
  source : IsSource a
  whole : s = a.text ++ rest
  longest : ∀ b after, IsSource b → s = b.text ++ after →
    b.text.length ≤ a.text.length ∧ b.value.length ≤ a.value.length

def Unmet (s rest : Text) : Prop :=
  ∀ u v, s = u ++ v → v ≠ [] → ¬ Begins (v ++ rest)

inductive Matches : Text → List Source → Prop
  | none {s : Text} (unmet : Unmet s []) : Matches s []
  | next {before rest : Text} {a : Source} {l : List Source}
      (unmet : Unmet before (a.text ++ rest)) (longest : IsLongest (a.text ++ rest) a rest)
      (others : Matches rest l) : Matches (before ++ (a.text ++ rest)) (a :: l)

theorem Unmet.head {c : Char} {s rest : Text} (unmet : Unmet (c :: s) rest) :
    ¬ Begins (c :: (s ++ rest)) :=
  unmet [] (c :: s) rfl (List.cons_ne_nil c s)

theorem Unmet.tail {c : Char} {s rest : Text} (unmet : Unmet (c :: s) rest) : Unmet s rest := by
  intro u v split inside
  exact unmet (c :: u) v (congrArg (c :: ·) split) inside

theorem unmet_nil (rest : Text) : Unmet [] rest := by
  intro u v split inside
  exact absurd (List.append_eq_nil_iff.1 split.symm).2 inside

theorem Unmet.cons {c : Char} {s rest : Text} (front : ¬ Begins (c :: (s ++ rest)))
    (unmet : Unmet s rest) : Unmet (c :: s) rest := by
  intro u v split inside
  cases u with
  | nil =>
    rw [List.nil_append] at split
    exact split ▸ front
  | cons d u =>
    cases split
    exact unmet u v rfl inside

theorem Matches.cons {c : Char} {s : Text} {l : List Source} (front : ¬ Begins (c :: s))
    (others : Matches s l) : Matches (c :: s) l := by
  cases others with
  | none unmet => exact .none (.cons (by rwa [List.append_nil]) unmet)
  | @next before rest a l unmet longest others =>
    rw [← List.cons_append]
    exact .next (.cons front unmet) longest others

end Grammar

namespace Argument.Source

theorem length_takeWhile_le_readUnit (s : Text) :
    (s.takeWhile Char.isLower).length ≤ (readUnit s).1.length := by
  unfold readUnit
  split
  · simp
  · exact Nat.le_refl _

theorem length_le_readUnit_append {u : Text} (unit : IsUnit u) (rest : Text) :
    u.length ≤ (readUnit (u ++ rest)).1.length := by
  obtain ⟨l, lower, same⟩ := unit
  rcases same with rfl | rfl
  · refine Nat.le_trans ?_ (length_takeWhile_le_readUnit _)
    rw [List.takeWhile_append_of_pos lower, List.length_append]
    exact Nat.le_add_right _ _
  · have ends : Text.Stops Char.isLower ('%' :: rest) := Text.stops_cons.2 (by decide)
    rw [List.append_assoc, List.singleton_append, readUnit, Text.takeWhile_run lower ends,
      Text.dropWhile_run lower ends]
    exact Nat.le_refl _

/-- No unit reaches farther than the one that is read, also if it begins before that one. -/
theorem length_le_readUnit {u after m t : Text} (unit : IsUnit u) (same : u ++ after = m ++ t) :
    u.length ≤ m.length + (readUnit t).1.length := by
  induction m generalizing u with
  | nil =>
    rw [List.nil_append] at same
    have longest := length_le_readUnit_append unit after
    rw [same] at longest
    exact Nat.le_trans longest (Nat.le_add_left _ _)
  | cons c m ih =>
    cases u with
    | nil => exact Nat.zero_le _
    | cons d u =>
      have shorter := ih unit.tail (List.cons.inj same).2
      simp only [List.length_cons]
      omega

/-- Where an argument stands, one is read that is at least as long. -/
theorem exists_read? {a : Source} (source : IsSource a) (rest : Text) :
    ∃ b after, read? (a.text ++ rest) = some (b, after) ∧ b.name = a.name ∧
      a.text.length ≤ b.text.length ∧ a.value.length ≤ b.value.length := by
  obtain ⟨name, value, unit⟩ := a
  obtain ⟨k, isValue⟩ : ∃ k, IsValue k value := source.value
  have isUnit : IsUnit unit := source.unit
  obtain ⟨w, tail, read, longer⟩ := Value.exists_read?_append isValue (unit ++ rest)
  have whole := (Value.splits_read? _ _ _ read).1
  obtain ⟨m, rfl⟩ : value <+: w := List.prefix_of_prefix_length_le ⟨_, rfl⟩ ⟨_, whole⟩ longer
  rw [List.append_assoc] at whole
  have units := length_le_readUnit isUnit (List.append_cancel_left whole).symm
  have named := isValue.stops_isLower (unit ++ rest)
  refine ⟨⟨name, value ++ m, (readUnit tail).1⟩, (readUnit tail).2, ?_, rfl, ?_, longer⟩
  · simp only [text, List.cons_append, List.append_assoc, read?]
    rw [Text.takeWhile_run source.name named, Text.dropWhile_run source.name named, read]
    rfl
  · simp only [text, List.length_cons, List.length_append]
    omega

theorem read?_eq_none_iff {s : Text} : read? s = none ↔ ¬ Begins s := by
  constructor
  · intro nothing begins
    obtain ⟨a, rest, source, rfl⟩ := begins
    obtain ⟨b, after, read, _⟩ := exists_read? source rest
    rw [nothing] at read
    cases read
  · intro nothing
    rw [Option.eq_none_iff_forall_ne_some]
    intro found read
    exact nothing ⟨found.1, found.2, (isSettled_of_read? read).toIsSource,
      (append_of_read? read).symm⟩

theorem isLongest_of_read? {s rest : Text} {a : Source} (read : read? s = some (a, rest)) :
    IsLongest s a rest := by
  refine ⟨(isSettled_of_read? read).toIsSource, (append_of_read? read).symm, ?_⟩
  intro b after source same
  obtain ⟨c, r, again, _, text, value⟩ := exists_read? source after
  rw [← same, read] at again
  cases again
  exact ⟨text, value⟩

theorem read?_of_isLongest {s rest : Text} {a : Source} (longest : IsLongest s a rest) :
    read? s = some (a, rest) := by
  obtain ⟨b, after, read, names, text, value⟩ := exists_read? longest.source rest
  rw [← longest.whole] at read
  have whole := append_of_read? read
  obtain ⟨texts, values⟩ :=
    longest.longest b after (isSettled_of_read? read).toIsSource whole.symm
  obtain ⟨same, rfl⟩ :=
    List.append_inj (whole.trans longest.whole) (Nat.le_antisymm texts text)
  obtain ⟨n, v, u⟩ := a
  obtain ⟨m, w, t⟩ := b
  cases names
  simp only [Source.text, List.append_assoc, List.cons.injEq, true_and] at same
  obtain ⟨rfl, rfl⟩ :=
    List.append_inj (List.append_cancel_left same) (Nat.le_antisymm values value)
  exact read

theorem search_append {before rest : Text} (unmet : Unmet before rest) :
    search (before ++ rest) = search rest := by
  induction before with
  | nil => rfl
  | cons c before ih =>
    rw [List.cons_append, search_cons_of_none (read?_eq_none_iff.2 unmet.head), ih unmet.tail]

/-- Existence: the search goes by the rule. -/
theorem matches_search (s : Text) : Matches s (search s) := by
  fun_induction search s with
  | case1 s a rest found ih =>
    have longest := isLongest_of_read? found
    obtain rfl := longest.whole
    exact .next (unmet_nil _) longest ih
  | case2 nothing => exact .none (unmet_nil [])
  | case3 c s nothing ih => exact ih.cons (read?_eq_none_iff.1 nothing)

/-- Uniqueness: nothing else does. -/
theorem search_of_matches {s : Text} {l : List Source} (met : Matches s l) : search s = l := by
  induction met with
  | @none s unmet =>
    have nothing := search_append unmet
    rw [List.append_nil] at nothing
    rw [nothing, search]
    rfl
  | next unmet longest others ih =>
    rw [search_append unmet, search_of_some (read?_of_isLongest longest), ih]

end Argument.Source

namespace Argument

/-- No text is accepted as a value of two kinds, and it has no kind exactly if it is accepted as
none. Every value that an argument of the grammar can have has a kind, so each argument that is met
on the way through a text, whatever the text, is one argument in the result. -/
theorem kinds_unique_and_ofTail_complete :
    (∀ (v : Text) (k l : Kind), k.accepts v = true → l.accepts v = true → k = l) ∧
    (∀ v : Text, Kind.ofValue? v = none ↔ ∀ k : Kind, k.accepts v = false) ∧
    (∀ a : Source, IsSource a → ∃ k, Kind.ofValue? a.value = some k) ∧
    ∀ t : Text, Matches t (Source.search t) ∧ (∀ l, Matches t l → l = Source.search t) ∧
      List.Forall₂ (fun a x => Kind.ofValue? a.value = some x.kind ∧ a.argument? = some x)
        (Source.search t) (ofTail (some t)) := by
  refine ⟨?_, fun v => Kind.ofValue?_eq_none_iff, ?_, ?_⟩
  · intro v k l one other
    exact (Kind.accepts_iff.1 one).kind_eq (Kind.accepts_iff.1 other)
  · intro a source
    obtain ⟨k, value⟩ := source.value
    exact ⟨k, Kind.ofValue?_eq_some_iff.2 value⟩
  · intro t
    refine ⟨Source.matches_search t, fun l met => (Source.search_of_matches met).symm, ?_⟩
    apply (forall₂_ofTail t).imp
    intro a x argument
    exact ⟨Source.kind_of_argument? argument, argument⟩

/-- A sharp alone is a color where what follows makes no function of it. -/
theorem kinds_unique_and_ofTail_complete_sharp :
    Matches "-10px or -#(1-&x&".toList
        [⟨[], "10".toList, "px".toList⟩, ⟨[], "#".toList, []⟩, ⟨[], "&x&".toList, []⟩] ∧
      (ofTail (some "-10px or -#(1-&x&".toList)).map (·.kind) = [.numeric, .color, .raw] := by
  have found : Source.search "-10px or -#(1-&x&".toList =
      [⟨[], "10".toList, "px".toList⟩, ⟨[], "#".toList, []⟩, ⟨[], "&x&".toList, []⟩] := by
    decide +kernel
  have met := (kinds_unique_and_ofTail_complete.2.2.2 "-10px or -#(1-&x&".toList).1
  exact ⟨found ▸ met, by decide +kernel⟩

end Argument
end AltStyle
