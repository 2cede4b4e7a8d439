import Mathlib.Data.List.TakeWhile
import AltStyle.Config.Reference

/-! The reader of references to environment variables, case by case, and the rule for them: it takes
every text apart in one way, and so says of every text what becomes of it. -/
namespace AltStyle
namespace Environment

theorem splitDefault?_eq_none_iff {s : Text} : splitDefault? s = none ↔ ¬ divider <:+: s := by
  fun_induction splitDefault? s with
  | case1 => simp [divider]
  | case2 s => simp [divider, List.infix_cons_iff]
  | case3 c s other ih =>
    have front : ¬ divider <+: c :: s := by
      rintro ⟨r, same⟩
      cases same
      exact other r rfl rfl
    rw [Option.map_eq_none_iff, ih, List.infix_cons_iff, or_iff_right front]

theorem append_of_splitDefault? {s name default : Text}
    (split : splitDefault? s = some (name, default)) :
    name ++ divider ++ default = s ∧ ¬ divider <:+: name := by
  fun_induction splitDefault? s generalizing name with
  | case1 => cases split
  | case2 s =>
    cases split
    exact ⟨rfl, by simp [divider]⟩
  | case3 c s other ih =>
    obtain ⟨⟨n, d⟩, inner, same⟩ := Option.map_eq_some_iff.1 split
    cases same
    obtain ⟨whole, first⟩ := ih inner
    refine ⟨congrArg (c :: ·) whole, ?_⟩
    rw [List.infix_cons_iff, or_iff_left first]
    rintro ⟨r, same⟩
    cases same
    exact other _ rfl whole.symm

theorem splitDefault?_append {name : Text} (default : Text) (first : ¬ divider <:+: name) :
    splitDefault? (name ++ divider ++ default) = some (name, default) := by
  induction name with
  | nil => rfl
  | cons c name ih =>
    rw [List.infix_cons_iff, not_or] at first
    rw [List.cons_append, List.cons_append, splitDefault?, ih first.2]
    · rfl
    · rintro r rfl same
      cases name with
      | nil => cases same
      | cons d name =>
        cases same
        exact first.1 ⟨name, rfl⟩

/-- What a reference is meant to name is what is taken from it. -/
theorem names_iff {inside name : Text} {default : Option Text} :
    Names inside name default ↔ nameOf inside = name ∧ defaultOf? inside = default := by
  constructor
  · intro names
    cases names with
    | name whole =>
      rcases whole with undivided | ⟨rest, rfl⟩
      · rw [nameOf, defaultOf?, splitDefault?_eq_none_iff.2 undivided]
        exact ⟨rfl, rfl⟩
      · exact ⟨rfl, rfl⟩
    | withDefault default some_name first =>
      rw [nameOf, defaultOf?, splitDefault?_append default first]
      cases name with
      | nil => exact absurd rfl some_name
      | cons c name => exact ⟨rfl, rfl⟩
  · rintro ⟨rfl, rfl⟩
    rw [nameOf, defaultOf?]
    cases split : splitDefault? inside with
    | none => exact .name (.inl (splitDefault?_eq_none_iff.1 split))
    | some parts =>
      obtain ⟨name, default⟩ := parts
      obtain ⟨same, first⟩ := append_of_splitDefault? split
      cases name with
      | nil => exact .name (.inr ⟨default, same⟩)
      | cons c name =>
        have given := Names.withDefault default (List.cons_ne_nil c name) first
        rw [same] at given
        exact given

theorem splitBrace?_append {inside : Text} (rest : Text) (closed : '}' ∉ inside) :
    splitBrace? (inside ++ '}' :: rest) = some (inside, rest) := by
  have run : ∀ c ∈ inside, (c != '}') = true := fun c member =>
    bne_iff_ne.2 fun same => closed (same ▸ member)
  rw [splitBrace?, List.dropWhile_append_of_pos run, List.takeWhile_append_of_pos run]
  simp

theorem splitBrace?_of_not_mem {s : Text} (unclosed : '}' ∉ s) : splitBrace? s = none := by
  have run : ∀ c ∈ s, (c != '}') = true := fun c member =>
    bne_iff_ne.2 fun same => unclosed (same ▸ member)
  rw [splitBrace?, List.dropWhile_eq_nil_iff.2 run]

theorem opensReference_iff {s : Text} : OpensReference s ↔ ∃ t, s = '$' :: '{' :: t ∧ '}' ∈ t := by
  constructor
  · rintro ⟨inside, rest, rfl⟩
    exact ⟨inside ++ '}' :: rest, rfl, List.mem_append_right inside List.mem_cons_self⟩
  · rintro ⟨t, rfl, closed⟩
    obtain ⟨inside, rest, rfl⟩ := List.append_of_mem closed
    exact ⟨inside, rest, rfl⟩

theorem not_opensReference {c : Char} {s : Text} (other : c ≠ '$') : ¬ OpensReference (c :: s) := by
  intro opens
  obtain ⟨_, same, _⟩ := opensReference_iff.1 opens
  exact other (List.cons.inj same).1

theorem pieces_reference {inside name rest : Text} {default : Option Text} (closed : '}' ∉ inside)
    (names : Names inside name default) :
    pieces (opening ++ (inside ++ '}' :: rest)) = .reference name default :: pieces rest := by
  obtain ⟨rfl, rfl⟩ := names_iff.1 names
  show pieces ('$' :: '{' :: (inside ++ '}' :: rest)) = _
  rw [pieces]
  split
  · next found =>
    rw [splitBrace?_append rest closed] at found
    cases found
    rfl
  · next nothing =>
    rw [splitBrace?_append rest closed] at nothing
    cases nothing

theorem pieces_unclosed {s : Text} (unclosed : '}' ∉ s) :
    pieces ('$' :: '{' :: s) = .plain ['$', '{'] :: pieces s := by
  rw [pieces]
  split
  · next found =>
    rw [splitBrace?_of_not_mem unclosed] at found
    cases found
  · rfl

theorem pieces_doubled (s : Text) : pieces ('$' :: '$' :: s) = .plain ['$'] :: pieces s := by
  rw [pieces]

theorem pieces_cons {c : Char} {s : Text} (other : c ≠ '$') :
    pieces (c :: s) = .plain [c] :: pieces s := by
  rw [pieces]
  all_goals
    intros
    contradiction

theorem isNameChar_opening {c : Char} (special : c ∈ opening) : isNameChar c = false := by
  simp only [opening, List.mem_cons, List.not_mem_nil, or_false] at special
  rcases special with rfl | rfl
  · decide +kernel
  · decide +kernel

/-- A dollar that begins neither a reference in braces nor a pair. -/
theorem pieces_dollar {s : Text} (other : ∀ c ∈ s.head?, c ∉ opening) :
    pieces ('$' :: s) =
      if s.takeWhile isNameChar = [] then .plain ['$'] :: pieces s
      else .reference (s.takeWhile isNameChar) none :: pieces (s.dropWhile isNameChar) := by
  rw [pieces]
  · rintro r rfl
    exact other '{' rfl (by decide)
  · rintro r rfl
    exact other '$' rfl (by decide)

theorem pieces_bare {c : Char} {s : Text} (letter : isNameChar c = true) :
    ∃ name rest, pieces ('$' :: c :: s) = .reference name none :: pieces rest := by
  have other : c ∉ opening := by
    intro special
    rw [isNameChar_opening special] at letter
    cases letter
  refine ⟨_, _, (pieces_dollar ?_).trans (if_neg ?_)⟩
  · simpa using other
  · simp [letter]

theorem pieces_lone {s : Text} (apart : ∀ c ∈ s.head?, c ∉ opening ∧ isNameChar c = false) :
    pieces ('$' :: s) = .plain ['$'] :: pieces s := by
  rw [pieces_dollar fun c first => (apart c first).1, if_pos]
  cases s with
  | nil => rfl
  | cons c s => simp [(apart c rfl).2]

def joined (env : Environment) (ps : List Piece) : Except Text Text :=
  (ps.mapM env.value).map List.flatten

theorem joined_cons (env : Environment) (p : Piece) (ps : List Piece) :
    joined env (p :: ps) = env.value p >>= fun v => (joined env ps).map (v ++ ·) := by
  rw [joined, joined, List.mapM_cons]
  cases env.value p with
  | error name => rfl
  | ok v =>
    cases ps.mapM env.value with
    | error name => rfl
    | ok vs => rfl

theorem joined_plain (env : Environment) (s : Text) (ps : List Piece) :
    joined env (.plain s :: ps) = (joined env ps).map (s ++ ·) :=
  joined_cons env (.plain s) ps

theorem joined_found {env : Environment} {name v : Text} {default : Option Text} {ps : List Piece}
    (found : env.get? name = some v) :
    joined env (.reference name default :: ps) = (joined env ps).map (v ++ ·) := by
  rw [joined_cons, value, found]
  rfl

/-- Replacing pieces one by one goes by the rule. -/
theorem replaced_joined (env : Environment) (ps : List Piece) : Replaced env ps (joined env ps) := by
  induction ps with
  | nil => exact .nil
  | cons p ps ih =>
    rw [joined_cons]
    cases p with
    | plain s => exact .plain ih
    | reference name default =>
      cases found : env.get? name with
      | some v =>
        rw [value, found, Option.some_or]
        exact .set found ih
      | none =>
        rw [value, found, Option.none_or]
        cases default with
        | some default => exact .default found ih
        | none => exact .unset found

theorem Replaced.eq_joined {env : Environment} {ps : List Piece} {r : Except Text Text}
    (replaced : Replaced env ps r) : r = joined env ps := by
  induction replaced with
  | nil => rfl
  | plain others ih => rw [ih, joined_plain]
  | set found others ih => rw [ih, joined_found found]
  | default missing others ih =>
    rw [ih, joined_cons, value, missing]
    rfl
  | unset missing =>
    rw [joined_cons, value, missing]
    rfl

theorem Reads.of_not_opens {c : Char} {s : Text} {ps : List Piece} (reads : Reads (c :: s) ps)
    (other : ¬ OpensReference (c :: s)) : ∃ qs, ps = .plain [c] :: qs ∧ Reads s qs := by
  generalize same : c :: s = t at reads
  cases reads with
  | nil => cases same
  | plain single others =>
    cases same
    exact ⟨_, rfl, others⟩
  | reference closed names others => exact absurd ⟨_, _, same⟩ other

theorem Reads.of_plain {c : Char} {s : Text} {ps : List Piece} (reads : Reads (c :: s) ps)
    (other : c ≠ '$') : ∃ qs, ps = .plain [c] :: qs ∧ Reads s qs :=
  reads.of_not_opens (not_opensReference other)

theorem Reads.of_reference {inside rest name : Text} {default : Option Text} {ps : List Piece}
    (closed : '}' ∉ inside) (names : Names inside name default)
    (reads : Reads (opening ++ (inside ++ '}' :: rest)) ps) :
    ∃ qs, ps = .reference name default :: qs ∧ Reads rest qs := by
  generalize same : opening ++ (inside ++ '}' :: rest) = t at reads
  cases reads with
  | nil => cases same
  | plain single others => exact absurd ⟨inside, rest, same.symm⟩ single
  | reference closed' names' others =>
    have first := splitBrace?_append rest closed
    rw [List.append_cancel_left same, splitBrace?_append _ closed'] at first
    cases first
    obtain ⟨rfl, rfl⟩ := names_iff.1 names
    obtain ⟨rfl, rfl⟩ := names_iff.1 names'
    exact ⟨_, rfl, others⟩

theorem mentionsBrace_iff {s : Text} : mentionsBrace s = true ↔ opening <:+: s := by
  fun_induction mentionsBrace s with
  | case1 s => simp [opening, List.infix_cons_iff]
  | case2 => simp [opening]
  | case3 c s other ih =>
    have front : ¬ opening <+: c :: s := by
      rintro ⟨r, same⟩
      cases same
      exact other r rfl rfl
    rw [ih, List.infix_cons_iff, or_iff_right front]

theorem Reads.joined_of_not_mentions {s : Text} {ps : List Piece} (reads : Reads s ps)
    (plain : ¬ opening <:+: s) (env : Environment) : joined env ps = .ok s := by
  induction reads with
  | nil => rfl
  | reference closed names others ih => exact absurd (List.prefix_append _ _).isInfix plain
  | plain single others ih =>
    rw [List.infix_cons_iff, not_or] at plain
    rw [joined_plain, ih plain.2]
    rfl

/-- A text can be taken apart by the rule in one way only. -/
theorem Reads.unique {s : Text} {ps qs : List Piece} (one : Reads s ps) (other : Reads s qs) :
    ps = qs := by
  induction one generalizing qs with
  | nil => cases other; rfl
  | plain single others ih =>
    obtain ⟨rs, rfl, later⟩ := other.of_not_opens single
    rw [ih later]
  | reference closed names others ih =>
    obtain ⟨rs, rfl, later⟩ := other.of_reference closed names
    rw [ih later]

theorem OpensReference.exists_parts {s : Text} (opens : OpensReference s) :
    ∃ inside rest name default, '}' ∉ inside ∧ Names inside name default ∧
      s = opening ++ (inside ++ '}' :: rest) := by
  obtain ⟨before, after, rfl⟩ := opens
  have closes : '}' ∈ before ++ '}' :: after := List.mem_append_right before List.mem_cons_self
  obtain ⟨inside, rest, same, closed⟩ := List.eq_append_cons_of_mem closes
  exact ⟨inside, rest, _, _, closed, names_iff.2 ⟨rfl, rfl⟩, by rw [same]⟩

/-- On a reference in braces the reader and the rule agree. -/
theorem Reads.of_opens {s : Text} {ps : List Piece} (reads : Reads s ps) (opens : OpensReference s) :
    ∃ name default qs qs',
      ps = .reference name default :: qs ∧ pieces s = .reference name default :: qs' := by
  obtain ⟨inside, rest, name, default, closed, names, rfl⟩ := opens.exists_parts
  obtain ⟨qs, rfl, _⟩ := reads.of_reference closed names
  exact ⟨name, default, qs, pieces rest, rfl, pieces_reference closed names⟩

/-- Every text can be read, so the rule leaves no text out. -/
theorem exists_reads (s : Text) : ∃ ps, Reads s ps := by
  induction size : s.length using Nat.strong_induction_on generalizing s with
  | h n ih =>
    subst size
    by_cases opens : OpensReference s
    · obtain ⟨inside, rest, name, default, closed, names, rfl⟩ := opens.exists_parts
      have shorter : rest.length < (opening ++ (inside ++ '}' :: rest)).length := by
        simp only [List.length_cons, List.length_append]
        omega
      obtain ⟨ps, others⟩ := ih rest.length shorter rest rfl
      exact ⟨_, .reference closed names others⟩
    · cases s with
      | nil => exact ⟨[], .nil⟩
      | cons c s =>
        obtain ⟨ps, others⟩ := ih s.length (Nat.lt_succ_self _) s rfl
        exact ⟨_, .plain opens others⟩

/-- The rule says of every text what becomes of it. -/
theorem expands_iff {env : Environment} {s : Text} {ps : List Piece} (reads : Reads s ps)
    {r : Except Text Text} : Expands env s r ↔ joined env ps = r := by
  constructor
  · rintro ⟨qs, other, replaced⟩
    rw [reads.unique other]
    exact replaced.eq_joined.symm
  · rintro rfl
    exact ⟨ps, reads, replaced_joined env ps⟩

end Environment
end AltStyle
