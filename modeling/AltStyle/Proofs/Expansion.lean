import Mathlib.Data.List.Chain
import AltStyle.Config.Basic
import AltStyle.Proofs.References

/-! Where the settings are expanded by the rule. The reader treats a bare name behind a dollar as a
reference and takes two dollars for one, as soon as a text opens a brace behind a dollar. -/
namespace AltStyle
namespace Environment

def SetIn (env : Environment) (ps : List Piece) : Prop :=
  ∀ name default, .reference name default ∈ ps → ∃ v, env.get? name = some v

def Sets (env : Environment) (s : Text) : Prop :=
  ∀ ps, Reads s ps → SetIn env ps

/-- Whether a dollar before the piece would be taken together with it. -/
def joins : Piece → Bool
  | .plain s => s.head?.any fun c => c == '$' || isNameChar c
  | .reference _ _ => true

def Apart (p q : Piece) : Prop :=
  p = .plain ['$'] → joins q = false

/-- No dollar that stands for itself is followed by another dollar or by a character of a
name. -/
def DollarsApart (s : Text) : Prop :=
  ∀ ps, Reads s ps → ps.IsChain Apart

theorem Reads.front {c : Char} {s : Text} {ps : List Piece} (reads : Reads (c :: s) ps) :
    ∃ p qs, ps = p :: qs ∧ (joins p = false → c ≠ '$' ∧ isNameChar c = false) := by
  generalize same : c :: s = t at reads
  cases reads with
  | nil => cases same
  | plain single others =>
    cases same
    exact ⟨_, _, rfl, by simp [joins]⟩
  | reference closed names others => exact ⟨_, _, rfl, by simp [joins]⟩

theorem not_mem_of_not_opens {s : Text} (other : ¬ OpensReference ('$' :: '{' :: s)) : '}' ∉ s :=
  fun closes => other (opensReference_iff.2 ⟨s, rfl, closes⟩)

/-- An unclosed opening is one piece as it is read, and two by the rule. -/
theorem joined_unclosed {s : Text} (unclosed : '}' ∉ s) (env : Environment) :
    joined env (pieces ('$' :: '{' :: s)) = (joined env (pieces ('{' :: s))).map (['$'] ++ ·) := by
  rw [pieces_unclosed unclosed, pieces_cons (by decide), joined_plain, joined_plain]
  cases joined env (pieces s) <;> rfl

/-- Where dollars stand apart the text is read as the rule wants it. -/
theorem joined_pieces {s : Text} {ps : List Piece} (reads : Reads s ps) (apart : ps.IsChain Apart)
    (env : Environment) : joined env (pieces s) = joined env ps := by
  induction reads with
  | nil => rw [pieces]
  | reference closed names others ih =>
    rw [pieces_reference closed names, joined_cons, joined_cons, ih apart.tail]
  | @plain c s ps single others ih =>
    have later := ih apart.tail
    rw [joined_plain, ← later]
    by_cases dollar : c = '$'
    · subst dollar
      cases s with
      | nil => rw [pieces_lone (by simp), joined_plain]
      | cons d s =>
        obtain ⟨p, qs, rfl, unjoined⟩ := others.front
        obtain ⟨single_dollar, letter⟩ := unjoined ((List.isChain_cons_cons.1 apart).1 rfl)
        by_cases brace : d = '{'
        · subst brace
          exact joined_unclosed (not_mem_of_not_opens single) env
        · rw [pieces_lone, joined_plain]
          simp [opening, single_dollar, brace, letter]
    · rw [pieces_cons dollar, joined_plain]

theorem map_append_eq_ok {x : Except Text Text} {s t : Text} :
    x.map (s ++ ·) = .ok t ↔ ∃ r, x = .ok r ∧ t = s ++ r := by
  cases x with
  | error name => simp [Except.map]
  | ok r => simp [Except.map, eq_comm]

theorem joined_plain_eq_ok {env : Environment} {s t : Text} {ps : List Piece} :
    joined env (.plain s :: ps) = .ok t ↔ ∃ r, joined env ps = .ok r ∧ t = s ++ r := by
  rw [joined_plain, map_append_eq_ok]

theorem map_append_left_cancel {x y : Except Text Text} {s : Text}
    (same : x.map (s ++ ·) = y.map (s ++ ·)) : x = y := by
  cases x <;> cases y <;> simp_all [Except.map]

def Marks (env : Environment) : Prop :=
  ∀ name v, env.get? name = some v → v = ['x']

theorem SetIn.tail {env : Environment} {p : Piece} {ps : List Piece} (set : SetIn env (p :: ps)) :
    SetIn env ps :=
  fun name default member => set name default (List.mem_cons_of_mem p member)

theorem SetIn.joined_cons {env : Environment} {name : Text} {default : Option Text}
    {ps : List Piece} (set : SetIn env (.reference name default :: ps)) (marks : Marks env)
    (qs : List Piece) :
    joined env (.reference name default :: qs) = (joined env qs).map (['x'] ++ ·) := by
  obtain ⟨v, found⟩ := set name default List.mem_cons_self
  rw [joined_found found, marks name v found]

theorem SetIn.head {env : Environment} {name t : Text} {default : Option Text} {ps qs : List Piece}
    (set : SetIn env (.reference name default :: ps)) (marks : Marks env)
    (ok : joined env (.reference name default :: qs) = .ok t) : t.head? = some 'x' := by
  rw [set.joined_cons marks] at ok
  obtain ⟨r, _, rfl⟩ := map_append_eq_ok.1 ok
  rfl

theorem exists_joined {env : Environment} {ps : List Piece} (marks : Marks env)
    (set : SetIn env ps) : ∃ t, joined env ps = .ok t := by
  induction ps with
  | nil => exact ⟨[], rfl⟩
  | cons p ps ih =>
    obtain ⟨t, later⟩ := ih set.tail
    cases p with
    | plain s => exact ⟨s ++ t, by rw [joined_plain, later, Except.map]⟩
    | reference name default => exact ⟨['x'] ++ t, by rw [set.joined_cons marks, later, Except.map]⟩

/-- A reference without braces is replaced by the mark, or it fails. -/
theorem head_of_bare {env : Environment} {name t : Text} {ps : List Piece} (marks : Marks env)
    (ok : joined env (.reference name none :: ps) = .ok t) : t.head? = some 'x' := by
  cases found : env.get? name with
  | none =>
    rw [joined_cons, value, found] at ok
    cases ok
  | some v =>
    rw [joined_found found, marks name v found] at ok
    obtain ⟨r, _, rfl⟩ := map_append_eq_ok.1 ok
    rfl

theorem front_of_pieces {env : Environment} {c : Char} {s t : Text} (other : c ≠ '$')
    (ok : joined env (pieces (c :: s)) = .ok t) : ∃ r, t = c :: r := by
  rw [pieces_cons other] at ok
  obtain ⟨r, _, rfl⟩ := joined_plain_eq_ok.1 ok
  exact ⟨r, rfl⟩

/-- By the rule a dollar stays unless it opens a reference. -/
theorem Reads.front_of_dollar {env : Environment} {s t : Text} {ps : List Piece}
    (reads : Reads ('$' :: s) ps) (marks : Marks env) (set : SetIn env ps)
    (ok : joined env ps = .ok t) :
    (OpensReference ('$' :: s) ∧ t.head? = some 'x') ∨ ∃ r, t = '$' :: r := by
  by_cases opens : OpensReference ('$' :: s)
  · left
    obtain ⟨name, default, qs, _, rfl, _⟩ := reads.of_opens opens
    exact ⟨opens, set.head marks ok⟩
  · right
    obtain ⟨qs, rfl, later⟩ := reads.of_not_opens opens
    obtain ⟨r, _, rfl⟩ := joined_plain_eq_ok.1 ok
    exact ⟨r, rfl⟩

/-- As it is read, a dollar before anything but another dollar is a mark as well if it opens a
reference, and otherwise a mark or itself with that character behind it. -/
theorem front_of_pieces_dollar {env : Environment} {d : Char} {s t : Text} {ps : List Piece}
    (other : d ≠ '$') (reads : Reads ('$' :: d :: s) ps) (marks : Marks env) (set : SetIn env ps)
    (ok : joined env (pieces ('$' :: d :: s)) = .ok t) :
    t.head? = some 'x' ∨ (¬ OpensReference ('$' :: d :: s) ∧ ∃ r, t = '$' :: d :: r) := by
  by_cases opens : OpensReference ('$' :: d :: s)
  · left
    obtain ⟨name, default, _, qs, rfl, same⟩ := reads.of_opens opens
    rw [same] at ok
    exact set.head marks ok
  · by_cases letter : isNameChar d = true
    · left
      obtain ⟨name, rest, same⟩ := pieces_bare (s := s) letter
      rw [same] at ok
      exact head_of_bare marks ok
    · right
      refine ⟨opens, ?_⟩
      by_cases brace : d = '{'
      · subst brace
        rw [joined_unclosed (not_mem_of_not_opens opens)] at ok
        obtain ⟨r, later, rfl⟩ := map_append_eq_ok.1 ok
        obtain ⟨r, rfl⟩ := front_of_pieces other later
        exact ⟨r, rfl⟩
      · rw [pieces_lone (by simp [opening, other, brace, letter])] at ok
        obtain ⟨r, later, rfl⟩ := joined_plain_eq_ok.1 ok
        obtain ⟨r, rfl⟩ := front_of_pieces other later
        exact ⟨r, rfl⟩

theorem replicate_append_cons (n : Nat) (c : Char) (s : Text) :
    List.replicate n c ++ c :: s = c :: (List.replicate n c ++ s) := by
  rw [List.append_cons, ← List.replicate_succ', List.replicate_succ, List.cons_append]

theorem Reads.of_dollars {n : Nat} {s : Text} {ps : List Piece}
    (reads : Reads ('$' :: (List.replicate n '$' ++ '$' :: s)) ps) :
    ∃ qs, ps = .plain ['$'] :: qs ∧ Reads (List.replicate n '$' ++ '$' :: s) qs := by
  refine reads.of_not_opens fun opens => ?_
  obtain ⟨r, same, _⟩ := opensReference_iff.1 opens
  rw [replicate_append_cons] at same
  cases same

theorem Reads.after_dollars {env : Environment} {n : Nat} {s : Text} {ps : List Piece}
    (reads : Reads (List.replicate n '$' ++ '$' :: s) ps) (set : SetIn env ps) :
    ∃ qs, Reads ('$' :: s) qs ∧ SetIn env qs := by
  induction n generalizing ps with
  | zero => exact ⟨ps, reads, set⟩
  | succ n ih =>
    obtain ⟨qs, rfl, later⟩ := Reads.of_dollars reads
    exact ih later set.tail

theorem Reads.opens_of_dollars {env : Environment} {n : Nat} {c : Char} {s t : Text}
    {ps : List Piece} (reads : Reads (List.replicate n '$' ++ '$' :: s) ps) (marks : Marks env)
    (set : SetIn env ps) (ok : joined env ps = .ok (c :: t)) (other : c ≠ '$') :
    OpensReference ('$' :: s) ∧ c = 'x' := by
  cases n with
  | zero =>
    rcases Reads.front_of_dollar reads marks set ok with ⟨opens, marked⟩ | ⟨r, same⟩
    · exact ⟨opens, Option.some.inj marked⟩
    · exact absurd (List.cons.inj same).1 other
  | succ n =>
    obtain ⟨qs, rfl, _⟩ := Reads.of_dollars reads
    obtain ⟨r, _, same⟩ := joined_plain_eq_ok.1 ok
    exact absurd (List.cons.inj same).1 other

theorem Reads.ne_nil_of_dollars {env : Environment} {n : Nat} {s t : Text} {ps : List Piece}
    (reads : Reads (List.replicate n '$' ++ '$' :: s) ps) (marks : Marks env) (set : SetIn env ps)
    (ok : joined env ps = .ok t) : t ≠ [] := by
  rintro rfl
  rw [replicate_append_cons] at reads
  rcases reads.front_of_dollar marks set ok with ⟨_, marked⟩ | ⟨r, same⟩
  · cases marked
  · cases same

/-- Two dollars are read as one, and what follows them then never amounts to what the rule makes
of it with the second dollar. The dollars in front are those that earlier pairs left over. -/
theorem Reads.joined_pieces_ne {env : Environment} {s t : Text} {n : Nat} {ps : List Piece}
    (reads : Reads (List.replicate n '$' ++ '$' :: s) ps) (marks : Marks env) (set : SetIn env ps)
    (ok : joined env ps = .ok t) : joined env (pieces s) ≠ .ok t := by
  intro same
  cases s with
  | nil =>
    rw [pieces] at same
    cases same
    exact reads.ne_nil_of_dollars marks set ok rfl
  | cons c s =>
    by_cases dollar : c = '$'
    · subst dollar
      rw [replicate_append_cons] at reads
      obtain ⟨qs, rfl, later⟩ := reads.of_dollars
      obtain ⟨r, inner, rfl⟩ := joined_plain_eq_ok.1 ok
      cases s with
      | nil =>
        rw [pieces_lone (by simp), joined_plain, pieces] at same
        cases same
        exact later.ne_nil_of_dollars marks set.tail inner rfl
      | cons d s =>
        by_cases pair : d = '$'
        · -- the reader takes this pair for one dollar as well, so one more is left over
          subst pair
          rw [replicate_append_cons] at later
          rw [pieces_doubled] at same
          obtain ⟨r', read, rest⟩ := joined_plain_eq_ok.1 same
          cases rest
          exact joined_pieces_ne (n := n + 1) later marks set.tail inner read
        · -- one dollar of each text is gone: what is left begins with `d` in one and not in the other
          obtain ⟨_, front, set'⟩ := later.after_dollars set.tail
          rcases front_of_pieces_dollar pair front marks set' same with marked | ⟨other, r', rest⟩
          · cases marked
          · cases rest
            exact other (later.opens_of_dollars marks set.tail inner pair).1
    · obtain ⟨r, rfl⟩ := front_of_pieces dollar same
      obtain ⟨opens, mark⟩ := reads.opens_of_dollars marks set ok dollar
      obtain ⟨_, brace, _⟩ := opensReference_iff.1 opens
      rw [mark] at brace
      cases brace

/-- Where the variables are set to marks, the reader agrees with the rule only if dollars stand
apart. -/
theorem Reads.isChain_apart {env : Environment} {s : Text} {ps : List Piece} (reads : Reads s ps)
    (marks : Marks env) (set : SetIn env ps) (same : joined env (pieces s) = joined env ps) :
    ps.IsChain Apart := by
  induction reads with
  | nil => exact .nil
  | reference closed names others ih =>
    rw [pieces_reference closed names, set.joined_cons marks, set.joined_cons marks] at same
    refine List.isChain_cons.2 ⟨?_, ih set.tail (map_append_left_cancel same)⟩
    rintro q _ dollar
    cases dollar
  | @plain c s ps single others ih =>
    rw [joined_plain] at same
    by_cases dollar : c = '$'
    · subst dollar
      cases s with
      | nil =>
        cases others
        exact .singleton _
      | cons d s =>
        obtain ⟨t, ok⟩ := exists_joined marks set.tail
        by_cases pair : d = '$'
        · subst pair
          rw [pieces_doubled, joined_plain] at same
          have read := (map_append_left_cancel same).trans ok
          exact absurd read (Reads.joined_pieces_ne (n := 0) others marks set.tail ok)
        · by_cases letter : isNameChar d = true
          · -- a mark stands where the rule keeps the dollar
            obtain ⟨name, rest, bare⟩ := pieces_bare (s := s) letter
            rw [bare, ok] at same
            cases head_of_bare marks same
          · obtain ⟨qs, rfl, later⟩ := others.of_plain pair
            refine List.isChain_cons_cons.2 ⟨fun _ => by simp [joins, pair, letter], ?_⟩
            refine ih set.tail (map_append_left_cancel (s := ['$']) ?_)
            rw [← same]
            by_cases brace : d = '{'
            · subst brace
              exact (joined_unclosed (not_mem_of_not_opens single) env).symm
            · rw [pieces_lone (by simp [opening, pair, brace, letter]), joined_plain]
    · rw [pieces_cons dollar, joined_plain] at same
      refine List.isChain_cons.2 ⟨?_, ih set.tail (map_append_left_cancel same)⟩
      rintro q _ same
      cases same
      exact absurd rfl dollar

def marked (env : Environment) : Environment :=
  ⟨env.bindings.map fun (name, _) => (name, ['x'])⟩

theorem get?_marked (env : Environment) (name : Text) :
    env.marked.get? name = (env.get? name).map fun _ => ['x'] := by
  rw [get?, get?, marked]
  split
  · rfl
  · rw [List.find?_map, Option.map_map, Option.map_map]
    rfl

theorem marks_marked (env : Environment) : env.marked.Marks := by
  intro name v found
  rw [get?_marked] at found
  obtain ⟨_, _, same⟩ := Option.map_eq_some_iff.1 found
  exact same.symm

end Environment

namespace Config
open Environment

theorem expandSettings_eq_iff {env : Environment} {s : Text} (fit : ObjectFit)
    {r : Except Text Text} :
    expandSettings env ⟨s, fit⟩ = (r.map fun t => ⟨t, fit⟩).mapError .unsetVariable ↔
      env.expand s = r := by
  rw [expandSettings]
  cases env.expand s with
  | error name => cases r <;> simp [Except.mapError, Except.map, bind, Except.bind]
  | ok t => cases r <;> simp [Except.mapError, Except.map, bind, Except.bind, pure, Except.pure]

theorem expand_of_mentions {s : Text} (braced : opening <:+: s) (env : Environment) :
    env.expand s = joined env (pieces s) := by
  rw [expand, expandable, if_pos (mentionsBrace_iff.2 braced), joined]

theorem expand_of_not_mentions {s : Text} (plain : ¬ opening <:+: s) (env : Environment) :
    env.expand s = .ok s := by
  rw [expand, expandable, if_neg fun braced => plain (mentionsBrace_iff.1 braced)]
  simp [List.mapM_cons, value, Except.map, bind, Except.bind, pure, Except.pure]

/-- Whatever the variables are, the text becomes in the settings what the rule makes of it. The
other settings stay. -/
def ExpandsByRule (s : Text) : Prop :=
  ∀ env fit r, expandSettings env ⟨s, fit⟩ =
    (r.map fun t => ⟨t, fit⟩).mapError .unsetVariable ↔ Expands env s r

/-- If no copied dollar can be taken for more, pieces are what they are meant to be. -/
theorem expandsByRule_of_apart {s : Text} (apart : opening <:+: s → DollarsApart s) :
    ExpandsByRule s := by
  intro env fit r
  obtain ⟨ps, reads⟩ := exists_reads s
  rw [expandSettings_eq_iff, expands_iff reads]
  by_cases braced : opening <:+: s
  · rw [expand_of_mentions braced, joined_pieces reads (apart braced ps reads)]
  · rw [expand_of_not_mentions braced, reads.joined_of_not_mentions braced]

/-- One environment is enough to tell: that in which all variables have the mark for their value. -/
theorem apart_of_expandsByRule {s : Text} (settable : ∃ env, Sets env s)
    (rule : ExpandsByRule s) (braced : opening <:+: s) : DollarsApart s := by
  obtain ⟨env, sets⟩ := settable
  intro ps reads
  have set : SetIn env.marked ps := by
    intro name default member
    obtain ⟨v, found⟩ := sets ps reads name default member
    exact ⟨['x'], by rw [get?_marked, found, Option.map_some]⟩
  refine reads.isChain_apart (marks_marked env) set ?_
  rw [← expand_of_mentions braced, ← expandSettings_eq_iff .cover, rule, expands_iff reads]

/-- References in braces are expanded as the rule wants it in every text that has none of them, or
in which no dollar that stands for itself is followed by a dollar, a reference, a letter or
another character of a name. No other text comes out right under every environment, unless it
names a variable that cannot be set. -/
theorem expandsByRule_iff (s : Text) :
    ((opening <:+: s → DollarsApart s) → ExpandsByRule s) ∧
      ((∃ env, Sets env s) → ExpandsByRule s → opening <:+: s → DollarsApart s) :=
  ⟨expandsByRule_of_apart, apart_of_expandsByRule⟩

theorem reads_after_reference {s : Text} {ps : List Piece} (others : Reads s ps) :
    Reads ("$\x7bA\x7d".toList ++ s) (.reference ['A'] none :: ps) := by
  have closed : '}' ∉ ['A'] := by decide
  have whole : Names ['A'] ['A'] none := .name (.inl (by decide))
  exact .reference closed whole others

/-- The dollar before a hyphen stays. -/
theorem expandsByRule_hyphen :
    DollarsApart "$\x7bA\x7d$-".toList ∧ ExpandsByRule "$\x7bA\x7d$-".toList := by
  have parts : Reads "$\x7bA\x7d$-".toList [.reference ['A'] none, .plain ['$'], .plain ['-']] :=
    reads_after_reference (.plain (by simp [opensReference_iff])
      (.plain (not_opensReference (by decide)) .nil))
  have unjoined : joins (.plain ['-']) = false := by decide +kernel
  have apart : DollarsApart "$\x7bA\x7d$-".toList := by
    intro ps reads
    rw [reads.unique parts]
    simp [Apart, unjoined]
  exact ⟨apart, (expandsByRule_iff _).1 fun _ => apart⟩

/-- A name behind a dollar is replaced as well if there is a reference in braces elsewhere. -/
theorem not_expandsByRule_bare :
    (∃ env, expandSettings env ⟨"$\x7bA\x7d$B".toList, .cover⟩ = .ok ⟨"xy".toList, .cover⟩ ∧
      Expands env "$\x7bA\x7d$B".toList (.ok "x$B".toList)) ∧
      ¬ ExpandsByRule "$\x7bA\x7d$B".toList := by
  have parts : Reads "$\x7bA\x7d$B".toList [.reference ['A'] none, .plain ['$'], .plain ['B']] :=
    reads_after_reference (.plain (by simp [opensReference_iff])
      (.plain (not_opensReference (by decide)) .nil))
  let env : Environment := ⟨[("A".toList, "x".toList), ("B".toList, "y".toList)]⟩
  have expanded : expandSettings env ⟨"$\x7bA\x7d$B".toList, .cover⟩ =
      .ok ⟨"xy".toList, .cover⟩ := by decide +kernel
  have wanted : Expands env "$\x7bA\x7d$B".toList (.ok "x$B".toList) :=
    (expands_iff parts).2 (by decide +kernel)
  refine ⟨⟨env, expanded, wanted⟩, fun rule => ?_⟩
  have same := expanded.symm.trans ((rule env .cover _).2 wanted)
  revert same
  decide

end Config
end AltStyle
