import AltStyle.Directive.Round
import AltStyle.Proofs.RoundTrip

/-! Reading a text and writing it again and again. Raw text and functional colors are written
without the delimiters that they were read with, so that they may be anything else the next
time. Every other value is written as it can be read. No writing adds a delimiter, so only as
many rounds can change something as there are delimiters in the first text. -/
namespace AltStyle
open Grammar

namespace Text

/-- The number of ampersands and number signs, which raw text and colors begin with. -/
def weight (s : Text) : Nat :=
  s.count '&' + s.count '#'

theorem weight_append (s t : Text) : weight (s ++ t) = weight s + weight t := by
  simp only [weight, List.count_append]
  omega

theorem weight_cons (c : Char) (s : Text) : weight (c :: s) = weight [c] + weight s :=
  weight_append [c] s

theorem weight_eq_zero {p : Char → Bool} {s : Text} (ampersand : p '&' = false)
    (sharp : p '#' = false) (inside : ∀ c ∈ s, p c = true) : weight s = 0 := by
  have no_ampersand : s.count '&' = 0 := by
    rw [List.count_eq_zero]
    intro member
    rw [inside _ member] at ampersand
    cases ampersand
  have no_sharp : s.count '#' = 0 := by
    rw [List.count_eq_zero]
    intro member
    rw [inside _ member] at sharp
    cases sharp
  rw [weight, no_ampersand, no_sharp]

theorem weight_backslash : weight ['\\'] = 0 := rfl

theorem weight_unescape (s : Text) : weight (unescape s) ≤ weight s := by
  fun_induction unescape s with
  | case1 => exact Nat.le_refl _
  | case2 => exact Nat.le_refl _
  | case3 c s ih =>
    rw [weight_cons '\\', weight_cons c s, weight_cons c (unescape s)]
    omega
  | case4 c s _ _ ih =>
    rw [weight_cons c s, weight_cons c (unescape s)]
    omega

theorem weight_escape (special : Char → Bool) (s : Text) : weight (escape special s) = weight s := by
  induction s with
  | nil => rfl
  | cons c s ih =>
    rw [escape_cons, weight_append, ih, weight_cons c s]
    split
    · rw [weight_cons '\\', weight_backslash, Nat.zero_add]
    · rfl

theorem weight_quote (s : Text) : weight (quote s) = weight s := by
  have mark : weight ['"'] = 0 := rfl
  rw [quote, weight_append, weight_append, weight_escape, mark, Nat.zero_add, Nat.add_zero]

theorem weight_delimited (o d : Char) (s : Text) :
    weight (o :: (s ++ [d])) = weight [o] + weight s + weight [d] := by
  rw [weight_cons, weight_append, Nat.add_assoc]

end Text

namespace Kind

def IsBare (k : Kind) (value : Text) : Prop :=
  k = .raw ∨ k = .color ∧ "rgba(".toList <+: value

instance (k : Kind) (value : Text) : Decidable (k.IsBare value) :=
  inferInstanceAs (Decidable (_ ∨ _))

theorem weight_rgba {v : Text} (functional : IsFunctionalColor v) :
    Text.weight (rgba v) < Text.weight v := by
  obtain ⟨channels, inside, rfl⟩ := functional
  have light := Text.weight_eq_zero (p := isFunctionChannel) rfl rfl
    (isFunctionChannel_of_mem_slashed inside)
  have name : Text.weight "rgba(".toList = 0 := rfl
  have bracket : Text.weight [')'] = 0 := rfl
  have sharp : Text.weight ['#'] = 1 := rfl
  rw [rgba_delimited, Text.weight_append, Text.weight_append, light, name, bracket,
    Text.weight_cons, sharp]
  omega

/-- Normalizing adds no weight, and it takes some away if the delimiters are lost. -/
theorem weight_normalize {k : Kind} {v : Text} (value : IsValue k v) :
    Text.weight (normalize k v) + (if k.IsBare (normalize k v) then 1 else 0) ≤
      Text.weight v := by
  cases value with
  | number some_digit numerals => exact Nat.le_refl _
  | @string o d s closes body =>
    have inner := Text.weight_unescape s
    have whole := Text.weight_delimited o d s
    rw [normalize_string closes, Text.weight_quote, if_neg (by simp [IsBare])]
    omega
  | @functionalColor s channels =>
    have functional : IsFunctionalColor ('#' :: '(' :: (s ++ [')'])) := ⟨s, channels, rfl⟩
    have lighter := weight_rgba functional
    rw [normalize_functionalColor functional]
    split
    all_goals omega
  | @hexColor s digits =>
    have hex : IsHexColor ('#' :: s) := ⟨s, digits, rfl⟩
    rw [normalize_hexColor hex, if_neg (by simp [IsBare]), Nat.add_zero]
  | @raw s body =>
    have inner := Text.weight_unescape s
    have whole := Text.weight_delimited '&' '&' s
    have mark : Text.weight ['&'] = 1 := rfl
    rw [normalize_raw, if_pos (.inl rfl)]
    omega

end Kind

namespace Argument

theorem plain_eq_source {a : Argument} (kept : ¬ a.kind.IsBare a.value) : a.plain = a.source := by
  obtain ⟨name, kind, value, unit⟩ := a
  have same : valueSource ⟨name, kind, value, unit⟩ = value := by
    cases kind with
    | numeric => rfl
    | string => rfl
    | color =>
      have hex : Text.after? "rgba(".toList value = none := by
        rw [Option.eq_none_iff_forall_ne_some]
        intro channels opened
        exact kept (.inr ⟨rfl, channels, (Text.after?_eq_some_iff.1 opened).symm⟩)
      simp only [valueSource, hex]
    | raw => exact absurd (.inl rfl) kept
  rw [plain, source, same]

def bareCount (l : List Argument) : Nat :=
  l.countP fun a => a.kind.IsBare a.value

theorem weight_plain (a : Argument) :
    Text.weight a.plain = Text.weight ['-'] + (Text.weight (a.name.getD []) + Text.weight a.value +
      Text.weight (a.unit.getD [])) := by
  rw [plain, Text.weight_cons, Text.weight_append, Text.weight_append]

theorem weight_argument? {a : Source} {x : Argument} (written : a.argument? = some x) :
    Text.weight x.plain + (if x.kind.IsBare x.value then 1 else 0) ≤ Text.weight a.text := by
  obtain ⟨k, kind, rfl⟩ := Option.map_eq_some_iff.1 written
  have lighter := Kind.weight_normalize (Kind.ofValue?_eq_some_iff.1 kind)
  have whole : Text.weight a.text =
      Text.weight ['-'] + (Text.weight a.name + Text.weight a.value + Text.weight a.unit) := by
    rw [Source.text, Text.weight_cons, Text.weight_append, Text.weight_append]
  have unit : Text.weight ((if k = .numeric ∧ a.unit ≠ [] then some a.unit else none).getD []) ≤
      Text.weight a.unit := by
    split
    · exact Nat.le_refl _
    · exact Nat.zero_le _
  simp only [weight_plain, whole, Text.getD_none_of_nil]
  omega

theorem weight_filterMap {l : List Source} (sources : ∀ a ∈ l, IsSource a) :
    Text.weight ((l.filterMap Source.argument?).flatMap plain) +
      bareCount (l.filterMap Source.argument?) ≤ Text.weight (l.flatMap (·.text)) := by
  induction l with
  | nil => exact Nat.le_refl _
  | cons a l ih =>
    obtain ⟨x, written⟩ := Source.exists_argument (sources a List.mem_cons_self)
    have first := weight_argument? written
    have others := ih fun b inside => sources b (List.mem_cons_of_mem a inside)
    rw [List.filterMap_cons_some written, List.flatMap_cons, List.flatMap_cons, Text.weight_append,
      Text.weight_append, bareCount, List.countP_cons]
    rw [bareCount] at others
    simp only [decide_eq_true_eq]
    omega

end Argument

namespace Directive

def bareCount (ds : List Directive) : Nat :=
  Argument.bareCount (ds.flatMap (·.args))

theorem bareCount_cons (d : Directive) (ds : List Directive) :
    bareCount (d :: ds) = Argument.bareCount d.args + bareCount ds := by
  rw [bareCount, List.flatMap_cons, Argument.bareCount, List.countP_append]
  rfl

theorem not_isBare_of_bareCount {ds : List Directive} (nothing : bareCount ds = 0) :
    ∀ d ∈ ds, ∀ a ∈ d.args, ¬ a.kind.IsBare a.value := by
  intro d member a inside
  rw [bareCount, Argument.bareCount, List.countP_eq_zero] at nothing
  simpa using nothing a (List.mem_flatMap.2 ⟨d, member, inside⟩)

theorem plain_cons (p : Prefix) (d : Directive) (ds : List Directive) :
    plain p (d :: ds) = p.text ++ d.name ++ d.args.flatMap Argument.plain ++
      (if ds = [] then [] else ' ' :: plain p ds) := by
  cases ds with
  | nil => simp [plain, write]
  | cons e ds => simp [plain, write, List.intercalate]

theorem weight_plain_cons (p : Prefix) (d : Directive) (ds : List Directive) :
    Text.weight (plain p (d :: ds)) = Text.weight p.text + Text.weight d.name +
      Text.weight (d.args.flatMap Argument.plain) + Text.weight (plain p ds) := by
  have rest : Text.weight (if ds = [] then [] else ' ' :: plain p ds) =
      Text.weight (plain p ds) := by
    split
    · next last =>
      rw [last]
      rfl
    · have blank : Text.weight [' '] = 0 := rfl
      rw [Text.weight_cons, blank, Nat.zero_add]
  simp only [plain_cons, Text.weight_append, rest]

theorem weight_ofOccurrence {p : Prefix} (offset : Nat) {b : Body} (settled : IsSettledBody b) :
    let d := ofOccurrence (Occurrence.ofBody p offset b)
    Text.weight d.name + Text.weight (d.args.flatMap Argument.plain) + Argument.bareCount d.args ≤
      Text.weight b.text := by
  have lighter := Argument.weight_filterMap settled.isBody.sources
  rw [ofOccurrence_ofBody offset settled, Body.text, Body.tail, Text.weight_append]
  dsimp only
  omega

/-- What is written of the directives of a text weighs no more than the text, and every argument
that is written without its delimiters makes it lighter. -/
theorem weight_scan {p : Prefix} {offset : Nat} {opens : Bool} {s : Text} :
    Text.weight (plain p ((Occurrence.scan p offset opens s).map ofOccurrence)) +
      bareCount ((Occurrence.scan p offset opens s).map ofOccurrence) ≤ Text.weight s := by
  fun_induction Occurrence.scan p offset opens s with
  | case1 => exact Nat.zero_le _
  | case2 offset opens s found first here others reported ih =>
    obtain ⟨settled, whole, _⟩ := Found.parts_of_first? first
    have lighter : Text.weight (ofOccurrence here).name +
        Text.weight ((ofOccurrence here).args.flatMap Argument.plain) +
        Argument.bareCount (ofOccurrence here).args ≤ Text.weight found.body.text :=
      weight_ofOccurrence _ settled
    have later : Text.weight (plain p (others.map ofOccurrence)) +
        bareCount (others.map ofOccurrence) ≤ Text.weight found.rest := ih
    rw [List.map_cons, weight_plain_cons, bareCount_cons, whole]
    simp only [Text.weight_append]
    omega
  | case3 offset opens s found first here others reported ih =>
    obtain ⟨_, whole, _⟩ := Found.parts_of_first? first
    have later : Text.weight (plain p (others.map ofOccurrence)) +
        bareCount (others.map ofOccurrence) ≤ Text.weight found.rest := ih
    rw [whole]
    simp only [Text.weight_append]
    omega

/-- The step: a round never adds weight, and each argument without its delimiters costs some. -/
theorem weight_round (p : Prefix) (s : Text) :
    Text.weight (round p s).2 + bareCount (round p s).1 ≤ Text.weight s :=
  weight_scan

theorem plain_eq_source {p : Prefix} {ds : List Directive}
    (kept : ∀ d ∈ ds, ∀ a ∈ d.args, ¬ a.kind.IsBare a.value) : plain p ds = source p ds := by
  have parts : ds.map (fun d => p.text ++ d.name ++ d.args.flatMap Argument.plain) =
      ds.map fun d => p.text ++ d.name ++ d.args.flatMap Argument.source := by
    apply List.map_congr_left
    intro d member
    have args : d.args.map Argument.plain = d.args.map Argument.source :=
      List.map_congr_left fun a inside => Argument.plain_eq_source (kept d member a inside)
    rw [List.flatMap_def, List.flatMap_def, args]
  rw [plain, source, write, write, parts]

/-- A round that keeps all delimiters is repeated by the next one. -/
theorem round_round {p : Prefix} {s : Text}
    (kept : ∀ d ∈ (round p s).1, ∀ a ∈ d.args, ¬ a.kind.IsBare a.value) :
    round p (round p s).2 = round p s := by
  have normal : ∀ d ∈ parse p s, IsDirective p d := by
    intro d member
    obtain ⟨o, reported, rfl⟩ := List.mem_map.1 member
    exact isDirective_ofOccurrence reported
  have again : parse p (round p s).2 = parse p s := by
    -- what was written is the source form, which is read back
    have written : (round p s).2 = source p (parse p s) := plain_eq_source kept
    rw [written]
    exact scan_source 0 normal
  rw [round, again]
  rfl

theorem rounds_eq_replicate {p : Prefix} {s : Text} (steady : round p (round p s).2 = round p s)
    (n : Nat) : rounds p n s = List.replicate n (round p s) := by
  induction n generalizing s with
  | zero => rfl
  | succ n ih =>
    have next : round p (round p (round p s).2).2 = round p (round p s).2 := by
      rw [steady, steady]
    rw [rounds, ih next, steady, List.replicate_succ]

theorem drop_rounds_of_steady {p : Prefix} {s : Text}
    (steady : round p (round p s).2 = round p s) (n k : Nat) :
    (rounds p n s).drop k = List.replicate (n - k) (round p s) := by
  rw [rounds_eq_replicate steady, List.drop_replicate]

/-- By induction on the weight. A round is steady, or it leaves less weight for the others. -/
theorem exists_drop_rounds {p : Prefix} {m : Nat} {s : Text} (light : Text.weight s ≤ m) :
    ∃ r, ∀ n, (rounds p n s).drop m = List.replicate (n - m) r := by
  induction m generalizing s with
  | zero =>
    have lighter := weight_round p s
    have nothing : bareCount (round p s).1 = 0 := by omega
    exact ⟨_, fun n => drop_rounds_of_steady (round_round (not_isBare_of_bareCount nothing)) n 0⟩
  | succ m ih =>
    by_cases nothing : bareCount (round p s).1 = 0
    · exact ⟨_, fun n =>
        drop_rounds_of_steady (round_round (not_isBare_of_bareCount nothing)) n (m + 1)⟩
    · -- the next text is lighter, so its rounds are alike one round earlier
      have lighter := weight_round p s
      obtain ⟨r, others⟩ := ih (s := (round p s).2) (by omega)
      refine ⟨r, fun n => ?_⟩
      cases n with
      | zero => rw [rounds, List.drop_nil, Nat.zero_sub, List.replicate_zero]
      | succ n => rw [rounds, List.drop_succ_cons, others, Nat.add_sub_add_right]

theorem drop_rounds_of_kept {p : Prefix} {s : Text} {n k : Nat} {r : List Directive × Text}
    (found : (rounds p n s)[k]? = some r)
    (kept : ∀ d ∈ r.1, ∀ a ∈ d.args, ¬ a.kind.IsBare a.value) :
    (rounds p n s).drop k = List.replicate (n - k) r := by
  induction k generalizing s n with
  | zero =>
    cases n with
    | zero => cases found
    | succ n =>
      cases found
      exact drop_rounds_of_steady (round_round kept) (n + 1) 0
  | succ k ih =>
    cases n with
    | zero => cases found
    | succ n =>
      rw [rounds, List.getElem?_cons_succ] at found
      rw [rounds, List.drop_succ_cons, ih found, Nat.add_sub_add_right]

/-- However often a text is read and written again, all rounds after the first `m + 1` are alike,
where `m` is the number of its ampersands and number signs. Already a round without raw text and
without functional colors is like all after it. -/
theorem rounds_converge (p : Prefix) (s : Text) :
    (∃ r, ∀ n, (rounds p n s).drop (s.count '&' + s.count '#') =
        List.replicate (n - (s.count '&' + s.count '#')) r) ∧
      ∀ n k r, (rounds p n s)[k]? = some r →
        (∀ d ∈ r.1, ∀ a ∈ d.args,
          a.kind ≠ .raw ∧ ¬ (a.kind = .color ∧ "rgba(".toList <+: a.value)) →
        (rounds p n s).drop k = List.replicate (n - k) r := by
  refine ⟨exists_drop_rounds (Nat.le_refl _), ?_⟩
  intro n k r found kept
  apply drop_rounds_of_kept found
  intro d member a inside
  rw [Kind.IsBare, not_or]
  exact kept d member a inside

def nested : Text :=
  "a-&1 b-\\&2\\&&".toList

def unnested : List Directive × Text :=
  ([⟨['a'], [⟨none, .numeric, ['1'], none⟩]⟩, ⟨['b'], [⟨none, .numeric, ['2'], none⟩]⟩],
    "a-1 b-2".toList)

theorem rounds_converge_nested :
    (rounds .none 5 nested)[2]? = some unnested ∧
      (rounds .none 5 nested).drop 2 = List.replicate 3 unnested := by
  have found : (rounds .none 5 nested)[2]? = some unnested := by decide +kernel
  exact ⟨found, (rounds_converge .none nested).2 5 2 unnested found (by decide)⟩

end Directive
end AltStyle
