import AltStyle.Proofs.Characters

/-! The readers of values take exactly the values of the grammar. What follows a value matters
to numbers and hexadecimal colors only, because every other form has a character of its own
that ends it. -/
namespace AltStyle
open Grammar

namespace Grammar

def IsFunctionalColor (v : Text) : Prop :=
  ∃ channels : Text, (∀ c ∈ channels, Value.isChannel c = true) ∧
    v = '#' :: '(' :: (channels ++ [')'])

def IsHexColor (v : Text) : Prop :=
  ∃ digits : Text, (∀ c ∈ digits, Text.isHexDigit c = true) ∧ v = '#' :: digits

theorem IsHexColor.not_functional {v : Text} (hex : IsHexColor v) : ¬ IsFunctionalColor v := by
  intro functional
  obtain ⟨digits, hex, rfl⟩ := hex
  obtain ⟨channels, _, same⟩ := functional
  cases same
  exact absurd (hex '(' (List.mem_cons_self)) (by decide)

theorem isValue_numeric_iff {v : Text} :
    IsValue .numeric v ↔ v ≠ [] ∧ ∀ c ∈ v, Value.isNumeral c = true := by
  constructor
  · intro value
    cases value with
    | number some_digit numerals => exact ⟨some_digit, numerals⟩
  · intro digits
    exact .number digits.1 digits.2

theorem isValue_string_iff {v : Text} :
    IsValue .string v ↔ ∃ o d s, Value.stringClose? o = some d ∧ IsProtected d s ∧
      v = o :: (s ++ [d]) := by
  constructor
  · intro value
    cases value with
    | string closes body => exact ⟨_, _, _, closes, body, rfl⟩
  · intro quoted
    obtain ⟨o, d, s, closes, body, rfl⟩ := quoted
    exact .string closes body

theorem isValue_color_iff {v : Text} :
    IsValue .color v ↔ IsFunctionalColor v ∨ IsHexColor v := by
  constructor
  · intro value
    cases value with
    | functionalColor channels => exact .inl ⟨_, channels, rfl⟩
    | hexColor digits => exact .inr ⟨_, digits, rfl⟩
  · intro color
    rcases color with ⟨s, channels, rfl⟩ | ⟨s, digits, rfl⟩
    · exact .functionalColor channels
    · exact .hexColor digits

theorem isValue_raw_iff {v : Text} :
    IsValue .raw v ↔ ∃ s, IsProtected '&' s ∧ v = '&' :: (s ++ ['&']) := by
  constructor
  · intro value
    cases value with
    | raw body => exact ⟨_, body, rfl⟩
  · intro delimited
    obtain ⟨s, body, rfl⟩ := delimited
    exact .raw body

def opening? (c : Char) : Option Kind :=
  if Value.isNumeral c then some .numeric
  else if (Value.stringClose? c).isSome then some .string
  else if c = '#' then some .color
  else if c = '&' then some .raw
  else none

theorem isNumeral_of_stringClose? {o d : Char} (closes : Value.stringClose? o = some d) :
    Value.isNumeral o = false := by
  unfold Value.stringClose? at closes
  split at closes
  all_goals first | decide | cases closes

theorem ne_backslash_of_stringClose? {o d : Char} (closes : Value.stringClose? o = some d) :
    d ≠ '\\' := by
  unfold Value.stringClose? at closes
  split at closes
  all_goals cases closes
  all_goals decide

/-- A value shows its kind by its first character. -/
theorem IsValue.opens {k : Kind} {v : Text} (value : IsValue k v) :
    ∃ c s, v = c :: s ∧ opening? c = some k := by
  cases value with
  | @number s some_digit numerals =>
    obtain ⟨c, r, rfl⟩ := List.exists_cons_of_ne_nil some_digit
    have numeral := numerals c (List.mem_cons_self)
    exact ⟨c, r, rfl, by simp [opening?, numeral]⟩
  | @string o d s closes body =>
    have plain := isNumeral_of_stringClose? closes
    exact ⟨o, s ++ [d], rfl, by simp [opening?, plain, closes]⟩
  | functionalColor channels => exact ⟨_, _, rfl, rfl⟩
  | hexColor digits => exact ⟨_, _, rfl, rfl⟩
  | raw body => exact ⟨_, _, rfl, rfl⟩

/-- So no value is of two kinds. -/
theorem IsValue.kind_eq {k l : Kind} {v : Text} (one : IsValue k v) (other : IsValue l v) :
    k = l := by
  obtain ⟨c, s, rfl, first⟩ := one.opens
  obtain ⟨d, t, same, second⟩ := other.opens
  cases same
  exact Option.some.inj (first.symm.trans second)

theorem IsValue.not_hexColor {k : Kind} {v : Text} (value : IsValue k v)
    (colorless : k ≠ .color) : ¬ IsHexColor v := by
  intro hex
  exact colorless (value.kind_eq (isValue_color_iff.2 (.inr hex)))

theorem mem_of_opening? {c : Char} {k : Kind} (opens : opening? c = some k) :
    Value.isNumeral c = true ∨ c ∈ ['"', '\'', '{', '#', '&'] := by
  unfold opening? at opens
  split at opens
  · next numeral => exact .inl numeral
  right
  split at opens
  · next closes =>
    unfold Value.stringClose? at closes
    split at closes
    · simp
    · simp
    · simp
    · cases closes
  split at opens
  · next sharp => simp [sharp]
  split at opens
  · next ampersand => simp [ampersand]
  · cases opens

theorem isLower_of_opening? {c : Char} {k : Kind} (opens : opening? c = some k) :
    c.isLower = false := by
  rcases mem_of_opening? opens with numeral | mark
  · rw [Bool.eq_false_iff]
    intro letter
    rw [Value.isNumeral_of_isLower letter] at numeral
    cases numeral
  · have marks : ['"', '\'', '{', '#', '&'].all (fun d => !d.isLower) = true := by decide
    simpa using List.all_eq_true.1 marks c mark

theorem IsValue.stops_isLower {k : Kind} {v : Text} (value : IsValue k v) (rest : Text) :
    Text.Stops Char.isLower (v ++ rest) := by
  obtain ⟨c, s, rfl, opens⟩ := value.opens
  exact Text.stops_cons.2 (isLower_of_opening? opens)

theorem isWhiteSpace_of_opening? {c : Char} {k : Kind} (opens : opening? c = some k) :
    Text.isWhiteSpace c = false := by
  rcases mem_of_opening? opens with numeral | mark
  · exact Value.isWhiteSpace_of_isNumeral numeral
  · have marks : ['"', '\'', '{', '#', '&'].all (fun d => !Text.isWhiteSpace d) = true := by decide
    simpa using List.all_eq_true.1 marks c mark

theorem isWhiteSpace_of_stringClose? {o d : Char} (closes : Value.stringClose? o = some d) :
    Text.isWhiteSpace d = false := by
  unfold Value.stringClose? at closes
  split at closes
  all_goals cases closes
  all_goals decide

theorem visible_hexColor {s : Text} (digits : ∀ c ∈ s, Text.isHexDigit c = true) :
    ∀ c ∈ '#' :: s, Text.isWhiteSpace c = false :=
  List.forall_mem_cons.2
    ⟨by decide, fun c digit => Text.isWhiteSpace_of_isHexDigit (digits c digit)⟩

theorem IsValue.endsVisibly {k : Kind} {v : Text} (value : IsValue k v) :
    Text.EndsVisibly v := by
  cases value with
  | number some_digit numerals =>
    exact Text.endsVisibly_of_forall fun c digit =>
      Value.isWhiteSpace_of_isNumeral (numerals c digit)
  | @string o d s closes body =>
    have visible := isWhiteSpace_of_stringClose? closes
    rw [← List.cons_append]
    exact Text.endsVisibly_concat visible
  | @functionalColor s channels =>
    rw [← List.cons_append, ← List.cons_append]
    exact Text.endsVisibly_concat (by decide)
  | hexColor digits => exact Text.endsVisibly_of_forall (visible_hexColor digits)
  | @raw s body =>
    rw [← List.cons_append]
    exact Text.endsVisibly_concat (by decide)

end Grammar

namespace Value

/-- Completeness of the reader of delimited values. -/
theorem throughClose?_of_isProtected {close : Char} {s : Text} (plain : close ≠ '\\')
    (body : IsProtected close s) (rest : Text) :
    throughClose? close (s ++ close :: rest) = some (s ++ [close], rest) := by
  induction body with
  | nil =>
    rw [List.nil_append, throughClose?]
    · simp
    · intro c r escaped
      cases escaped
      exact absurd rfl plain
  | @plain c s inside unescaped others ih =>
    rw [List.cons_append, throughClose?]
    · simp [inside, ih]
    · intro d r escaped
      cases escaped
      exact absurd rfl unescaped
  | escaped c others ih =>
    rw [List.cons_append, List.cons_append, throughClose?, ih]
    rfl

/-- Soundness of the same reader. -/
theorem isProtected_of_throughClose? {close : Char} {s v rest : Text}
    (found : throughClose? close s = some (v, rest)) :
    ∃ body, IsProtected close body ∧ v = body ++ [close] ∧ s = v ++ rest := by
  fun_induction throughClose? close s generalizing v rest with
  | case1 => cases found
  | case2 c s ih =>
    obtain ⟨⟨w, tail⟩, inner, same⟩ := Option.map_eq_some_iff.1 found
    cases same
    obtain ⟨body, isBody, rfl, rfl⟩ := ih inner
    exact ⟨'\\' :: c :: body, .escaped c isBody, rfl, rfl⟩
  | case3 s ordinary =>
    cases found
    exact ⟨[], .nil, rfl, rfl⟩
  | case4 c s ordinary inside ih =>
    obtain ⟨⟨w, tail⟩, inner, same⟩ := Option.map_eq_some_iff.1 found
    cases same
    obtain ⟨body, isBody, rfl, rfl⟩ := ih inner
    refine ⟨c :: body, .plain inside ?_ isBody, rfl, rfl⟩
    -- a backslash that protects nothing would be the last character of the text
    intro backslash
    subst backslash
    cases body with
    | nil => exact ordinary _ _ rfl rfl
    | cons d body => exact ordinary _ _ rfl rfl

theorem number?_eq_some_iff {s v rest : Text} :
    number? s = some (v, rest) ↔
      IsValue .numeric v ∧ s = v ++ rest ∧ Text.Stops isNumeral rest := by
  rw [isValue_numeric_iff]
  constructor
  · intro found
    obtain ⟨whole, some_digit⟩ := splits_number? s v rest found
    unfold number? at found
    split at found
    · cases found
    · cases found
      exact ⟨⟨some_digit, fun c digit => List.mem_takeWhile_imp digit⟩, whole.symm,
        Text.stops_dropWhile _ _⟩
  · intro value
    obtain ⟨⟨some_digit, numerals⟩, rfl, ends⟩ := value
    have digits := Text.takeWhile_run numerals ends
    have after := Text.dropWhile_run numerals ends
    unfold number?
    rw [digits, after]
    split
    · exact absurd rfl some_digit
    · rfl

theorem string?_eq_some_iff {s v rest : Text} :
    string? s = some (v, rest) ↔ IsValue .string v ∧ s = v ++ rest := by
  rw [isValue_string_iff]
  constructor
  · intro found
    cases s with
    | nil => cases found
    | cons o s =>
      simp only [string?, Option.bind_eq_bind, Option.bind_eq_some_iff] at found
      obtain ⟨d, closes, ⟨w, tail⟩, inner, same⟩ := found
      cases same
      obtain ⟨body, isBody, rfl, rfl⟩ := isProtected_of_throughClose? inner
      exact ⟨⟨o, d, body, closes, isBody, rfl⟩, rfl⟩
  · intro value
    obtain ⟨⟨o, d, body, closes, isBody, rfl⟩, rfl⟩ := value
    have inner := throughClose?_of_isProtected (ne_backslash_of_stringClose? closes) isBody rest
    simp [string?, closes, inner]

theorem functionalColor?_eq_some_iff {s v rest : Text} :
    functionalColor? s = some (v, rest) ↔ IsFunctionalColor v ∧ s = v ++ rest := by
  constructor
  · intro found
    have whole := (splits_functionalColor? s v rest found).1.symm
    unfold functionalColor? at found
    split at found
    · split at found
      · cases found
        exact ⟨⟨_, fun c channel => List.mem_takeWhile_imp channel, rfl⟩, whole⟩
      · cases found
    · cases found
  · intro value
    obtain ⟨⟨channels, inside, rfl⟩, rfl⟩ := value
    have ends : Text.Stops isChannel (')' :: rest) := Text.stops_cons.2 (by decide)
    have before := Text.takeWhile_run inside ends
    have after := Text.dropWhile_run inside ends
    simp [functionalColor?, before, after]

theorem hexColor?_eq_some_iff {s v rest : Text} :
    hexColor? s = some (v, rest) ↔
      IsHexColor v ∧ s = v ++ rest ∧ Text.Stops Text.isHexDigit rest := by
  constructor
  · intro found
    have whole := (splits_hexColor? s v rest found).1.symm
    unfold hexColor? at found
    split at found
    · cases found
      exact ⟨⟨_, fun c digit => List.mem_takeWhile_imp digit, rfl⟩, whole,
        Text.stops_dropWhile _ _⟩
    · cases found
  · intro value
    obtain ⟨⟨digits, hex, rfl⟩, rfl, ends⟩ := value
    have before := Text.takeWhile_run hex ends
    have after := Text.dropWhile_run hex ends
    simp [hexColor?, before, after]

theorem raw?_eq_some_iff {s v rest : Text} :
    raw? s = some (v, rest) ↔ IsValue .raw v ∧ s = v ++ rest := by
  rw [isValue_raw_iff]
  constructor
  · intro found
    unfold raw? at found
    split at found
    · obtain ⟨⟨w, tail⟩, inner, same⟩ := Option.map_eq_some_iff.1 found
      cases same
      obtain ⟨body, isBody, rfl, rfl⟩ := isProtected_of_throughClose? inner
      exact ⟨⟨body, isBody, rfl⟩, rfl⟩
    · cases found
  · intro value
    obtain ⟨⟨body, isBody, rfl⟩, rfl⟩ := value
    have inner := throughClose?_of_isProtected (by decide) isBody rest
    simp [raw?, inner]

theorem number?_eq_none {s : Text} (other : Text.Stops isNumeral s) : number? s = none := by
  unfold number?
  rw [Text.takeWhile_of_stops other]

theorem string?_cons_eq_none {c : Char} {s : Text} (other : stringClose? c = none) :
    string? (c :: s) = none := by
  simp [string?, other]

theorem functionalColor?_eq_none {s : Text} (other : Text.Stops (· == '(') s) :
    functionalColor? ('#' :: s) = none := by
  unfold functionalColor?
  split
  · next same =>
    cases same
    exact absurd (Text.stops_cons.1 other) (by decide)
  · rfl

/-- A value that is read belongs to the grammar, and a hexadecimal color is read to its end. -/
theorem isValue_of_read? {s v rest : Text} (found : read? s = some (v, rest)) :
    (∃ k, IsValue k v) ∧ s = v ++ rest ∧
      (IsHexColor v → Text.Stops Text.isHexDigit rest) := by
  unfold read? at found
  rcases Option.or_eq_some_iff.1 found with number | ⟨_, found⟩
  · obtain ⟨value, whole, _⟩ := number?_eq_some_iff.1 number
    exact ⟨⟨_, value⟩, whole, fun hex => absurd hex (value.not_hexColor (by decide))⟩
  rcases Option.or_eq_some_iff.1 found with string | ⟨_, found⟩
  · obtain ⟨value, whole⟩ := string?_eq_some_iff.1 string
    exact ⟨⟨_, value⟩, whole, fun hex => absurd hex (value.not_hexColor (by decide))⟩
  rcases Option.or_eq_some_iff.1 found with functional | ⟨_, found⟩
  · obtain ⟨value, whole⟩ := functionalColor?_eq_some_iff.1 functional
    exact ⟨⟨_, isValue_color_iff.2 (.inl value)⟩, whole,
      fun hex => absurd value hex.not_functional⟩
  rcases Option.or_eq_some_iff.1 found with hex | ⟨_, raw⟩
  · obtain ⟨value, whole, ends⟩ := hexColor?_eq_some_iff.1 hex
    exact ⟨⟨_, isValue_color_iff.2 (.inr value)⟩, whole, fun _ => ends⟩
  · obtain ⟨value, whole⟩ := raw?_eq_some_iff.1 raw
    exact ⟨⟨_, value⟩, whole, fun hex => absurd hex (value.not_hexColor (by decide))⟩

/-- A value with a character of its own that ends it is read whatever follows. -/
theorem read?_delimited {k : Kind} {v : Text} (value : IsValue k v) (other : k ≠ .numeric)
    (bounded : ¬ IsHexColor v) (rest : Text) : read? (v ++ rest) = some (v, rest) := by
  unfold read?
  cases value with
  | number some_digit numerals => exact absurd rfl other
  | @string o d s closes body =>
    have number := number?_eq_none (s := o :: (s ++ [d]) ++ rest)
      (Text.stops_cons.2 (isNumeral_of_stringClose? closes))
    have string : string? (o :: (s ++ [d]) ++ rest) = some (o :: (s ++ [d]), rest) :=
      string?_eq_some_iff.2 ⟨.string closes body, rfl⟩
    rw [number, string]
    rfl
  | @functionalColor s channels =>
    have number := number?_eq_none (s := '#' :: '(' :: (s ++ [')']) ++ rest)
      (Text.stops_cons.2 (by decide))
    have string : string? ('#' :: '(' :: (s ++ [')']) ++ rest) = none :=
      string?_cons_eq_none rfl
    have functional : functionalColor? ('#' :: '(' :: (s ++ [')']) ++ rest) =
        some ('#' :: '(' :: (s ++ [')']), rest) :=
      functionalColor?_eq_some_iff.2 ⟨⟨s, channels, rfl⟩, rfl⟩
    rw [number, string, functional]
    rfl
  | hexColor digits => exact absurd ⟨_, digits, rfl⟩ bounded
  | @raw s body =>
    have number := number?_eq_none (s := '&' :: (s ++ ['&']) ++ rest)
      (Text.stops_cons.2 (by decide))
    have string : string? ('&' :: (s ++ ['&']) ++ rest) = none := string?_cons_eq_none rfl
    have raw : raw? ('&' :: (s ++ ['&']) ++ rest) = some ('&' :: (s ++ ['&']), rest) :=
      raw?_eq_some_iff.2 ⟨.raw body, rfl⟩
    rw [number, string, raw]
    rfl

theorem read?_number {v rest : Text} (number : IsValue .numeric v)
    (ends : Text.Stops isNumeral rest) : read? (v ++ rest) = some (v, rest) := by
  rw [read?, number?_eq_some_iff.2 ⟨number, rfl, ends⟩]
  rfl

theorem read?_hexColor {v rest : Text} (hex : IsHexColor v)
    (ends : Text.Stops Text.isHexDigit rest) (bare : functionalColor? (v ++ rest) = none) :
    read? (v ++ rest) = some (v, rest) := by
  have taken := hexColor?_eq_some_iff.2 ⟨hex, rfl, ends⟩
  obtain ⟨digits, _, rfl⟩ := hex
  have number := number?_eq_none (s := '#' :: digits ++ rest) (Text.stops_cons.2 (by decide))
  have string : string? ('#' :: digits ++ rest) = none := string?_cons_eq_none rfl
  rw [read?, number, string, bare, taken]
  rfl

theorem stops_bracket {digits : Text} (hex : ∀ c ∈ digits, Text.isHexDigit c = true) :
    Text.Stops (· == '(') digits := by
  intro c r same
  rw [beq_eq_false_iff_ne]
  intro bracket
  have digit := hex c (same ▸ List.mem_cons_self)
  subst bracket
  exact absurd digit (by decide)

theorem eq_nil_of_functionalColor? {digits rest : Text} {found : Text × Text}
    (hex : ∀ c ∈ digits, Text.isHexDigit c = true)
    (functional : functionalColor? ('#' :: (digits ++ rest)) = some found) : digits = [] := by
  cases digits with
  | nil => rfl
  | cons d digits =>
    have digit : Text.Stops (· == '(') (d :: digits ++ rest) :=
      Text.stops_cons.2 (stops_bracket hex d digits rfl)
    rw [functionalColor?_eq_none digit] at functional
    cases functional

/-- Every value of the grammar is read where nothing prolongs it. -/
theorem read?_append {k : Kind} {v rest : Text} (value : IsValue k v)
    (ends : Text.Stops isNumeral rest) (bare : Text.Stops (· == '(') rest)
    (settled : IsHexColor v → Text.Stops Text.isHexDigit rest) :
    read? (v ++ rest) = some (v, rest) := by
  by_cases number : k = .numeric
  · subst number
    exact read?_number value ends
  by_cases hex : IsHexColor v
  · have ends := settled hex
    obtain ⟨digits, hexDigits, rfl⟩ := hex
    exact read?_hexColor ⟨digits, hexDigits, rfl⟩ ends
      (functionalColor?_eq_none ((stops_bracket hexDigits).append bare))
  · exact read?_delimited value number hex rest

/-- Where a value stands one is read, and none is shorter than that one. -/
theorem exists_read?_append {k : Kind} {v : Text} (value : IsValue k v) (rest : Text) :
    ∃ w after, read? (v ++ rest) = some (w, after) ∧ v.length ≤ w.length := by
  by_cases number : k = .numeric
  · subst number
    obtain ⟨some_digit, numerals⟩ := isValue_numeric_iff.1 value
    have longer : IsValue .numeric (v ++ rest.takeWhile isNumeral) :=
      isValue_numeric_iff.2 ⟨List.append_ne_nil_of_left_ne_nil some_digit _,
        List.forall_mem_append.2 ⟨numerals, fun c digit => List.mem_takeWhile_imp digit⟩⟩
    have read := read?_number longer (Text.stops_dropWhile isNumeral rest)
    rw [List.append_assoc, List.takeWhile_append_dropWhile] at read
    exact ⟨_, _, read, by simp⟩
  by_cases hex : IsHexColor v
  · obtain ⟨digits, hexDigits, rfl⟩ := hex
    cases functional : functionalColor? ('#' :: digits ++ rest) with
    | none =>
      have longer : IsHexColor ('#' :: digits ++ rest.takeWhile Text.isHexDigit) :=
        ⟨_, List.forall_mem_append.2 ⟨hexDigits, fun c digit => List.mem_takeWhile_imp digit⟩, rfl⟩
      have whole : '#' :: digits ++ rest.takeWhile Text.isHexDigit ++
          rest.dropWhile Text.isHexDigit = '#' :: digits ++ rest := by
        rw [List.append_assoc, List.takeWhile_append_dropWhile]
      have read := read?_hexColor longer (Text.stops_dropWhile Text.isHexDigit rest)
        (whole ▸ functional)
      rw [whole] at read
      exact ⟨_, _, read, by simp⟩
    | some found =>
      obtain ⟨w, after⟩ := found
      obtain ⟨color, whole⟩ := functionalColor?_eq_some_iff.1 functional
      have read := read?_delimited (isValue_color_iff.2 (.inl color)) (by decide)
        (fun other => other.not_functional color) after
      have lone := eq_nil_of_functionalColor? hexDigits functional
      subst lone
      exact ⟨w, after, whole ▸ read,
        List.length_pos_iff.2 (splits_functionalColor? _ _ _ functional).2⟩
  · exact ⟨v, rest, read?_delimited value number hex rest, Nat.le_refl _⟩

end Value
end AltStyle
