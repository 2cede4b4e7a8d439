import AltStyle.Json.Reader
import AltStyle.Proofs.Characters

/-! What is written as JSON is read back as it was, in every layout whose gaps are white space. -/
namespace AltStyle.Json

/-- Values by induction, with the values inside a value at hand. -/
@[elab_as_elim, induction_eliminator]
theorem Value.induct {P : Value → Prop} (null : P .null) (string : ∀ s, P (.string s))
    (array : ∀ items, (∀ v ∈ items, P v) → P (.array items))
    (object : ∀ members, (∀ m ∈ members, P m.2) → P (.object members)) (v : Value) : P v := by
  refine @Value.rec P (fun items => ∀ v ∈ items, P v) (fun members => ∀ m ∈ members, P m.2)
    (fun m => P m.2) null string array object ?_ ?_ ?_ ?_ ?_ v
  case refine_5 => exact fun _ _ inner => inner
  case refine_1 | refine_3 => simp
  case refine_2 | refine_4 =>
    intro first others first_holds others_hold
    exact List.forall_mem_cons.2 ⟨first_holds, others_hold⟩

theorem writeItems_eq_map (l : Layout) (depth : Nat) (items : List Value) :
    writeItems l depth items = items.map (write l depth) := by
  induction items with
  | nil => rfl
  | cons v items ih => rw [writeItems, ih, List.map_cons]

def writeMember (l : Layout) (depth : Nat) (m : Text × Value) : Text :=
  writeString m.1 ++ l.colon ++ write l depth m.2

theorem writeMembers_eq_map (l : Layout) (depth : Nat) (members : List (Text × Value)) :
    writeMembers l depth members = members.map (writeMember l depth) := by
  induction members with
  | nil => rfl
  | cons m members ih => rw [writeMembers, ih, List.map_cons, writeMember]

section Strings

theorem isHexDigit_hexDigit (n : Nat) : Text.isHexDigit (hexDigit n) = true := by
  have digits : "0123456789abcdef".toList.all Text.isHexDigit = true := rfl
  rw [hexDigit, List.getD_eq_getElem?_getD]
  cases found : "0123456789abcdef".toList[n]? with
  | none => rfl
  | some d => exact List.all_eq_true.1 digits d (List.mem_of_getElem? found)

theorem digitValue_hexDigit {n : Nat} (small : n < 16) : Toml.digitValue (hexDigit n) = n := by
  revert n
  decide

theorem codeUnit?_control {n : Nat} (control : n < 0x20) (s : Text) :
    codeUnit? ('0' :: '0' :: hexDigit (n / 16) :: hexDigit (n % 16) :: s) = some (n, s) := by
  have digits : [hexDigit 0, hexDigit 0, hexDigit (n / 16), hexDigit (n % 16)].all Text.isHexDigit :=
    by simp [isHexDigit_hexDigit]
  have high : Toml.digitValue (hexDigit (n / 16)) = n / 16 := digitValue_hexDigit (by omega)
  have low : Toml.digitValue (hexDigit (n % 16)) = n % 16 := digitValue_hexDigit (by omega)
  have number : Toml.digitsValue 16 ['0', '0', hexDigit (n / 16), hexDigit (n % 16)] = n := by
    have zero : Toml.digitValue '0' = 0 := rfl
    simp only [Toml.digitsValue, List.foldl_cons, List.foldl_nil, zero, high, low]
    omega
  have read : Text.exactly? 4 Text.isHexDigit
      ('0' :: '0' :: hexDigit (n / 16) :: hexDigit (n % 16) :: s) =
      some (['0', '0', hexDigit (n / 16), hexDigit (n % 16)], s) := if_pos ⟨rfl, digits⟩
  simp only [codeUnit?, read, Option.bind_some, number]

/-- A control character is read from its number. -/
theorem codePoint?_control {c : Char} (control : c.toNat < 0x20) (s : Text) :
    codePoint? ('0' :: '0' :: hexDigit (c.toNat / 16) :: hexDigit (c.toNat % 16) :: s) =
      some (c, s) := by
  have whole : ¬ (0xd800 ≤ c.toNat ∧ c.toNat < 0xdc00) := by omega
  have valid : c.toNat.isValidChar := c.valid
  simp only [codePoint?, codeUnit?_control control, Option.bind_some, ofCodeUnit?,
    Text.ofCodePoint?, if_neg whole, if_pos valid, Option.map_some, Char.ofNat_toNat]

theorem stringBody?_of_escape? {s rest : Text} {c : Char} (read : escape? s = some (c, rest)) :
    stringBody? ('\\' :: s) = (stringBody? rest).map fun (text, after) => (c :: text, after) := by
  rw [stringBody?]
  split
  · next same =>
    cases read.symm.trans same
    rfl
  · next same => cases read.symm.trans same

theorem stringBody?_plain {c : Char} (s : Text) (unquoted : c ≠ '"') (unescaped : c ≠ '\\')
    (visible : 0x20 ≤ c.toNat) :
    stringBody? (c :: s) = (stringBody? s).map fun (text, after) => (c :: text, after) := by
  rw [stringBody?, if_neg (by omega)]
  · simpa using unquoted
  · simpa using unescaped

theorem stringBody?_escapeChar (c : Char) (s : Text) :
    stringBody? (escapeChar c ++ s) =
      (stringBody? s).map fun (text, after) => (c :: text, after) := by
  unfold escapeChar
  split
  case h_8 unquoted unescaped _ _ _ _ _ =>
    split
    · next control => exact stringBody?_of_escape? (codePoint?_control control s)
    · next visible => exact stringBody?_plain s unquoted unescaped (by omega)
  all_goals exact stringBody?_of_escape? rfl

/-- A written string is read up to its closing quote, character by character. -/
theorem stringBody?_escaped (text rest : Text) :
    stringBody? (text.flatMap escapeChar ++ '"' :: rest) = some (text, rest) := by
  induction text with
  | nil => simp [stringBody?]
  | cons c text ih =>
    rw [List.flatMap_cons, List.append_assoc, stringBody?_escapeChar, ih, Option.map_some]

end Strings

section Lists

def IsGaps (s : Text) : Prop :=
  ∀ c ∈ s, isGap c = true

theorem skipGaps_append {gaps : Text} (blank : IsGaps gaps) (s : Text) :
    skipGaps (gaps ++ s) = skipGaps s :=
  List.dropWhile_append_of_pos blank

theorem skipGaps_cons {c : Char} (visible : isGap c = false) (s : Text) :
    skipGaps (c :: s) = c :: s :=
  Text.dropWhile_of_stops (Text.stops_cons.2 visible)

theorem skipGaps_skipGaps (s : Text) : skipGaps (skipGaps s) = skipGaps s :=
  Text.dropWhile_of_stops (Text.stops_dropWhile isGap s)

/-- A layout in which all that is not JSON itself is white space. -/
structure Layout.IsReadable (l : Layout) : Prop where
  gap : ∀ depth, IsGaps (l.gap depth)
  colon : ∃ space, IsGaps space ∧ l.colon = ':' :: space

variable {A : Type} {closing : Char} {item : Text → Option (A × Text)} {write : A → Text}
  {x : A} {xs : List A}

def Reads (item : Text → Option (A × Text)) (part : Text) (x : A) : Prop :=
  ∀ rest, item (part ++ rest) = some (x, rest)

structure IsItem (closing : Char) (item : Text → Option (A × Text)) : Prop where
  visible : isGap closing = false
  other : closing ≠ ','
  skips : ∀ s, item (skipGaps s) = item s
  refuses : ∀ s, item (closing :: s) = none

theorem IsItem.append (ready : IsItem closing item) {gaps : Text} (blank : IsGaps gaps)
    (s : Text) : item (gaps ++ s) = item s := by
  rw [← ready.skips, skipGaps_append blank, ready.skips]

theorem IsItem.read (ready : IsItem closing item) {gaps part : Text} (blank : IsGaps gaps)
    (reads : Reads item part x) (rest : Text) : item (gaps ++ (part ++ rest)) = some (x, rest) :=
  (ready.append blank _).trans (reads rest)

theorem itemsWithin?_last {s rest after : Text} (read : item s = some (x, rest))
    (closed : skipGaps rest = closing :: after) (n : Nat) :
    itemsWithin? closing item (n + 1) s = some ([x], after) := by
  simp [itemsWithin?, read, closed, Text.after?]

theorem itemsWithin?_comma {s rest after : Text} (read : item s = some (x, rest))
    (comma : skipGaps rest = ',' :: after) (other : closing ≠ ',') (n : Nat) :
    itemsWithin? closing item (n + 1) s =
      (itemsWithin? closing item n after).map fun (ys, last) => (x :: ys, last) := by
  simp [itemsWithin?, read, comma, Text.after?, other]

theorem itemsWithin?_written (ready : IsItem closing item) {gaps last : Text}
    (blank : IsGaps gaps) (last_blank : IsGaps last)
    (reads : ∀ y ∈ x :: xs, Reads item (write y) y) {n : Nat} (enough : xs.length < n)
    (rest : Text) :
    itemsWithin? closing item n
        (gaps ++ (write x ++
          (xs.flatMap (fun y => ',' :: (gaps ++ write y)) ++ (last ++ closing :: rest)))) =
      some (x :: xs, rest) := by
  induction xs generalizing x n with
  | nil =>
    obtain ⟨n, rfl⟩ := Nat.exists_eq_add_one_of_ne_zero (Nat.ne_zero_of_lt enough)
    apply itemsWithin?_last (ready.read blank (reads x List.mem_cons_self) _)
    rw [List.flatMap_nil, List.nil_append, skipGaps_append last_blank,
      skipGaps_cons ready.visible]
  | cons y xs ih =>
    obtain ⟨n, rfl⟩ := Nat.exists_eq_add_one_of_ne_zero (Nat.ne_zero_of_lt enough)
    obtain ⟨first, others⟩ := List.forall_mem_cons.1 reads
    simp only [List.flatMap_cons, List.cons_append, List.append_assoc]
    rw [itemsWithin?_comma (ready.read blank first _) (skipGaps_cons rfl _) ready.other,
      ih others (Nat.lt_of_succ_lt_succ enough), Option.map_some]

theorem body_map_cons (l : Layout) (closing : Char) (depth : Nat) (write : A → Text) (x : A)
    (xs : List A) (rest : Text) :
    l.body closing depth ((x :: xs).map write) ++ rest =
      l.gap (depth + 1) ++ (write x ++
        (xs.flatMap (fun y => ',' :: (l.gap (depth + 1) ++ write y)) ++
          (l.gap depth ++ closing :: rest))) := by
  simp [Layout.body, Text.intercalate_cons, List.flatMap_map]

theorem length_le_flatMap_comma (write : A → Text) (gaps : Text) (xs : List A) :
    xs.length ≤ (xs.flatMap fun y => ',' :: (gaps ++ write y)).length := by
  induction xs with
  | nil => exact Nat.le_refl 0
  | cons x xs ih =>
    simp only [List.flatMap_cons, List.length_append, List.length_cons]
    omega

/-- Where an item can be read, the list is not closed yet. -/
theorem IsItem.after?_eq_none (ready : IsItem closing item) {s rest : Text}
    (read : item s = some (x, rest)) : Text.after? [closing] (skipGaps s) = none := by
  rw [Option.eq_none_iff_forall_ne_some]
  intro after closed
  have refused := ready.skips s
  rw [Text.after?_eq_some_iff.1 closed, List.singleton_append, ready.refuses, read] at refused
  cases refused

/-- A written list is read back if each of its items is, whatever follows it. -/
theorem enclosed?_body {l : Layout} (readable : l.IsReadable) (ready : IsItem closing item)
    (reads : ∀ y ∈ xs, Reads item (write y) y) (depth : Nat) (rest : Text) :
    enclosed? closing item (l.body closing depth (xs.map write) ++ rest) = some (xs, rest) := by
  cases xs with
  | nil => simp [enclosed?, Layout.body, skipGaps_cons ready.visible, Text.after?]
  | cons x xs =>
    have first := reads x List.mem_cons_self
    have enough := length_le_flatMap_comma write (l.gap (depth + 1)) xs
    rw [body_map_cons, enclosed?, ready.after?_eq_none (ready.read (readable.gap _) first _)]
    apply itemsWithin?_written ready (readable.gap _) (readable.gap _) reads
    simp only [List.length_append, List.length_cons]
    omega

theorem length_lt_body (l : Layout) (closing : Char) (depth : Nat) (write : A → Text)
    (inside : x ∈ xs) : (write x).length < (l.body closing depth (xs.map write)).length := by
  cases xs with
  | nil => cases inside
  | cons y xs =>
    have body := congrArg List.length (body_map_cons l closing depth write y xs [])
    simp only [List.append_nil, List.length_append, List.length_cons] at body
    rw [body]
    rcases List.mem_cons.1 inside with rfl | later
    · omega
    · have part := (List.sublist_flatten_of_mem (List.mem_map_of_mem
        (f := fun y => ',' :: (l.gap (depth + 1) ++ write y)) later)).length_le
      simp only [List.length_append, List.length_cons, ← List.flatMap_def] at part
      omega

end Lists

section Values

variable {l : Layout}

theorem isItem_value? (n : Nat) : IsItem ']' (value? n) where
  visible := rfl
  other := by decide
  skips s := by
    cases n with
    | zero => rfl
    | succ n => rw [value?, skipGaps_skipGaps, value?]
  refuses s := by
    cases n with
    | zero => rfl
    | succ n => rfl

theorem isItem_member? (n : Nat) : IsItem '}' (member? (value? n)) where
  visible := rfl
  other := by decide
  skips s := by rw [member?, skipGaps_skipGaps, member?]
  refuses s := rfl

theorem reads_writeMember (readable : l.IsReadable) {n depth : Nat} {m : Text × Value}
    (reads : Reads (value? n) (write l depth m.2) m.2) :
    Reads (member? (value? n)) (writeMember l depth m) m := by
  obtain ⟨space, blank, colon⟩ := readable.colon
  intro rest
  have read : value? n (space ++ (write l depth m.2 ++ rest)) = some (m.2, rest) :=
    (isItem_value? n).read blank reads rest
  simp [member?, writeMember, writeString, skipGaps_cons, isGap, Text.after?,
    stringBody?_escaped, colon, read]

/-- The bound on the nesting is large enough because each part is shorter than its list. -/
theorem value?_write (readable : l.IsReadable) {v : Value} {depth n : Nat}
    (enough : (write l depth v).length < n) : Reads (value? n) (write l depth v) v := by
  induction n generalizing v depth with
  | zero => exact absurd enough (Nat.not_lt_zero _)
  | succ n ih =>
    intro rest
    cases v with
    | null => rfl
    | string s =>
      simp [write, writeString, value?, skipGaps_cons, isGap, stringBody?_escaped]
    | array items =>
      rw [write, writeItems_eq_map] at enough ⊢
      have reads : ∀ v ∈ items, Reads (value? n) (write l (depth + 1) v) v := by
        intro v inside
        have shorter := length_lt_body l ']' depth (write l (depth + 1)) inside
        exact ih (shorter.trans (Nat.lt_of_succ_lt_succ enough))
      have read := enclosed?_body readable (isItem_value? n) reads depth rest
      simp [value?, skipGaps_cons, isGap, read]
    | object members =>
      rw [write, writeMembers_eq_map] at enough ⊢
      have reads : ∀ m ∈ members,
          Reads (member? (value? n)) (writeMember l (depth + 1) m) m := by
        intro m inside
        have shorter := length_lt_body l '}' depth (writeMember l (depth + 1)) inside
        have inner : (write l (depth + 1) m.2).length ≤ (writeMember l (depth + 1) m).length := by
          rw [writeMember, List.length_append]
          exact Nat.le_add_left _ _
        exact reads_writeMember readable
          (ih (Nat.lt_of_le_of_lt inner (shorter.trans (Nat.lt_of_succ_lt_succ enough))))
      have read := enclosed?_body readable (isItem_member? n) reads depth rest
      simp [value?, skipGaps_cons, isGap, read]

/-- What is written is read back, and nothing is left over. -/
theorem read?_write (readable : l.IsReadable) (v : Value) : read? (write l 0 v) = some v := by
  have read := value?_write readable (Nat.lt_succ_self (write l 0 v).length) []
  rw [List.append_nil] at read
  rw [read?, read]
  rfl

theorem isReadable_compact : Layout.compact.IsReadable where
  gap depth := by simp [IsGaps, Layout.compact]
  colon := ⟨[], by simp [IsGaps], rfl⟩

theorem isReadable_pretty : Layout.pretty.IsReadable where
  gap depth := by simp [IsGaps, Layout.pretty, isGap]
  colon := ⟨[' '], by simp [IsGaps, isGap], rfl⟩

end Values

end AltStyle.Json
