import AltStyle.Proofs.Arguments

/-! Written directives. The reader finds every directive of the grammar that ends at a boundary,
and what it finds is one. The name and the arguments are the only ones that the text of the
directive can be made of. -/
namespace AltStyle
open Grammar Argument

namespace Value

theorem read?_of_follows {s : Text} (follows : Follows s) : read? s = none := by
  rw [Option.eq_none_iff_forall_ne_some]
  intro found same
  obtain ⟨v, rest⟩ := found
  obtain ⟨⟨k, value⟩, whole, _⟩ := isValue_of_read? same
  obtain ⟨c, r, rfl, opens⟩ := value.opens
  rcases follows c (r ++ rest) whole with hyphen | blank
  · subst hyphen
    cases opens
  · rw [isWhiteSpace_of_opening? opens] at blank
    cases blank

end Value

namespace Grammar

structure IsSettledBody (b : Body) : Prop where
  name : IsName b.name
  sources : ∀ a ∈ b.sources, IsSettled a

theorem IsSettledBody.isBody {b : Body} (settled : IsSettledBody b) : IsBody b :=
  ⟨settled.name, fun a inside => (settled.sources a inside).toIsSource⟩

theorem IsName.ne_nil {n : Text} (name : IsName n) : n ≠ [] := by
  cases name with
  | word letters => exact letters.1
  | join letters others => exact List.append_ne_nil_of_left_ne_nil letters.1 _

theorem IsName.forall_mem {P : Char → Prop} {n : Text} (name : IsName n)
    (letters : ∀ c, c.isLower = true → P c) (hyphen : P '-') : ∀ c ∈ n, P c := by
  induction name with
  | word word => exact fun c inside => letters c (word.2 c inside)
  | join word others ih =>
    intro c inside
    rcases List.mem_append.1 inside with letter | later
    · exact letters c (word.2 c letter)
    · rcases List.mem_cons.1 later with rfl | other
      · exact hyphen
      · exact ih c other

theorem IsName.visible {n : Text} (name : IsName n) : ∀ c ∈ n, Text.isWhiteSpace c = false :=
  name.forall_mem (fun _ => Text.isWhiteSpace_of_isLower) (by decide)

theorem endsVisibly_sources {l : List Source} (sources : ∀ a ∈ l, IsSource a) :
    Text.EndsVisibly (l.flatMap (·.text)) := by
  induction l with
  | nil => exact Text.endsVisibly_nil
  | cons a l ih =>
    rw [List.flatMap_cons]
    exact (sources a List.mem_cons_self).endsVisibly.append
      (ih fun b inside => sources b (List.mem_cons_of_mem a inside))

theorem IsBody.endsVisibly {b : Body} (body : IsBody b) : Text.EndsVisibly b.text :=
  (Text.endsVisibly_of_forall body.name.visible).append (endsVisibly_sources body.sources)

theorem IsBody.text_ne_nil {b : Body} (body : IsBody b) : b.text ≠ [] :=
  List.append_ne_nil_of_left_ne_nil body.name.ne_nil _

/-- A body has a form that is read back, with the same texts of its arguments. Only where a unit
begins may differ. -/
theorem IsBody.exists_settled {b : Body} (body : IsBody b) :
    ∃ c, IsSettledBody c ∧ c.name = b.name ∧ c.sources.map (·.text) = b.sources.map (·.text) := by
  obtain ⟨sources, settled, same⟩ := exists_settled_sources body.sources
  exact ⟨⟨b.name, sources⟩, ⟨body.name, settled⟩, rfl, same⟩

end Grammar

namespace Body

theorem tail_eq_flatten (b : Body) : b.tail = (b.sources.map (·.text)).flatten := by
  rw [tail, List.flatMap_def]

theorem text_eq_of_parts {b c : Body} (names : c.name = b.name)
    (texts : c.sources.map (·.text) = b.sources.map (·.text)) : c.text = b.text := by
  rw [text, text, tail_eq_flatten, tail_eq_flatten, names, texts]

theorem readWords_of_valued {s : Text}
    (valued : ∀ r, s = '-' :: r → (Source.read? s).isSome = true) : readWords s = ([], s) := by
  unfold readWords
  split
  · next r => rw [if_pos (.inr (valued r rfl))]
  · rfl

theorem readWords_append {n rest : Text} (name : IsName n) (follows : Follows rest)
    (valued : ∀ r, rest = '-' :: r → (Source.read? rest).isSome = true) :
    readWords ('-' :: (n ++ rest)) = ('-' :: n, rest) := by
  induction name with
  | @word s letters =>
    have ends : Text.Stops Char.isLower rest :=
      follows.stops (by decide) fun _ => Text.isWhiteSpace_of_isLower
    have taken := Text.takeWhile_run letters.2 ends
    have after := Text.dropWhile_run letters.2 ends
    have unvalued : Source.read? ('-' :: (s ++ rest)) = none := by
      rw [Source.read?, after, Value.read?_of_follows follows]
      rfl
    rw [readWords, taken, after, unvalued, readWords_of_valued valued]
    simp [letters.1]
  | @join s t letters others ih =>
    have ends : Text.Stops Char.isLower ('-' :: (t ++ rest)) := Text.stops_cons.2 (by decide)
    have hyphen : Follows ('-' :: (t ++ rest)) := by
      intro c r same
      cases same
      exact .inl rfl
    have taken := Text.takeWhile_run letters.2 ends
    have after := Text.dropWhile_run letters.2 ends
    have unvalued : Source.read? ('-' :: (s ++ '-' :: (t ++ rest))) = none := by
      rw [Source.read?, after, Value.read?_of_follows hyphen]
      rfl
    rw [List.append_assoc, List.cons_append, readWords, taken, after, unvalued, ih]
    simp [letters.1]

theorem isName_append_readWords {w : Text} (letters : IsWord w) (s : Text) :
    IsName (w ++ (readWords s).1) := by
  fun_induction readWords s generalizing w with
  | case1 r stop =>
    rw [if_pos stop, List.append_nil]
    exact .word letters
  | case2 r words rest same more ih =>
    rw [not_or] at more
    have next : IsWord (r.takeWhile Char.isLower) :=
      ⟨more.1, fun c inside => List.mem_takeWhile_imp inside⟩
    rw [if_neg (not_or.2 more), same]
    have others := ih next
    rw [same] at others
    exact .join letters others
  | case3 =>
    rw [List.append_nil]
    exact .word letters

theorem isSettled_of_read? {s rest : Text} {b : Body} (found : read? s = some (b, rest)) :
    IsSettledBody b := by
  unfold read? at found
  split at found
  · cases found
  · next w some_letter =>
    cases found
    have letters : IsWord (s.takeWhile Char.isLower) :=
      ⟨some_letter, fun c inside => List.mem_takeWhile_imp inside⟩
    exact ⟨isName_append_readWords letters _, fun a => Source.isSettled_of_mem_readAll⟩

theorem read?_word_append {w s n rest : Text} {l : List Source} (letters : IsWord w)
    (ends : Text.Stops Char.isLower s) (words : readWords s = (n, l.flatMap (·.text) ++ rest))
    (sources : ∀ a ∈ l, IsSettled a) (boundary : endsBefore rest = true) :
    read? (w ++ s) = some (⟨w ++ n, l⟩, rest) := by
  have taken := Text.takeWhile_run letters.2 ends
  have after := Text.dropWhile_run letters.2 ends
  unfold read?
  rw [taken, after, words]
  split
  · exact absurd rfl letters.1
  · simp only [Source.readAll_sources sources boundary]

theorem read?_text_append {b : Body} {rest : Text} (settled : IsSettledBody b)
    (boundary : endsBefore rest = true) : read? (b.text ++ rest) = some (b, rest) := by
  obtain ⟨n, l⟩ := b
  have sources : ∀ a ∈ l, IsSettled a := settled.sources
  have name : IsName n := settled.name
  have follows : Follows (l.flatMap (·.text) ++ rest) :=
    follows_sources l (follows_of_endsBefore boundary)
  have valued : ∀ r, l.flatMap (·.text) ++ rest = '-' :: r →
      (Source.read? (l.flatMap (·.text) ++ rest)).isSome = true := by
    intro r same
    cases l with
    | nil =>
      have ends : endsBefore ('-' :: r) = true := same ▸ boundary
      exact absurd ends (by simp [endsBefore]; decide)
    | cons a l =>
      have later := follows_sources l (follows_of_endsBefore boundary)
      rw [List.flatMap_cons, List.append_assoc,
        Source.read?_text_append (sources a List.mem_cons_self) later]
      rfl
  have ends : Text.Stops Char.isLower (l.flatMap (·.text) ++ rest) :=
    follows.stops (by decide) fun _ => Text.isWhiteSpace_of_isLower
  simp only [text, tail, List.append_assoc]
  cases name with
  | word letters =>
    have whole := read?_word_append letters ends (readWords_of_valued valued) sources boundary
    rw [List.append_nil] at whole
    exact whole
  | join letters others =>
    rw [List.append_assoc, List.cons_append]
    exact read?_word_append letters (Text.stops_cons.2 (by decide))
      (readWords_append others follows valued) sources boundary

/-- The reader finds the directives of the grammar, each in its settled reading. -/
theorem readWhole?_eq_some_iff {p : Prefix} {s rest : Text} {b : Body} :
    readWhole? p s = some (b, rest) ↔
      IsSettledBody b ∧ s = p.text ++ b.text ++ rest ∧ endsBefore rest = true := by
  constructor
  · intro found
    have whole := (append_of_readWhole? found).symm
    have boundary := endsBefore_of_readWhole? found
    simp only [readWhole?, Option.bind_eq_bind, Option.bind_eq_some_iff] at found
    obtain ⟨after, marked, ⟨body, tail⟩, inner, ends⟩ := found
    rw [Option.ite_none_right_eq_some] at ends
    cases ends.2
    exact ⟨isSettled_of_read? inner, whole, boundary⟩
  · intro written
    obtain ⟨settled, rfl, boundary⟩ := written
    have marked : Text.after? p.text (p.text ++ b.text ++ rest) = some (b.text ++ rest) :=
      Text.after?_eq_some_iff.2 (List.append_assoc _ _ _)
    simp only [readWhole?, Option.bind_eq_bind, marked, Option.bind_some,
      read?_text_append settled boundary, boundary, if_true]

/-- Every body is read at a boundary, up to where the units of its arguments begin. -/
theorem readWhole?_of_isBody {p : Prefix} {b : Body} {rest : Text} (body : IsBody b)
    (boundary : endsBefore rest = true) :
    ∃ c, readWhole? p (p.text ++ b.text ++ rest) = some (c, rest) ∧ c.name = b.name ∧
      c.sources.map (·.text) = b.sources.map (·.text) := by
  obtain ⟨c, settled, names, texts⟩ := body.exists_settled
  refine ⟨c, ?_, names, texts⟩
  rw [readWhole?_eq_some_iff, text_eq_of_parts names texts]
  exact ⟨settled, rfl, boundary⟩

/-- The name and the arguments of a written directive are determined by the text that begins
with it. -/
theorem parts_unique {b c : Body} {after rest : Text} (one : IsBody b) (other : IsBody c)
    (boundary : endsBefore after = true) (ends : endsBefore rest = true)
    (same : b.text ++ after = c.text ++ rest) :
    b.name = c.name ∧ b.sources.map (·.text) = c.sources.map (·.text) := by
  obtain ⟨d, read, names, texts⟩ := readWhole?_of_isBody (p := .none) one boundary
  obtain ⟨e, again, equalNames, equalTexts⟩ := readWhole?_of_isBody (p := .none) other ends
  have whole : Prefix.none.text ++ b.text ++ after = Prefix.none.text ++ c.text ++ rest := same
  rw [whole, again] at read
  cases read
  exact ⟨names.symm.trans equalNames, texts.symm.trans equalTexts⟩

end Body
end AltStyle
