import AltStyle.Proofs.NormalForms

/-! The spellings of a text between delimiters. Every character may follow a backslash, and a
backslash or the closing delimiter has to. All spellings are read as the one text, because a
value ends at the first closing delimiter that nothing protects, and unescaping then takes away
exactly the backslashes that protect something. -/
namespace AltStyle
open Grammar

namespace Grammar

/-- The first text spells the second one in front of the closing delimiter. -/
inductive Spells (close : Char) : Text → Text → Prop
  | nil : Spells close [] []
  | plain {c : Char} {s t : Text} (inside : c ≠ close) (unescaped : c ≠ '\\')
      (others : Spells close s t) : Spells close (c :: s) (c :: t)
  | escaped (c : Char) {s t : Text} (others : Spells close s t) :
      Spells close ('\\' :: c :: s) (c :: t)

/-- The spellings of a text are the texts that unescaping takes back to it and that protect the
delimiter. -/
theorem spells_iff {close : Char} {s t : Text} :
    Spells close s t ↔ IsProtected close s ∧ Text.unescape s = t := by
  constructor
  · intro spells
    induction spells with
    | nil => exact ⟨.nil, rfl⟩
    | plain inside unescaped others ih =>
      obtain ⟨body, same⟩ := ih
      refine ⟨.plain inside unescaped body, ?_⟩
      rw [Text.unescape_cons _ unescaped, same]
    | escaped c others ih =>
      obtain ⟨body, same⟩ := ih
      refine ⟨.escaped c body, ?_⟩
      rw [Text.unescape_pair, same]
  · rintro ⟨body, rfl⟩
    -- the parts of a protected text are those that unescaping goes by
    induction body with
    | nil => exact .nil
    | plain inside unescaped others ih =>
      rw [Text.unescape_cons _ unescaped]
      exact .plain inside unescaped ih
    | escaped c others ih =>
      rw [Text.unescape_pair]
      exact .escaped c ih

end Grammar

namespace Argument

/-- A value alone behind a hyphen is an argument without name and unit. -/
theorem ofTail_value {k : Kind} {v : Text} (value : IsValue k v) :
    ofTail (some ('-' :: v)) = [⟨none, k, k.normalize v, none⟩] := by
  have settled : IsSettled ⟨[], v, []⟩ := {
    name := List.forall_mem_nil _
    value := ⟨k, value⟩
    unit := isUnit_nil
    settled := fun _ => Text.stops_nil _ }
  have found : Source.search ('-' :: v) = [⟨[], v, []⟩] := by
    simpa [Source.text] using Source.search_sources (List.forall_mem_singleton.2 settled)
  have kind : Kind.ofValue? v = some k := Kind.ofValue?_eq_some_iff.2 value
  simp [ofTail, found, Source.argument?, kind]

theorem ofTail_string {o d : Char} {s t : Text} (closes : Value.stringClose? o = some d)
    (spells : Spells d s t) :
    ofTail (some ('-' :: o :: (s ++ [d]))) = [⟨none, .string, Text.quote t, none⟩] := by
  obtain ⟨body, same⟩ := spells_iff.1 spells
  rw [ofTail_value (.string closes body), Kind.normalize_string closes, same]

theorem ofTail_raw {s t : Text} (spells : Spells '&' s t) :
    ofTail (some ('-' :: '&' :: (s ++ ['&']))) = [⟨none, .raw, t, none⟩] := by
  obtain ⟨body, same⟩ := spells_iff.1 spells
  rw [ofTail_value (.raw body), Kind.normalize_raw, same]

/-- A text is read from each of its spellings, between whichever delimiters it stands. -/
theorem ofTail_spelling (t s : Text) :
    (∀ marks ∈ [('"', '"'), ('\'', '\''), ('{', '}')], Spells marks.2 s t →
      ∃ a, ofTail (some ('-' :: marks.1 :: (s ++ [marks.2]))) = [a] ∧ a.name = none ∧
        a.kind = .string ∧ a.value = Text.quote t ∧ a.unit = none ∧ a.text? = some t) ∧
    (Spells '&' s t →
      ofTail (some ('-' :: '&' :: (s ++ ['&']))) = [⟨none, .raw, t, none⟩]) := by
  refine ⟨?_, ofTail_raw⟩
  intro marks delimiters spells
  have closes : Value.stringClose? marks.1 = some marks.2 := by
    simp only [List.mem_cons, List.not_mem_nil, or_false] at delimiters
    rcases delimiters with rfl | rfl | rfl
    all_goals rfl
  refine ⟨_, ofTail_string closes spells, rfl, rfl, rfl, rfl, ?_⟩
  rw [text?, if_pos rfl, Text.unescape_betweenEnds_quote]

/-- A brace, an ampersand and a backslash that have to be escaped, and a letter that need not
be. -/
theorem ofTail_spelling_mixed :
    Spells '}' "\"\\\x7d\\\\\\b&".toList "\"\x7d\\b&".toList ∧
      (∃ a, ofTail (some "-\x7b\"\\\x7d\\\\\\b&\x7d".toList) = [a] ∧ a.name = none ∧
        a.kind = .string ∧ a.value = "\"\\\"\x7d\\\\b&\"".toList ∧ a.unit = none ∧
        a.text? = some "\"\x7d\\b&".toList) ∧
      Spells '&' "\\&\\b\x7d".toList "&b\x7d".toList ∧
      ofTail (some "-&\\&\\b\x7d&".toList) = [⟨none, .raw, "&b\x7d".toList, none⟩] := by
  have string : Spells '}' "\"\\\x7d\\\\\\b&".toList "\"\x7d\\b&".toList :=
    .plain (by decide) (by decide) (.escaped _ (.escaped _ (.escaped _
      (.plain (by decide) (by decide) .nil))))
  have raw : Spells '&' "\\&\\b\x7d".toList "&b\x7d".toList :=
    .escaped _ (.escaped _ (.plain (by decide) (by decide) .nil))
  refine ⟨string, ?_, raw, (ofTail_spelling _ _).2 raw⟩
  exact (ofTail_spelling _ _).1 ('{', '}') (by decide) string

end Argument
end AltStyle
