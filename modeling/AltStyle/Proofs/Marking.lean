import AltStyle.Directive.Reader
import AltStyle.Proofs.Search

/-! Texts with and without a prefix. Let a prefix be put before every directive that is found in
a text without one. If some character of the prefix occurs nowhere in the text, the prefix stands
nowhere else in the marked text, and the same directives are found with it. -/
namespace AltStyle
open Grammar

namespace Text

/-- The text with the mark inserted at the given bytes. The text itself begins at the byte
`offset`. -/
def insertAt (mark : Text) (places : List Nat) (offset : Nat) : Text → Text
  | [] => if offset ∈ places then mark else []
  | c :: s => (if offset ∈ places then mark else []) ++
      c :: insertAt mark places (offset + c.utf8Size) s

section Insert
variable {mark s : Text} {places others : List Nat} {offset : Nat}

theorem insertAt_congr (same : ∀ n, offset ≤ n → (n ∈ places ↔ n ∈ others)) :
    insertAt mark places offset s = insertAt mark others offset s := by
  induction s generalizing offset with
  | nil => simp only [insertAt, same offset (Nat.le_refl _)]
  | cons c s ih =>
    have later : insertAt mark places (offset + c.utf8Size) s =
        insertAt mark others (offset + c.utf8Size) s :=
      ih fun n bound => same n (by omega)
    simp only [insertAt, same offset (Nat.le_refl _), later]

theorem insertAt_nil : insertAt mark [] offset s = s := by
  induction s generalizing offset with
  | nil => rfl
  | cons c s ih => simp [insertAt, ih]

theorem insertAt_append (t : Text) (behind : ∀ n ∈ places, offset + byteLength s ≤ n) :
    insertAt mark places offset (s ++ t) =
      s ++ insertAt mark places (offset + byteLength s) t := by
  induction s generalizing offset with
  | nil => rfl
  | cons c s ih =>
    have size := Char.utf8Size_pos c
    have absent : offset ∉ places := by
      intro inside
      have bound := behind offset inside
      rw [byteLength_cons] at bound
      omega
    have later : ∀ n ∈ places, offset + c.utf8Size + byteLength s ≤ n := by
      intro n inside
      rw [Nat.add_assoc]
      exact behind n inside
    rw [List.cons_append, insertAt, if_neg absent, ih later, byteLength_cons, Nat.add_assoc]
    rfl

theorem insertAt_front (behind : ∀ n ∈ places, offset < n) :
    insertAt mark (offset :: places) offset s = mark ++ insertAt mark places offset s := by
  have absent : offset ∉ places := fun inside => Nat.lt_irrefl _ (behind offset inside)
  cases s with
  | nil => simp [insertAt, absent]
  | cons c s =>
    have size := Char.utf8Size_pos c
    have tail : insertAt mark (offset :: places) (offset + c.utf8Size) s =
        insertAt mark places (offset + c.utf8Size) s := by
      apply insertAt_congr
      intro n bound
      have other : n ≠ offset := by omega
      simp [other]
    simp only [insertAt, tail, List.mem_cons_self, if_true, if_neg absent, List.nil_append]

theorem insertAt_between (t r : Text)
    (behind : ∀ n ∈ places, offset + byteLength s + byteLength t < n) :
    insertAt mark ((offset + byteLength s) :: places) offset (s ++ (t ++ r)) =
      s ++ (mark ++ t ++ insertAt mark places (offset + byteLength s + byteLength t) r) := by
  have far : ∀ n ∈ places, offset + byteLength s < n := by
    intro n inside
    have bound := behind n inside
    omega
  have near : ∀ n ∈ (offset + byteLength s) :: places, offset + byteLength s ≤ n :=
    List.forall_mem_cons.2 ⟨Nat.le_refl _, fun n inside => Nat.le_of_lt (far n inside)⟩
  rw [insertAt_append _ near, insertAt_front far,
    insertAt_append _ fun n inside => Nat.le_of_lt (behind n inside), List.append_assoc]

theorem endsBefore_insertAt (mark : Text) (behind : ∀ n ∈ places, offset < n) :
    Body.endsBefore (insertAt mark places offset s) = Body.endsBefore s := by
  have absent : offset ∉ places := fun inside => Nat.lt_irrefl _ (behind offset inside)
  cases s with
  | nil => rw [insertAt, if_neg absent]
  | cons c s =>
    rw [insertAt, if_neg absent]
    rfl

end Insert
end Text

namespace Found

/-- No directive with the prefix begins in a text that lacks one of its characters. White space
at the end of the text or behind it keeps the prefix from reaching over that end. -/
theorem unread_of_not_mem {p : Prefix} {opens : Bool} {s rest : Text} {c : Char}
    (marks : c ∈ p.text) (absent : c ∉ s)
    (ends : opensAfter opens s = true ∨ Body.endsBefore rest = true) : Unread p opens s rest := by
  have unbroken : ∀ d ∈ p.text, Text.isWhiteSpace d = false := by
    simpa using p.unbroken
  intro u v split inside _
  have foreign : c ∉ v := fun member => absent (split ▸ List.mem_append_right u member)
  rw [Option.eq_none_iff_forall_ne_some]
  rintro ⟨b, r⟩ read
  obtain ⟨_, whole, _⟩ := Body.readWhole?_eq_some_iff.1 read
  rw [List.append_assoc] at whole
  rcases List.append_eq_append_iff.1 whole with ⟨m, reaches, behind⟩ | ⟨m, within, _⟩
  · -- the prefix would hold the white space at the end of the text or behind it
    rcases ends with closed | boundary
    · have last := List.getLast?_eq_some_getLast inside
      rw [split, opensAfter_append, opensAfter, last] at closed
      have member : v.getLast inside ∈ p.text := by
        rw [reaches]
        exact List.mem_append_left m (List.getLast_mem inside)
      have visible := unbroken _ member
      have blank : Text.isWhiteSpace (v.getLast inside) = true := closed
      rw [visible] at blank
      cases blank
    · cases m with
      | nil =>
        rw [List.append_nil] at reaches
        exact foreign (reaches ▸ marks)
      | cons d m =>
        have member : d ∈ p.text := by simp [reaches]
        have visible := unbroken d member
        rw [behind] at boundary
        have blank : Text.isWhiteSpace d = true := boundary
        rw [visible] at blank
        cases blank
  · exact foreign (within ▸ List.mem_append_left m marks)

end Found

namespace Occurrence

theorem lt_start_of_mem_scan {p : Prefix} {offset : Nat} {s : Text} :
    ∀ n ∈ (scan p offset false s).map (·.start), offset < n := by
  intro n member
  obtain ⟨o, inside, rfl⟩ := List.mem_map.1 member
  obtain ⟨before, after, b, _, _, opened, _, rfl⟩ := (mem_scan_iff.1 inside).1
  have some_char : before ≠ [] := by
    rintro rfl
    cases opened
  exact Nat.lt_add_of_pos_right (Text.byteLength_pos some_char)

def marked (size i : Nat) (o : Occurrence) : Occurrence :=
  { o with start := o.start + i * size, stop := o.stop + (i + 1) * size }

theorem ofBody_eq_marked (p : Prefix) (offset : Nat) (b : Body) :
    ofBody p offset b = marked (Text.byteLength p.text) 0 (ofBody .none offset b) := by
  simp only [ofBody, marked, Prefix.none, Text.byteLength_append, Text.byteLength_nil, mk.injEq,
    true_and]
  omega

theorem stop_marked_zero (size : Nat) (o : Occurrence) :
    (marked size 0 o).stop = size + o.stop := by
  simp only [marked]
  omega

theorem map_shift_mapIdx_marked (size : Nat) (l : List Occurrence) :
    (l.mapIdx (marked size)).map (shift size) = l.mapIdx fun i => marked size (i + 1) := by
  have step (i : Nat) (o : Occurrence) :
      shift size (marked size i o) = marked size (i + 1) o := by
    simp only [shift, marked, Nat.add_mul, mk.injEq, true_and]
    omega
  apply List.ext_getElem?
  intro i
  simp only [List.getElem?_map, List.getElem?_mapIdx, Option.map_map]
  congr 1
  funext o
  exact step i o

section Marks
variable {p : Prefix} {c : Char} {offset : Nat} {opens : Bool} {s rest : Text} {b : Body}

/-- The step at a directive that carries the mark. -/
theorem scan_of_marked (marks : c ∈ p.text) (absent : c ∉ s) (opened : opensAfter opens s = true)
    (settled : IsSettledBody b) (boundary : Body.endsBefore rest = true) :
    scan p offset opens (s ++ (p.text ++ b.text ++ rest)) =
      ofBody p (offset + Text.byteLength s) b ::
        scan p (ofBody p (offset + Text.byteLength s) b).stop false rest := by
  have unread : Found.Unread p opens s (p.text ++ b.text ++ rest) :=
    Found.unread_of_not_mem marks absent (.inl opened)
  have first := Found.first?_eq_some unread opened settled boundary
  have reported : isReported p b = true := by
    have some_char : p.text ≠ [] := List.ne_nil_of_mem marks
    simp [isReported, Prefix.isEmpty, some_char]
  rw [scan_of_some first]
  exact if_pos reported

/-- The step at a word of prose, which stays unmarked and so is nothing to the search. -/
theorem scan_of_unmarked (marks : c ∈ p.text) (absent : c ∉ s ++ b.text) (body : IsBody b)
    (boundary : Body.endsBefore rest = true) :
    scan p offset opens (s ++ b.text ++ rest) =
      scan p (offset + Text.byteLength (s ++ b.text)) false rest := by
  have unread : Found.Unread p opens (s ++ b.text) rest :=
    Found.unread_of_not_mem marks absent (.inr boundary)
  rw [scan_append_of_unread offset unread, body.opensAfter]

end Marks

/-- The run, by induction on the search of the text without marks. -/
theorem scan_insertAt {p : Prefix} {c : Char} {offset : Nat} {opens : Bool} {s : Text}
    (marks : c ∈ p.text) (absent : c ∉ s) :
    scan p offset opens
        (Text.insertAt p.text ((scan .none offset opens s).map (·.start)) offset s) =
      (scan .none offset opens s).mapIdx (marked (Text.byteLength p.text)) := by
  fun_induction scan .none offset opens s with
  | case1 offset opens s nowhere =>
    have unread : Found.Unread p opens s [] := Found.unread_of_not_mem marks absent (.inr rfl)
    have passed := scan_append_of_unread offset unread
    rw [List.append_nil, scan_nil] at passed
    rw [List.map_nil, Text.insertAt_nil, passed, List.mapIdx_nil]
  | case2 offset opens s found first here others reported ih =>
    obtain ⟨settled, whole, boundary⟩ := Found.parts_of_first? first
    obtain rfl : s = found.skipped ++ (found.body.text ++ found.rest) := whole
    have behind : ∀ n ∈ others.map (·.start), here.stop < n := lt_start_of_mem_scan
    have written : Text.insertAt p.text (here.start :: others.map (·.start)) offset
        (found.skipped ++ (found.body.text ++ found.rest)) =
          found.skipped ++ (p.text ++ found.body.text ++
            Text.insertAt p.text (others.map (·.start)) here.stop found.rest) :=
      Text.insertAt_between found.body.text found.rest behind
    rw [← Text.endsBefore_insertAt p.text behind] at boundary
    rw [List.mem_append, List.mem_append, not_or, not_or] at absent
    rw [List.map_cons, written, scan_of_marked marks absent.1 (Found.opensAfter_skipped first)
      settled boundary, ofBody_eq_marked, stop_marked_zero, scan_add, ih absent.2.2,
      map_shift_mapIdx_marked, List.mapIdx_cons]
  | case3 offset opens s found first here others reported ih =>
    -- a bare word gets no mark, and with the prefix it is prose
    obtain ⟨settled, whole, boundary⟩ := Found.parts_of_first? first
    obtain rfl : s = found.skipped ++ found.body.text ++ found.rest :=
      whole.trans (List.append_assoc _ _ _).symm
    have behind : ∀ n ∈ others.map (·.start), here.stop < n := lt_start_of_mem_scan
    have stops : offset + Text.byteLength (found.skipped ++ found.body.text) = here.stop := by
      rw [Text.byteLength_append, ← Nat.add_assoc]
      rfl
    have written : Text.insertAt p.text (others.map (·.start)) offset
        (found.skipped ++ found.body.text ++ found.rest) = found.skipped ++ found.body.text ++
          Text.insertAt p.text (others.map (·.start)) here.stop found.rest := by
      rw [← stops] at behind ⊢
      exact Text.insertAt_append _ fun n inside => Nat.le_of_lt (behind n inside)
    rw [← Text.endsBefore_insertAt p.text behind] at boundary
    rw [List.mem_append, not_or] at absent
    rw [written, scan_of_unmarked marks absent.1 settled.isBody boundary, stops, ih absent.2]

theorem all_insertAt {p : Prefix} {c : Char} {s : Text} (marks : c ∈ p.text) (absent : c ∉ s) :
    all p (Text.insertAt p.text ((all .none s).map (·.start)) 0 s) =
      (all .none s).mapIdx (marked (Text.byteLength p.text)) :=
  scan_insertAt marks absent

end Occurrence

namespace Directive

theorem map_ofOccurrence_mapIdx_marked (size : Nat) (l : List Occurrence) :
    (l.mapIdx (Occurrence.marked size)).map ofOccurrence = l.map ofOccurrence := by
  apply List.ext_getElem?
  intro i
  simp only [List.getElem?_map, List.getElem?_mapIdx, Option.map_map]
  rfl

/-- Let every directive of a text without prefix be marked with a prefix of which some character
does not occur in the text. The same directives are found with the prefix, and each of them
begins with its mark and is moved by the marks before it. -/
theorem parse_insertAt {p : Prefix} {c : Char} {s : Text} (marks : c ∈ p.text) (absent : c ∉ s) :
    let t := Text.insertAt p.text ((Occurrence.all .none s).map (·.start)) 0 s
    parse p t = parse .none s ∧
      Occurrence.all p t = (Occurrence.all .none s).mapIdx fun i o =>
        { o with
          start := o.start + i * Text.byteLength p.text
          stop := o.stop + (i + 1) * Text.byteLength p.text } := by
  intro t
  have found : Occurrence.all p t = _ := Occurrence.all_insertAt marks absent
  refine ⟨?_, found⟩
  rw [parse, found, parse]
  exact map_ofOccurrence_mapIdx_marked (Text.byteLength p.text) (Occurrence.all .none s)

/-- The letter of the prefix is one of the text too, and the words of prose stay unmarked. -/
theorem parse_insertAt_letter :
    'é' ∈ ['a', 'é'] ∧ 'é' ∉ "w-1 bare a-b c-\" a-2\"".toList ∧
      parse ⟨['a', 'é'], rfl, rfl⟩ "aéw-1 bare aéa-b aéc-\" a-2\"".toList =
        parse .none "w-1 bare a-b c-\" a-2\"".toList ∧
      parse .none "w-1 bare a-b c-\" a-2\"".toList =
        [⟨['w'], [⟨none, .numeric, ['1'], none⟩]⟩, ⟨"a-b".toList, []⟩,
          ⟨['c'], [⟨none, .string, "\" a-2\"".toList, none⟩]⟩] := by
  have marks : 'é' ∈ (⟨['a', 'é'], rfl, rfl⟩ : Prefix).text := by decide
  have absent : 'é' ∉ "w-1 bare a-b c-\" a-2\"".toList := by decide
  have marked : Text.insertAt ['a', 'é']
      ((Occurrence.all .none "w-1 bare a-b c-\" a-2\"".toList).map (·.start)) 0
        "w-1 bare a-b c-\" a-2\"".toList = "aéw-1 bare aéa-b aéc-\" a-2\"".toList := by
    decide +kernel
  have same := (parse_insertAt marks absent).1
  rw [marked] at same
  exact ⟨marks, absent, same, by decide +kernel⟩

end Directive
end AltStyle
