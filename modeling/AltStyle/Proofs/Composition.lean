import Mathlib.Data.List.Basic
import AltStyle.Directive.Reader
import AltStyle.Proofs.Search

/-! Texts on both sides of a white space character. The white space inside a directive stands
between delimiters, so a directive reaches over such a character only if its left side holds an
opening delimiter and its right side a closing one. Otherwise the two sides are read apart. -/
namespace AltStyle
open Grammar Argument

namespace Grammar

def isOpener (c : Char) : Bool :=
  ['"', '\'', '{', '&', '('].contains c

def isCloser (c : Char) : Bool :=
  ['"', '\'', '}', '&', ')'].contains c

/-- Nothing that begins in the first text can end in the second. -/
def Apart (s t : Text) : Prop :=
  (∀ c ∈ s, isOpener c = false) ∨ ∀ c ∈ t, isCloser c = false

theorem Apart.of_append {r s t : Text} (apart : Apart (r ++ s) t) : Apart s t :=
  apart.imp_left fun closed c inside => closed c (List.mem_append_right r inside)

def Enclosed (s : Text) : Prop :=
  ∀ u w v, s = u ++ w :: v → Text.isWhiteSpace w = true →
    (∃ c ∈ u, isOpener c = true) ∧ ∃ c ∈ v, isCloser c = true

theorem enclosed_of_visible {s : Text} (visible : ∀ c ∈ s, Text.isWhiteSpace c = false) :
    Enclosed s := by
  intro u w v split blank
  have inside : w ∈ s := by simp [split]
  rw [visible w inside] at blank
  cases blank

theorem Enclosed.append {s t : Text} (front : Enclosed s) (back : Enclosed t) :
    Enclosed (s ++ t) := by
  intro u w v split blank
  rcases List.append_eq_append_iff.1 split with ⟨m, rfl, later⟩ | ⟨m, earlier, rest⟩
  · obtain ⟨⟨c, inside, opener⟩, closed⟩ := back m w v later blank
    exact ⟨⟨c, List.mem_append_right s inside, opener⟩, closed⟩
  · cases m with
    | nil =>
      obtain ⟨⟨c, inside, _⟩, _⟩ := back [] w v rest.symm blank
      cases inside
    | cons d m =>
      cases rest
      obtain ⟨opened, c, inside, closer⟩ := front u w m earlier blank
      exact ⟨opened, c, List.mem_append_left t inside, closer⟩

theorem enclosed_delimited {o d : Char} (s : Text) (opener : isOpener o = true)
    (closer : isCloser d = true) (visible : Text.isWhiteSpace o = false)
    (ends : Text.isWhiteSpace d = false) : Enclosed (o :: (s ++ [d])) := by
  intro u w v split blank
  constructor
  · cases u with
    | nil =>
      have first : o = w := (List.cons.inj split).1
      rw [← first, visible] at blank
      cases blank
    | cons c u =>
      have first : o = c := (List.cons.inj split).1
      exact ⟨o, first ▸ List.mem_cons_self, opener⟩
  · rw [← List.cons_append] at split
    rcases List.eq_nil_or_concat' v with rfl | ⟨v, e, rfl⟩
    · have last : d = w := List.singleton_inj.1 (List.append_inj' split rfl).2
      rw [← last, ends] at blank
      cases blank
    · rw [← List.cons_append, ← List.append_assoc] at split
      have last : d = e := List.singleton_inj.1 (List.append_inj' split rfl).2
      exact ⟨d, by simp [last], closer⟩

theorem isOpener_of_stringClose? {o d : Char} (closes : Value.stringClose? o = some d) :
    isOpener o = true ∧ isCloser d = true ∧ Text.isWhiteSpace o = false := by
  unfold Value.stringClose? at closes
  split at closes
  all_goals cases closes
  all_goals decide

/-- White space in a value stands between its delimiters, because the other values hold none. -/
theorem IsValue.enclosed {k : Kind} {v : Text} (value : IsValue k v) : Enclosed v := by
  cases value with
  | number some_digit numerals =>
    exact enclosed_of_visible fun c digit => Value.isWhiteSpace_of_isNumeral (numerals c digit)
  | @string o d s closes body =>
    obtain ⟨opener, closer, visible⟩ := isOpener_of_stringClose? closes
    exact enclosed_delimited s opener closer visible (isWhiteSpace_of_stringClose? closes)
  | @functionalColor s channels =>
    have sharp : Enclosed ['#'] := enclosed_of_visible (List.forall_mem_singleton.2 rfl)
    exact sharp.append (enclosed_delimited s rfl rfl rfl rfl)
  | hexColor digits => exact enclosed_of_visible (visible_hexColor digits)
  | @raw s body => exact enclosed_delimited s rfl rfl rfl rfl

theorem IsSource.enclosed {a : Source} (source : IsSource a) : Enclosed a.text := by
  obtain ⟨k, value⟩ := source.value
  have before := enclosed_of_visible source.visible_name
  have after := enclosed_of_visible source.unit.visible
  have whole := (before.append value.enclosed).append after
  simpa [Source.text] using whole

theorem enclosed_sources {l : List Source} (sources : ∀ a ∈ l, IsSource a) :
    Enclosed (l.flatMap (·.text)) := by
  induction l with
  | nil => exact enclosed_of_visible (List.forall_mem_nil _)
  | cons a l ih =>
    rw [List.flatMap_cons]
    exact (sources a List.mem_cons_self).enclosed.append
      (ih fun b inside => sources b (List.mem_cons_of_mem a inside))

theorem IsBody.enclosed {b : Body} (p : Prefix) (body : IsBody b) :
    Enclosed (p.text ++ b.text) := by
  have marker : ∀ c ∈ p.text, Text.isWhiteSpace c = false := by
    simpa using p.unbroken
  exact (enclosed_of_visible marker).append
    ((enclosed_of_visible body.name.visible).append (enclosed_sources body.sources))

/-- A directive that begins before the white space ends before it, so it can be seen without what
follows. -/
theorem IsBody.exists_rest {p : Prefix} {b : Body} {w : Char} {s t rest : Text} (body : IsBody b)
    (blank : Text.isWhiteSpace w = true) (apart : Apart s t)
    (split : s ++ w :: t = p.text ++ b.text ++ rest) :
    ∃ r, s = p.text ++ b.text ++ r ∧ rest = r ++ w :: t := by
  -- a body that ends behind the white space would hold it between its delimiters
  rcases List.append_eq_append_iff.1 split with ⟨m, longer, later⟩ | ⟨m, shorter, later⟩
  · cases m with
    | nil => exact ⟨[], by simpa using longer.symm, later.symm⟩
    | cons d m =>
      cases later
      obtain ⟨⟨c, inside, opener⟩, d, behind, closer⟩ := body.enclosed p s w m longer blank
      rcases apart with closed | opened
      · rw [closed c inside] at opener
        cases opener
      · rw [opened d (List.mem_append_left rest behind)] at closer
        cases closer
  · exact ⟨m, shorter, later⟩

end Grammar

namespace Body

theorem endsBefore_append_blank {w : Char} (blank : Text.isWhiteSpace w = true) (s t : Text) :
    endsBefore (s ++ w :: t) = endsBefore s := by
  cases s with
  | nil => exact blank
  | cons c s => rfl

theorem readWhole?_append_blank {p : Prefix} {w : Char} {s t : Text}
    (blank : Text.isWhiteSpace w = true) (apart : Apart s t) :
    readWhole? p (s ++ w :: t) =
      (readWhole? p s).map fun (b, rest) => (b, rest ++ w :: t) := by
  ext ⟨b, rest⟩
  rw [readWhole?_eq_some_iff, Option.map_eq_some_iff]
  constructor
  · intro written
    obtain ⟨settled, split, boundary⟩ := written
    obtain ⟨r, rfl, rfl⟩ := settled.isBody.exists_rest blank apart split
    rw [endsBefore_append_blank blank] at boundary
    exact ⟨(b, r), readWhole?_eq_some_iff.2 ⟨settled, rfl, boundary⟩, rfl⟩
  · intro found
    obtain ⟨⟨c, r⟩, read, same⟩ := found
    cases same
    obtain ⟨settled, rfl, boundary⟩ := readWhole?_eq_some_iff.1 read
    rw [endsBefore_append_blank blank]
    exact ⟨settled, List.append_assoc _ _ _, boundary⟩

end Body

namespace Found

theorem Unread.append_blank {p : Prefix} {opens : Bool} {w : Char} {s rest t : Text}
    (unread : Unread p opens s rest) (blank : Text.isWhiteSpace w = true)
    (apart : Apart (s ++ rest) t) : Unread p opens s (rest ++ w :: t) := by
  intro u v split inside opened
  rw [split, List.append_assoc] at apart
  rw [← List.append_assoc, Body.readWhole?_append_blank blank apart.of_append,
    unread u v split inside opened, Option.map_none]

theorem first?_append_blank {p : Prefix} {opens : Bool} {w : Char} {s t : Text} {found : Found}
    (first : first? p opens s = some found) (blank : Text.isWhiteSpace w = true)
    (apart : Apart s t) :
    first? p opens (s ++ w :: t) = some { found with rest := found.rest ++ w :: t } := by
  obtain ⟨settled, rfl, boundary⟩ := parts_of_first? first
  have unread := (unread_skipped first).append_blank blank apart
  have behind := (Body.endsBefore_append_blank blank found.rest t).trans boundary
  rw [List.append_assoc] at unread
  rw [List.append_assoc, List.append_assoc (p.text ++ found.body.text)]
  exact first?_eq_some unread (opensAfter_skipped first) settled behind

theorem unread_blank {p : Prefix} {opens : Bool} {w : Char} {s t : Text}
    (nowhere : first? p opens s = none) (blank : Text.isWhiteSpace w = true)
    (apart : Apart s t) : Unread p opens (s ++ [w]) t := by
  intro u v split inside opened
  obtain ⟨r, e, rfl⟩ := (List.eq_nil_or_concat' v).resolve_left inside
  rw [← List.append_assoc] at split
  obtain ⟨rfl, last⟩ := List.append_inj' split rfl
  obtain rfl := List.singleton_inj.1 last
  have nothing := readWhole?_of_nowhere nowhere opened
  rw [List.append_assoc, List.singleton_append, Body.readWhole?_append_blank blank apart.of_append,
    nothing, Option.map_none]

end Found

namespace Occurrence

/-- By induction on the search of the first part. Where that finds nothing more, the search of the
whole begins anew behind the white space. -/
theorem scan_append_blank {p : Prefix} {offset : Nat} {opens : Bool} {w : Char} {s t : Text}
    (blank : Text.isWhiteSpace w = true) (apart : Apart s t) :
    scan p offset opens (s ++ w :: t) = scan p offset opens s ++
      scan p (offset + Text.byteLength (s ++ [w])) true t := by
  induction offset, opens, s using search_induction p with
  | nowhere offset opens s nowhere =>
    -- the search passes over the white space too, so that the other side is opened
    have unread := Found.unread_blank nowhere blank apart
    have opened : opensAfter opens (s ++ [w]) = true := by
      rw [opensAfter_append]
      exact blank
    have passed := scan_append_of_unread offset unread
    rw [opened, List.append_assoc] at passed
    rw [scan_of_none nowhere]
    exact passed
  | found offset opens s found first ih =>
    have whole := Found.append_of_first? first
    have later := ih (whole ▸ apart).of_append
    have stops : (ofFound p offset found).stop + Text.byteLength found.rest =
        offset + Text.byteLength s := stop_ofFound first
    have bytes : (ofFound p offset found).stop + Text.byteLength (found.rest ++ [w]) =
        offset + Text.byteLength (s ++ [w]) := by
      simp only [Text.byteLength_append]
      omega
    have same : ofFound p offset { found with rest := found.rest ++ w :: t } =
        ofFound p offset found := rfl
    rw [scan_of_first? (Found.first?_append_blank first blank apart), same, scan_of_first? first,
      later, bytes, List.append_assoc]

theorem all_append_blank {p : Prefix} {w : Char} {s t : Text}
    (blank : Text.isWhiteSpace w = true) (apart : Apart s t) :
    all p (s ++ w :: t) = all p s ++ (all p t).map (shift (Text.byteLength (s ++ [w]))) := by
  rw [all, scan_append_blank blank apart, Nat.zero_add, all, all, ← scan_add, Nat.add_zero]

end Occurrence

namespace Directive

theorem parse_append_blank {p : Prefix} {w : Char} {s t : Text}
    (blank : Text.isWhiteSpace w = true) (apart : Apart s t) :
    parse p (s ++ w :: t) = parse p s ++ parse p t := by
  have same : ofOccurrence ∘ Occurrence.shift (Text.byteLength (s ++ [w])) = ofOccurrence := rfl
  rw [parse, Occurrence.all_append_blank blank apart, List.map_append, List.map_map, same, parse,
    parse]

/-- White space sets apart the directives before it from those behind it, unless one could open
before it and close behind it. The places behind it are moved by the bytes before them. -/
theorem read_apart {p : Prefix} {w : Char} {s t : Text} (blank : Text.isWhiteSpace w = true)
    (apart : Apart s t) :
    Occurrence.all p (s ++ w :: t) = Occurrence.all p s ++
        (Occurrence.all p t).map (Occurrence.shift (Text.byteLength (s ++ [w]))) ∧
      parse p (s ++ w :: t) = parse p s ++ parse p t :=
  ⟨Occurrence.all_append_blank blank apart, parse_append_blank blank apart⟩

/-- A string that is opened before the white space ends nowhere. -/
theorem read_apart_unclosed :
    Text.isWhiteSpace '\u2003' = true ∧ Apart "é a-1 b-\"x".toList "y c-#(2 d-3".toList ∧
      Occurrence.all .none ("é a-1 b-\"x".toList ++ '\u2003' :: "y c-#(2 d-3".toList) =
        [⟨['a'], some "-1".toList, 3, 6⟩] ++
          [⟨['d'], some "-3".toList, 8, 11⟩].map (Occurrence.shift 14) ∧
      parse .none ("é a-1 b-\"x".toList ++ '\u2003' :: "y c-#(2 d-3".toList) =
        [⟨['a'], [⟨none, .numeric, ['1'], none⟩]⟩] ++
          [⟨['d'], [⟨none, .numeric, ['3'], none⟩]⟩] := by
  have blank : Text.isWhiteSpace '\u2003' = true := by decide
  have open_end : ∀ c ∈ "y c-#(2 d-3".toList, (!isCloser c) = true :=
    List.all_eq_true.1 (by decide)
  have apart : Apart "é a-1 b-\"x".toList "y c-#(2 d-3".toList := .inr (by simpa using open_end)
  have front : Occurrence.all .none "é a-1 b-\"x".toList = [⟨['a'], some "-1".toList, 3, 6⟩] := by
    decide +kernel
  have back : Occurrence.all .none "y c-#(2 d-3".toList = [⟨['d'], some "-3".toList, 8, 11⟩] := by
    decide +kernel
  have front_parsed : parse .none "é a-1 b-\"x".toList =
      [⟨['a'], [⟨none, .numeric, ['1'], none⟩]⟩] := by decide +kernel
  have back_parsed : parse .none "y c-#(2 d-3".toList =
      [⟨['d'], [⟨none, .numeric, ['3'], none⟩]⟩] := by decide +kernel
  have whole := read_apart (p := .none) blank apart
  rw [front, back, front_parsed, back_parsed] at whole
  exact ⟨blank, apart, whole⟩

end Directive
end AltStyle
