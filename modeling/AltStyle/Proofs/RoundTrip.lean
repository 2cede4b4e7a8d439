import AltStyle.Directive.Writer
import AltStyle.Proofs.NormalForms

/-! Directives in normal form, written with their values in source form, are read back as they
are. The spaces between them are the boundaries on both sides. -/
namespace AltStyle
open Grammar

namespace Text

theorem isProtected_escape {special : Char → Bool} {close : Char} (closes : special close = true)
    (backslash : special '\\' = true) (t : Text) : IsProtected close (escape special t) := by
  induction t with
  | nil => exact .nil
  | cons c t ih =>
    rw [escape_cons]
    split
    · exact .escaped c ih
    · next ordinary =>
      refine .plain ?_ ?_ ih
      · intro same
        exact ordinary (same ▸ closes)
      · intro same
        exact ordinary (same ▸ backslash)

end Text

namespace Argument

def toSource (a : Argument) : Source :=
  ⟨a.name.getD [], a.valueSource, a.unit.getD []⟩

def barred (channels : Text) : Text :=
  channels.map fun c => if c = '/' then '|' else c

theorem functionalSource_closed (channels : Text) :
    functionalSource (channels ++ [')']) = '#' :: '(' :: (barred channels ++ [')']) := by
  rw [functionalSource, List.map_append]
  rfl

theorem isChannel_of_mem_barred {channels : Text}
    (inside : ∀ c ∈ channels, isFunctionChannel c = true) :
    ∀ c ∈ barred channels, Value.isChannel c = true := by
  apply Text.forall_mem_replaced _ rfl inside
  intro c channel other
  rw [isFunctionChannel, Bool.or_eq_true, beq_iff_eq] at channel
  rw [Value.isChannel, channel.resolve_right other]
  rfl

theorem rgba_barred {channels : Text} (inside : ∀ c ∈ channels, isFunctionChannel c = true) :
    Kind.rgba ('#' :: '(' :: (barred channels ++ [')'])) =
      "rgba(".toList ++ channels ++ [')'] := by
  have back : (barred channels).map (fun c => if c = '|' then '/' else c) = channels := by
    rw [barred, List.map_map, List.map_congr_left (g := id), List.map_id]
    intro c member
    have unbarred : c ≠ '|' := by
      intro bar
      subst bar
      exact absurd (inside '|' member) (by decide)
    by_cases slash : c = '/'
    · rw [slash]
      rfl
    · rw [Function.comp_apply, if_neg slash, if_neg unbarred]
      rfl
  rw [Kind.rgba_delimited, back]

/-- The source form of a value in normal form is a value of its kind, and normalizing it leads
back. -/
theorem isValue_valueSource {a : Argument} (normal : IsNormal a.kind a.value) :
    IsValue a.kind a.valueSource ∧ a.kind.normalize a.valueSource = a.value := by
  obtain ⟨name, kind, value, unit⟩ := a
  have normal : IsNormal kind value := normal
  cases normal with
  | number some_digit numerals => exact ⟨.number some_digit numerals, rfl⟩
  | @string s body =>
    obtain ⟨t, rfl⟩ := isEscaped_iff.1 body
    refine ⟨.string rfl (Text.isProtected_escape rfl rfl t), ?_⟩
    show Text.quote (Text.unescape (Text.betweenEnds (Text.quote t))) = Text.quote t
    rw [Text.unescape_betweenEnds_quote]
  | @hexColor s digits =>
    have hex : IsHexColor ('#' :: s) := ⟨s, digits, rfl⟩
    exact ⟨.hexColor digits, Kind.normalize_hexColor hex⟩
  | @functionalColor s channels =>
    have opened : Text.after? "rgba(".toList ("rgba(".toList ++ s ++ [')']) = some (s ++ [')']) :=
      Text.after?_eq_some_iff.2 (List.append_assoc _ _ _)
    have functional : IsFunctionalColor ('#' :: '(' :: (barred s ++ [')'])) :=
      ⟨barred s, isChannel_of_mem_barred channels, rfl⟩
    have written : valueSource ⟨name, .color, "rgba(".toList ++ s ++ [')'], unit⟩ =
        '#' :: '(' :: (barred s ++ [')']) := by
      simp only [valueSource, opened]
      exact functionalSource_closed s
    rw [written]
    refine ⟨isValue_color_iff.2 (.inl functional), ?_⟩
    rw [Kind.normalize_functionalColor functional]
    exact rgba_barred channels
  | raw =>
    let special := fun c => c == '&' || c == '\\'
    have isProtected : IsProtected '&' (Text.escape special value) :=
      Text.isProtected_escape rfl rfl value
    refine ⟨.raw isProtected, ?_⟩
    exact (Kind.normalize_raw _).trans (Text.unescape_escape rfl value)

theorem isSettled_toSource {a : Argument} (normal : IsArgument a) : IsSettled a.toSource := by
  have value := (isValue_valueSource normal.value).1
  have measured (u : Text) (same : a.unit = some u) := normal.unit u same
  refine {
    name := ?_
    value := ⟨a.kind, value⟩
    unit := ?_
    settled := ?_ }
  · cases named : a.name with
    | none => simp [toSource, named]
    | some n =>
      rw [toSource, named]
      exact (normal.name n named).2
  · cases same : a.unit with
    | none =>
      rw [toSource, same]
      exact isUnit_nil
    | some u =>
      rw [toSource, same]
      exact (measured u same).2.2
  · intro hex
    have color : a.kind = .color := value.kind_eq (isValue_color_iff.2 (.inr hex))
    cases same : a.unit with
    | none =>
      rw [toSource, same]
      exact Text.stops_nil _
    | some u =>
      have number := (measured u same).1
      rw [color] at number
      cases number

/-- An argument in normal form is the one that its source form stands for. -/
theorem argument?_toSource {a : Argument} (normal : IsArgument a) :
    a.toSource.argument? = some a := by
  obtain ⟨value, back⟩ := isValue_valueSource normal.value
  have kind := Kind.ofValue?_eq_some_iff.2 value
  have name : (if a.name.getD [] = [] then none else some (a.name.getD [])) = a.name := by
    cases named : a.name with
    | none => rfl
    | some n => exact if_neg (normal.name n named).1
  have unit : (if a.kind = .numeric ∧ a.unit.getD [] ≠ [] then some (a.unit.getD [])
      else none) = a.unit := by
    cases same : a.unit with
    | none => simp
    | some u =>
      obtain ⟨number, some_char, _⟩ := normal.unit u same
      exact if_pos ⟨number, some_char⟩
  rw [Source.argument?, toSource]
  simp only [kind, Option.map_some, name, unit, back]

theorem filterMap_toSource {l : List Argument} (normal : ∀ a ∈ l, IsArgument a) :
    (l.map toSource).filterMap Source.argument? = l := by
  induction l with
  | nil => rfl
  | cons a l ih =>
    have others := ih fun b inside => normal b (List.mem_cons_of_mem a inside)
    rw [List.map_cons,
      List.filterMap_cons_some (argument?_toSource (normal a List.mem_cons_self)), others]

end Argument

namespace Directive

def toBody (d : Directive) : Body :=
  ⟨d.name, d.args.map Argument.toSource⟩

theorem text_toBody (d : Directive) : d.toBody.text = d.name ++ d.args.flatMap Argument.source := by
  rw [Body.text, Body.tail, toBody, List.flatMap_map]
  rfl

theorem isSettled_toBody {p : Prefix} {d : Directive} (normal : IsDirective p d) :
    IsSettledBody d.toBody := by
  refine ⟨normal.name, ?_⟩
  intro a member
  obtain ⟨x, inside, rfl⟩ := List.mem_map.1 member
  exact Argument.isSettled_toSource (normal.args x inside)

theorem isReported_toBody {p : Prefix} {d : Directive} (normal : IsDirective p d) :
    Occurrence.isReported p d.toBody = true := by
  rw [← Bool.not_eq_false]
  intro prose
  have isProse : IsProse p (Occurrence.ofBody p 0 d.toBody) := Occurrence.not_isReported_iff.1 prose
  obtain ⟨unmarked, unhyphened, bare⟩ := isProse
  rcases normal.set_off unmarked with hyphen | some_argument
  · exact unhyphened hyphen
  · apply some_argument
    simpa [Occurrence.ofBody, toBody] using bare

theorem ofOccurrence_toBody {p : Prefix} {d : Directive} (offset : Nat) (normal : IsDirective p d) :
    ofOccurrence (Occurrence.ofBody p offset d.toBody) = d := by
  rw [ofOccurrence_ofBody offset (isSettled_toBody normal), toBody,
    Argument.filterMap_toSource normal.args]

theorem source_singleton (p : Prefix) (d : Directive) :
    source p [d] = p.text ++ d.toBody.text ++ [] := by
  rw [text_toBody, List.append_nil, ← List.append_assoc]
  simp [source, write]

theorem source_cons (p : Prefix) (d e : Directive) (ds : List Directive) :
    source p (d :: e :: ds) = p.text ++ d.toBody.text ++ ' ' :: source p (e :: ds) := by
  rw [text_toBody, ← List.append_assoc]
  simp [source, write, List.intercalate]

/-- The run, by induction on the directives: each is found at the front of what is left. -/
theorem scan_source {p : Prefix} {ds : List Directive} (offset : Nat)
    (normal : ∀ d ∈ ds, IsDirective p d) :
    (Occurrence.scan p offset true (source p ds)).map ofOccurrence = ds := by
  induction ds generalizing offset with
  | nil =>
    have nothing : source p [] = [] := rfl
    rw [nothing, Occurrence.scan_nil, List.map_nil]
  | cons d ds ih =>
    have first := normal d List.mem_cons_self
    have settled := isSettled_toBody first
    have reported := isReported_toBody first
    have others := fun e inside => normal e (List.mem_cons_of_mem d inside)
    cases ds with
    | nil =>
      rw [source_singleton, Occurrence.scan_front settled rfl reported, Occurrence.scan_nil,
        List.map_cons, ofOccurrence_toBody offset first, List.map_nil]
    | cons e ds =>
      have blank : Text.isWhiteSpace ' ' = true := rfl
      have boundary : Body.endsBefore (' ' :: source p (e :: ds)) = true := blank
      rw [source_cons, Occurrence.scan_front settled boundary reported, List.map_cons,
        ofOccurrence_toBody offset first, Occurrence.scan_cons_false, blank, ih _ others]

/-- Directives in normal form that are written in source form are read back. -/
theorem parse_source {p : Prefix} {ds : List Directive} (normal : ∀ d ∈ ds, IsDirective p d) :
    parse p (source p ds) = ds :=
  scan_source 0 normal

def note : Directive where
  name := "note".toList
  args := [⟨some "by".toList, .string, Text.quote "it\" -1".toList, none⟩,
    ⟨none, .raw, "a & \\ b".toList, none⟩, ⟨none, .numeric, "1.5".toList, some ['%']⟩]

theorem parse_source_note :
    (∀ d ∈ [note], IsDirective .none d) ∧ parse .none (source .none [note]) = [note] := by
  have quoted : IsArgument
      ⟨some "by".toList, .string, Text.quote "it\" -1".toList, none⟩ := by
    refine ⟨?_, isNormal_string_iff.2 ⟨_, rfl⟩, ?_⟩
    · intro n named
      cases named
      exact ⟨by decide, List.all_eq_true.1 (by decide)⟩
    · intro u measured
      cases measured
  have raw : IsArgument ⟨none, .raw, "a & \\ b".toList, none⟩ := by
    refine ⟨?_, .raw _, ?_⟩
    · intro n named
      cases named
    · intro u measured
      cases measured
  have number : IsArgument ⟨none, .numeric, "1.5".toList, some ['%']⟩ := by
    refine ⟨?_, .number (by decide) (List.all_eq_true.1 (by decide)), ?_⟩
    · intro n named
      cases named
    · intro u measured
      cases measured
      exact ⟨rfl, by decide, [], List.forall_mem_nil _, .inr rfl⟩
  have normal : ∀ d ∈ [note], IsDirective .none d := by
    intro d member
    rw [List.mem_singleton.1 member]
    refine ⟨.word ⟨by decide, List.all_eq_true.1 (by decide)⟩, ?_, fun _ => .inr (by simp [note])⟩
    simpa [note] using ⟨quoted, raw, number⟩
  exact ⟨normal, parse_source normal⟩

end Directive
end AltStyle
