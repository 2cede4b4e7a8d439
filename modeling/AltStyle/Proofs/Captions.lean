import AltStyle.Style.Dimensions

/-! Captions. The caption that is meant is the first string named `str` in a directive whose name
is `label`, `text` or `title`. An image shows it, unless a directive misleads: one with a longer
name that only begins like these, or one that names another value `str` before its string. -/
namespace AltStyle

namespace Text

theorem isSome_after?_iff {beginning s : Text} :
    (after? beginning s).isSome = true ↔ beginning <+: s := by
  rw [Option.isSome_iff_exists]
  constructor
  · rintro ⟨rest, found⟩
    exact ⟨rest, (after?_eq_some_iff.1 found).symm⟩
  · rintro ⟨rest, same⟩
    exact ⟨rest, after?_eq_some_iff.2 same.symm⟩

end Text

namespace Argument

theorem text?_eq_none_iff {a : Argument} : a.text? = none ↔ a.kind ≠ .string := by
  rw [text?, ite_eq_right_iff]
  simp

def IsCaptionString (a : Argument) : Prop :=
  a.kind = .string ∧ a.effectiveName = "str".toList

instance : DecidablePred IsCaptionString :=
  fun _ => instDecidableAnd

end Argument

namespace Directive

def namesForCaptions : List Text :=
  ["label".toList, "text".toList, "title".toList]

def IsForCaptions (d : Directive) : Prop :=
  d.name ∈ namesForCaptions

instance : DecidablePred IsForCaptions :=
  fun d => inferInstanceAs (Decidable (d.name ∈ namesForCaptions))

def captionStrings (ds : List Directive) : List Argument :=
  (ds.filter (·.IsForCaptions)).flatMap fun d => d.args.filter (·.IsCaptionString)

def caption? (ds : List Directive) : Option Text :=
  (captionStrings ds).head?.bind (·.text?)

/-- A directive that is taken for one with a caption, or hides the one that it has. -/
inductive Misleads (d : Directive) : Prop
  | longer_name {name : Text} {a : Argument} (other : ¬ d.IsForCaptions)
      (listed : name ∈ namesForCaptions) (begins : name <+: d.name)
      (first : d.arg? "str".toList = some a) (string : a.kind = .string)
  | hidden_string {a b : Argument} (named : d.IsForCaptions)
      (first : d.arg? "str".toList = some a) (other : a.kind ≠ .string) (inside : b ∈ d.args)
      (string : b.IsCaptionString)

theorem isCaption_iff {d : Directive} :
    Image.isCaption d = true ↔ ∃ name ∈ namesForCaptions, name <+: d.name := by
  simp only [Image.isCaption, List.any_eq_true, Text.isSome_after?_iff]
  rfl

theorem IsForCaptions.isCaption {d : Directive} (named : d.IsForCaptions) :
    Image.isCaption d = true :=
  isCaption_iff.2 ⟨d.name, named, List.prefix_rfl⟩

def shown? (d : Directive) : Option Text :=
  if Image.isCaption d then (d.arg? "str".toList).bind (·.text?) else none

/-- The caption is found directive by directive, without filtering them first. -/
theorem labelText?_eq (fit : ObjectFit) (ds : List Directive) :
    (Image.ofDirectives fit ds).labelText? = ds.findSome? shown? := by
  show (ds.filter Image.isCaption).findSome? _ = _
  induction ds with
  | nil => rfl
  | cons d ds ih =>
    rw [List.findSome?_cons, shown?, ← ih]
    by_cases counts : Image.isCaption d = true
    · rw [List.filter_cons_of_pos counts, List.findSome?_cons, if_pos counts]
      rfl
    · rw [List.filter_cons_of_neg counts, if_neg counts]

theorem captionStrings_of_named {d : Directive} (named : d.IsForCaptions) :
    captionStrings [d] = d.args.filter (·.IsCaptionString) := by
  simp [captionStrings, named]

theorem captionStrings_of_other {d : Directive} (other : ¬ d.IsForCaptions) :
    captionStrings [d] = [] := by
  simp [captionStrings, other]

theorem captionStrings_cons (d : Directive) (ds : List Directive) :
    captionStrings (d :: ds) = captionStrings [d] ++ captionStrings ds := by
  by_cases named : d.IsForCaptions
  all_goals simp [captionStrings, named]

theorem kind_of_mem_captionStrings {a : Argument} {ds : List Directive}
    (member : a ∈ captionStrings ds) : a.kind = .string := by
  obtain ⟨d, _, inside⟩ := List.mem_flatMap.1 member
  exact (of_decide_eq_true (List.mem_filter.1 inside).2).1

theorem caption?_eq_none_iff {ds : List Directive} :
    caption? ds = none ↔ captionStrings ds = [] := by
  cases found : captionStrings ds with
  | nil => simp [caption?, found]
  | cons a others =>
    have string := kind_of_mem_captionStrings (found ▸ List.mem_cons_self)
    simpa [caption?, found, Argument.text?_eq_none_iff] using string

/-- The meant caption too can be looked for in one directive after another. -/
theorem caption?_eq (ds : List Directive) : caption? ds = ds.findSome? fun d => caption? [d] := by
  induction ds with
  | nil => rfl
  | cons d ds ih =>
    rw [List.findSome?_cons, ← ih]
    cases own : caption? [d] with
    | none =>
      rw [caption?, captionStrings_cons, caption?_eq_none_iff.1 own]
      rfl
    | some t =>
      have filled : captionStrings [d] ≠ [] := fun nothing => by
        rw [caption?_eq_none_iff.2 nothing] at own
        cases own
      rw [caption?, captionStrings_cons, List.head?_append, Option.or_of_isSome]
      · exact own
      · exact List.isSome_head?.2 filled

theorem caption?_of_string {d : Directive} {a : Argument} (named : d.IsForCaptions)
    (first : d.arg? "str".toList = some a) (string : a.kind = .string) :
    caption? [d] = a.text? := by
  obtain ⟨same, before, after, split, passed⟩ := List.find?_eq_some_iff_append.1 first
  -- no string of the name stands before it, since nothing of the name does
  have found : (captionStrings [d]).head? = some a := by
    rw [captionStrings_of_named named, List.head?_filter, List.find?_eq_some_iff_append]
    refine ⟨decide_eq_true ⟨string, of_decide_eq_true same⟩, before, after, split, ?_⟩
    intro b member
    have other := passed b member
    rw [Bool.not_eq_true', decide_eq_false_iff_not] at other ⊢
    exact fun hidden => other hidden.2
  rw [caption?, found, Option.bind_some]

theorem caption?_of_none {d : Directive} (named : d.IsForCaptions)
    (first : d.arg? "str".toList = none) : caption? [d] = none := by
  rw [caption?_eq_none_iff, captionStrings_of_named named, List.filter_eq_nil_iff]
  intro a inside string
  exact List.find?_eq_none.1 first a inside (decide_eq_true (of_decide_eq_true string).2)

theorem shown?_of_first {d : Directive} {a : Argument} (counts : Image.isCaption d = true)
    (first : d.arg? "str".toList = some a) : d.shown? = a.text? := by
  rw [shown?, if_pos counts, first, Option.bind_some]

/-- Each way to mislead gives a caption where none is meant, or hides the one that is. -/
theorem Misleads.differs {d : Directive} (misleads : d.Misleads) : d.shown? ≠ caption? [d] := by
  cases misleads with
  | longer_name other listed begins first string =>
    rw [shown?_of_first (isCaption_iff.2 ⟨_, listed, begins⟩) first,
      caption?_eq_none_iff.2 (captionStrings_of_other other), Ne, Argument.text?_eq_none_iff]
    exact fun absent => absent string
  | hidden_string named first other inside string =>
    rw [shown?_of_first named.isCaption first, Argument.text?_eq_none_iff.2 other, ne_comm, Ne,
      caption?_eq_none_iff, captionStrings_of_named named]
    exact List.ne_nil_of_mem (List.mem_filter.2 ⟨inside, decide_eq_true string⟩)

theorem shown?_eq_caption? {d : Directive} (plain : ¬ d.Misleads) : d.shown? = caption? [d] := by
  by_cases named : d.IsForCaptions
  · cases first : d.arg? "str".toList with
    | none => rw [caption?_of_none named first, shown?, first, Option.bind_none, ite_self]
    | some a =>
      rw [shown?_of_first named.isCaption first]
      by_cases string : a.kind = .string
      · exact (caption?_of_string named first string).symm
      · rw [Argument.text?_eq_none_iff.2 string, eq_comm, caption?_eq_none_iff,
          captionStrings_of_named named, List.filter_eq_nil_iff]
        intro b inside hidden
        exact plain (.hidden_string named first string inside (of_decide_eq_true hidden))
  · rw [caption?_eq_none_iff.2 (captionStrings_of_other named), shown?, ite_eq_right_iff]
    intro counts
    obtain ⟨name, listed, begins⟩ := isCaption_iff.1 counts
    rw [Option.bind_eq_none_iff]
    intro a first
    rw [Argument.text?_eq_none_iff]
    exact fun string => plain (.longer_name named listed begins first string)

end Directive

namespace Image
open Directive

/-- The captions of an image and of all images with some of its directives are the ones that are
meant, exactly if no directive misleads. -/
theorem labelText?_eq_caption?_iff (fit : ObjectFit) (ds : List Directive) :
    (∀ es, es.Sublist ds → (ofDirectives fit es).labelText? = caption? es) ↔
      ∀ d ∈ ds, ¬ d.Misleads := by
  constructor
  · intro meant d member
    -- the selection of this directive alone shows whether it misleads
    have single := meant [d] (List.singleton_sublist.2 member)
    rw [labelText?_eq, List.findSome?_singleton] at single
    exact fun misleads => misleads.differs single
  · intro plain es selected
    have same : es.map shown? = es.map fun d => caption? [d] := by
      apply List.map_congr_left
      intro d member
      exact shown?_eq_caption? (plain d (selected.subset member))
    have searched := congrArg (List.findSome? id) same
    rw [List.findSome?_map, List.findSome?_map] at searched
    rw [labelText?_eq, caption?_eq]
    exact searched

theorem labelText?_eq_caption?_iff_hidden :
    ¬ ∀ es : List Directive,
      es.Sublist [⟨"label".toList, [⟨some "str".toList, .numeric, ['5'], none⟩,
        ⟨none, .string, "\"x\"".toList, none⟩]⟩] →
      (ofDirectives .cover es).labelText? = caption? es := by
  rw [labelText?_eq_caption?_iff, List.forall_mem_singleton]
  exact fun plain => plain (.hidden_string (by decide) rfl (by decide)
    (List.mem_cons_of_mem _ List.mem_cons_self) ⟨rfl, rfl⟩)

/-- A directive with a longer name gives an image a caption. -/
theorem labelText?_ne_caption?_textual :
    (ofAlt .none .cover .none "textual-\"x\"".toList).labelText? = some ['x'] ∧
      caption? (ofAlt .none .cover .none "textual-\"x\"".toList).directives = none := by
  decide +kernel

end Image
end AltStyle
