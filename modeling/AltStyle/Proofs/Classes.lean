import AltStyle.Proofs.Declarations

/-! Classes. An image has the class of all styled images and behind it one for each name that its
directives have, in the order in which the names first appear. Names are made of lowercase letters
and hyphens, so the classes of an alt text can be written with spaces between them and nothing
that was written in the text can break or add one. -/
namespace AltStyle
open Grammar

namespace Text

def words (s : Text) : List Text :=
  (s.splitOnP isWhiteSpace).filter (· ≠ [])

theorem words_of_visible {w : Text} (some_char : w ≠ [])
    (visible : ∀ c ∈ w, isWhiteSpace c = false) : words w = [w] := by
  rw [words, List.splitOnP_eq_singleton visible]
  simp [some_char]

theorem words_append {w : Text} (some_char : w ≠ []) (visible : ∀ c ∈ w, isWhiteSpace c = false)
    (s : Text) : words (w ++ ' ' :: s) = w :: words s := by
  rw [words, List.splitOnP_append_cons_of_forall_mem visible ' ' rfl]
  simp [some_char, words]

/-- Words are got back from the text that joins them. -/
theorem words_intercalate {l : List Text}
    (visible : ∀ w ∈ l, w ≠ [] ∧ ∀ c ∈ w, isWhiteSpace c = false) :
    words ([' '].intercalate l) = l := by
  induction l with
  | nil => rfl
  | cons w l ih =>
    obtain ⟨⟨some_char, unbroken⟩, others⟩ := List.forall_mem_cons.1 visible
    cases l with
    | nil => rw [List.intercalate_singleton, words_of_visible some_char unbroken]
    | cons v l =>
      rw [List.intercalate_cons_cons, List.append_assoc, List.singleton_append,
        words_append some_char unbroken, ih others]

end Text

namespace Image
open Style

/-- The texts of a list, each once, in the order in which they first appear in it. -/
structure FirstOf (cs l : List Text) : Prop where
  mem_iff : ∀ c, c ∈ l ↔ c ∈ cs
  ordered : l.Pairwise fun a b => cs.idxOf a < cs.idxOf b

namespace FirstOf

variable {cs l : List Text} {c : Text}

theorem nodup (first : FirstOf cs l) : l.Nodup := by
  apply first.ordered.imp
  intro a b before same
  exact absurd before (same ▸ Nat.lt_irrefl _)

theorem ordered_append (first : FirstOf cs l) (more : List Text) :
    l.Pairwise fun a b => (cs ++ more).idxOf a < (cs ++ more).idxOf b := by
  apply first.ordered.imp_of_mem
  intro a b left right before
  rwa [List.idxOf_append_of_mem ((first.mem_iff a).1 left),
    List.idxOf_append_of_mem ((first.mem_iff b).1 right)]

theorem append_known (first : FirstOf cs l) (known : c ∈ l) : FirstOf (cs ++ [c]) l := by
  refine ⟨?_, first.ordered_append [c]⟩
  intro d
  rw [List.mem_append, List.mem_singleton, ← first.mem_iff d]
  exact ⟨.inl, fun appears => appears.elim id fun same => same ▸ known⟩

theorem append_new (first : FirstOf cs l) (new : c ∉ l) : FirstOf (cs ++ [c]) (l ++ [c]) := by
  refine ⟨fun d => ?_, List.pairwise_append.2
    ⟨first.ordered_append [c], List.pairwise_singleton _ _, ?_⟩⟩
  · rw [List.mem_append, List.mem_append, first.mem_iff d]
  · intro a left b right
    rw [List.mem_singleton.1 right]
    -- what is new stands behind everything read so far
    have front : a ∈ cs := (first.mem_iff a).1 left
    have absent : c ∉ cs := fun inside => new ((first.mem_iff c).2 inside)
    rw [List.idxOf_append_of_mem front, List.idxOf_append_of_notMem absent]
    exact Nat.lt_add_right _ (List.idxOf_lt_length_iff.2 front)

end FirstOf

/-- The step: a class that is not the root is added if it is new, and the invariant goes on. -/
theorem addClass_cons {root c : Text} {cs l : List Text} (first : FirstOf cs l) (other : c ≠ root) :
    ∃ m, addClass (root :: l) c = root :: m ∧ FirstOf (cs ++ [c]) m := by
  rw [addClass]
  by_cases known : c ∈ l
  · rw [if_pos (List.mem_cons_of_mem root known)]
    exact ⟨l, rfl, first.append_known known⟩
  · rw [if_neg (List.not_mem_cons_of_ne_of_not_mem other known)]
    exact ⟨l ++ [c], rfl, first.append_new known⟩

/-- The run, by induction on the classes that are still to come. -/
theorem foldl_addClass {root : Text} {cs l : List Text} (more : List Text) (first : FirstOf cs l)
    (others : ∀ c ∈ more, c ≠ root) :
    ∃ m, more.foldl addClass (root :: l) = root :: m ∧ FirstOf (cs ++ more) m := by
  induction more generalizing cs l with
  | nil =>
    rw [List.append_nil]
    exact ⟨l, rfl, first⟩
  | cons c more ih =>
    obtain ⟨other, others⟩ := List.forall_mem_cons.1 others
    obtain ⟨m, added, first⟩ := addClass_cons first other
    rw [List.foldl_cons, added, List.append_cons]
    exact ih first others

theorem className_eq (d : Directive) : className d = "ois-".toList ++ d.name := by
  have front : rootClass ++ ['-'] = "ois-".toList := by decide
  rw [className, front]

theorem className_ne_rootClass (d : Directive) : className d ≠ rootClass := by
  intro same
  have longer := congrArg List.length same
  simp [className] at longer

theorem exists_further (fit : ObjectFit) (ds : List Directive) :
    ∃ further, (ofDirectives fit ds).classes = rootClass :: further ∧
      FirstOf (ds.map className) further := by
  have nothing : FirstOf [] [] := ⟨fun _ => Iff.rfl, List.Pairwise.nil⟩
  apply foldl_addClass (ds.map className) nothing
  intro c member
  obtain ⟨d, _, rfl⟩ := List.mem_map.1 member
  exact className_ne_rootClass d

theorem forall_mem_class {p : Prefix} {fit : ObjectFit} {sizes : Dimensions} {alt c : Text}
    (member : c ∈ (ofAlt p fit sizes alt).classes) :
    c ≠ [] ∧ ∀ x ∈ c, x.isLower = true ∨ x = '-' := by
  obtain ⟨further, same, first⟩ := exists_further fit (ofAlt p fit sizes alt).directives
  have root : IsName rootClass := .word (by decide)
  have letters {n : Text} (name : IsName n) : ∀ x ∈ n, x.isLower = true ∨ x = '-' :=
    name.forall_mem (fun _ => .inl) (.inr rfl)
  rcases List.mem_cons.1 (same ▸ member : c ∈ rootClass :: further) with rfl | appears
  · exact ⟨root.ne_nil, letters root⟩
  · obtain ⟨d, directive, rfl⟩ := List.mem_map.1 ((first.mem_iff c).1 appears)
    have joined : IsName (rootClass ++ '-' :: d.name) :=
      .join (by decide) (isDirective_of_mem_ofAlt directive).name
    rw [className, List.append_assoc, List.singleton_append]
    exact ⟨joined.ne_nil, letters joined⟩

/-- The classes of an image are `ois` and, each once and in the order of their first appearance,
those that the names of its directives make. Those of an alt text hold lowercase letters and
hyphens only, so they are told apart again when they are written with spaces between them. -/
theorem classes_first_and_words :
    (∀ (fit : ObjectFit) (ds : List Directive), ∃ further,
      (ofDirectives fit ds).classes = "ois".toList :: further ∧
        ("ois".toList :: further).Nodup ∧
        (∀ c, c ∈ further ↔ ∃ d ∈ ds, c = "ois-".toList ++ d.name) ∧
        further.Pairwise fun a b =>
          (ds.map fun d => "ois-".toList ++ d.name).idxOf a <
            (ds.map fun d => "ois-".toList ++ d.name).idxOf b) ∧
      ∀ (p : Prefix) (fit : ObjectFit) (sizes : Dimensions) (alt : Text),
        Text.words ([' '].intercalate (ofAlt p fit sizes alt).classes) =
            (ofAlt p fit sizes alt).classes ∧
          ∀ c ∈ (ofAlt p fit sizes alt).classes, ∀ x ∈ c, x.isLower = true ∨ x = '-' := by
  constructor
  · intro fit ds
    obtain ⟨further, same, first⟩ := exists_further fit ds
    have names : ds.map className = ds.map fun d => "ois-".toList ++ d.name :=
      List.map_congr_left fun d _ => className_eq d
    refine ⟨further, same, List.nodup_cons.2 ⟨?_, first.nodup⟩, ?_, names ▸ first.ordered⟩
    · intro appears
      obtain ⟨d, _, root⟩ := List.mem_map.1 ((first.mem_iff _).1 appears)
      exact className_ne_rootClass d root
    · intro c
      rw [first.mem_iff c, names, List.mem_map]
      simp only [eq_comm]
  · intro p fit sizes alt
    refine ⟨Text.words_intercalate fun c member => ?_, fun c member => (forall_mem_class member).2⟩
    obtain ⟨some_char, letters⟩ := forall_mem_class member
    refine ⟨some_char, fun x inside => ?_⟩
    rcases letters x inside with lower | rfl
    · exact Text.isWhiteSpace_of_isLower lower
    · rfl

end Image
end AltStyle
