import Mathlib.Data.List.Forall2
import AltStyle.Proofs.Kinds
import AltStyle.Proofs.Occurrences

/-! The search for arguments takes the tail of a directive apart in the way in which the directive
was found. Both see the arguments of the grammar, and there are no others. -/
namespace AltStyle
open Grammar

namespace Argument

theorem forall₂_filterMap {A B : Type} {f : A → Option B} {l : List A}
    (total : ∀ a ∈ l, ∃ b, f a = some b) :
    List.Forall₂ (fun a b => f a = some b) l (l.filterMap f) := by
  induction l with
  | nil => exact .nil
  | cons a l ih =>
    obtain ⟨b, value⟩ := total a List.mem_cons_self
    rw [List.filterMap_cons_some value]
    exact .cons value (ih fun c inside => total c (List.mem_cons_of_mem a inside))

structure Located where
  start : Nat
  stop : Nat
  source : Source

namespace Located

def span (m : Located) : Nat × Nat :=
  (m.start, m.stop)

def place (offset : Nat) : List Source → List Located
  | [] => []
  | a :: l => ⟨offset, offset + Text.byteLength a.text, a⟩ ::
      place (offset + Text.byteLength a.text) l

/-- The spans fill the bytes from `start` to `stop` in order and without gaps. -/
def Tile (start stop : Nat) : List Located → Prop
  | [] => start = stop
  | m :: ms => m.start = start ∧ m.start < m.stop ∧ Tile m.stop stop ms

def search (offset : Nat) (s : Text) : List Located :=
  match _found : Source.read? s with
  | some (a, rest) => ⟨offset, offset + Text.byteLength a.text, a⟩ ::
      search (offset + Text.byteLength a.text) rest
  | none =>
    match s with
    | [] => []
    | c :: s => search (offset + c.utf8Size) s
termination_by s.length
decreasing_by
  · exact Source.length_of_read? _found
  · simp

theorem map_source_search (offset : Nat) (s : Text) :
    (search offset s).map (·.source) = Source.search s := by
  fun_induction search offset s with
  | case1 offset s a rest found ih => rw [List.map_cons, ih, Source.search_of_some found]
  | case2 offset nothing =>
    rw [Source.search]
    rfl
  | case3 offset c s nothing ih => rw [ih, Source.search_cons_of_none nothing]

theorem search_of_some {offset : Nat} {s rest : Text} {a : Source}
    (found : Source.read? s = some (a, rest)) :
    search offset s = ⟨offset, offset + Text.byteLength a.text, a⟩ ::
      search (offset + Text.byteLength a.text) rest := by
  rw [search]
  split
  · next b tail same =>
    rw [found] at same
    cases same
    rfl
  · next nothing =>
    rw [found] at nothing
    cases nothing

theorem search_sources {l : List Source} (offset : Nat) (settled : ∀ a ∈ l, IsSettled a) :
    search offset (l.flatMap (·.text)) = place offset l := by
  induction l generalizing offset with
  | nil =>
    rw [List.flatMap_nil, search]
    rfl
  | cons a l ih =>
    have follows := follows_sources l follows_nil
    rw [List.append_nil] at follows
    rw [List.flatMap_cons,
      search_of_some (Source.read?_text_append (settled a List.mem_cons_self) follows), place,
      ih _ fun b inside => settled b (List.mem_cons_of_mem a inside)]

theorem map_source_place (offset : Nat) (l : List Source) :
    (place offset l).map (·.source) = l := by
  induction l generalizing offset with
  | nil => rfl
  | cons a l ih => rw [place, List.map_cons, ih]

theorem span_place_congr {l m : List Source} (offset : Nat)
    (same : l.map (·.text) = m.map (·.text)) :
    (place offset l).map span = (place offset m).map span := by
  induction l generalizing offset m with
  | nil =>
    have nothing : m = [] := List.map_eq_nil_iff.1 same.symm
    rw [nothing]
  | cons a l ih =>
    obtain ⟨b, n, rfl, first, others⟩ := List.map_eq_cons_iff.1 same.symm
    simp only [place, List.map_cons, span, first, ih _ others.symm]

/-- Arguments side by side fill the text that they are written as. -/
theorem tile_place (offset : Nat) (l : List Source) :
    Tile offset (offset + Text.byteLength (l.flatMap (·.text))) (place offset l) := by
  induction l generalizing offset with
  | nil => rfl
  | cons a l ih =>
    have size := Text.byteLength_pos (List.cons_ne_nil '-' (a.name ++ a.value ++ a.unit))
    have others := ih (offset + Text.byteLength a.text)
    rw [Nat.add_assoc, ← Text.byteLength_append, ← List.flatMap_cons] at others
    exact ⟨rfl, Nat.lt_add_of_pos_right size, others⟩

end Located

theorem Source.search_sources {l : List Source} (settled : ∀ a ∈ l, IsSettled a) :
    search (l.flatMap (·.text)) = l := by
  rw [← Located.map_source_search 0, Located.search_sources 0 settled,
    Located.map_source_place]

theorem forall₂_ofTail (t : Text) :
    List.Forall₂ (fun a x => a.argument? = some x) (Source.search t) (ofTail (some t)) := by
  apply forall₂_filterMap
  intro a inside
  exact Source.exists_argument (Source.isSettled_of_mem_search inside).toIsSource

theorem ofTail_sources_ne_nil {l : List Source} (settled : ∀ a ∈ l, IsSettled a)
    (some_source : l ≠ []) : ofTail (some (l.flatMap (·.text))) ≠ [] := by
  intro nothing
  have related := forall₂_ofTail (l.flatMap (·.text))
  rw [nothing, Source.search_sources settled, List.forall₂_nil_right_iff] at related
  exact some_source related

end Argument

namespace Occurrence

/-- What is reported was read, so its text has at least one way to be taken apart. -/
theorem exists_settled_of_mem_all {p : Prefix} {s t : Text} {o : Occurrence}
    (reported : o ∈ all p s) (tailed : o.tail = some t) :
    ∃ b, IsSettledBody b ∧ b.name = o.name ∧ b.tail = t ∧ b.sources ≠ [] := by
  obtain ⟨before, after, b, body, _, _, _, rfl⟩ := (mem_scan_iff.1 reported).1
  obtain ⟨c, settled, names, texts⟩ := body.exists_settled
  simp only [ofBody] at tailed
  split at tailed
  · cases tailed
  · next some_source =>
    cases tailed
    refine ⟨c, settled, names, ?_, ?_⟩
    · rw [Body.tail_eq_flatten, Body.tail_eq_flatten, texts]
    · intro nothing
      rw [nothing] at texts
      exact some_source (List.map_eq_nil_iff.1 texts.symm)

/-- A reported directive with a tail has one name and one list of arguments, whichever way it is
taken apart. The search for arguments finds the same ones in the tail alone, side by side from
its first to its last byte, and each of them is one argument of the directive. -/
theorem segmentation_unique {p : Prefix} {s t : Text} {o : Occurrence}
    (reported : o ∈ all p s) (tailed : o.tail = some t) :
    (∃ b, IsBody b ∧ b.text = o.name ++ t) ∧
    (∀ b, IsBody b → b.text = o.name ++ t → b.name = o.name ∧
      (Argument.Located.search 0 t).map (·.span) =
        (Argument.Located.place 0 b.sources).map (·.span)) ∧
    Argument.Located.Tile 0 (Text.byteLength t) (Argument.Located.search 0 t) ∧
    (Argument.Located.search 0 t).map (·.source) = Argument.Source.search t ∧
    (Argument.Source.search t).flatMap (·.text) = t ∧
    List.Forall₂ (fun a x => a.argument? = some x) (Argument.Source.search t)
      (Argument.ofTail o.tail) ∧
    Argument.ofTail o.tail ≠ [] := by
  obtain ⟨b, settled, named, rfl, some_source⟩ := exists_settled_of_mem_all reported tailed
  have located := Argument.Located.search_sources 0 settled.sources
  have written : b.text = o.name ++ b.tail := by rw [Body.text, named]
  have found : Argument.Source.search b.tail = b.sources :=
    Argument.Source.search_sources settled.sources
  refine ⟨⟨b, settled.isBody, written⟩, ?_, ?_, Argument.Located.map_source_search 0 b.tail, ?_,
    ?_, ?_⟩
  · intro c body same
    have nothing : Body.endsBefore [] = true := rfl
    have whole : c.text ++ [] = b.text ++ [] := by rw [same, written]
    obtain ⟨names, texts⟩ := Body.parts_unique body settled.isBody nothing nothing whole
    refine ⟨names.trans named, ?_⟩
    rw [Body.tail, located]
    exact Argument.Located.span_place_congr 0 texts.symm
  · have tiled := Argument.Located.tile_place 0 b.sources
    rw [Nat.zero_add] at tiled
    rw [Body.tail, located]
    exact tiled
  · rw [found, Body.tail]
  · rw [tailed]
    exact Argument.forall₂_ofTail b.tail
  · rw [tailed]
    exact Argument.ofTail_sources_ne_nil settled.sources some_source

theorem segmentation_unique_size :
    ⟨"size".toList, some "-w\"a -1\"-#fffpt".toList, 4, 23⟩ ∈
        all .none "the size-w\"a -1\"-#fffpt".toList ∧
      Argument.Located.Tile 0 15 (Argument.Located.search 0 "-w\"a -1\"-#fffpt".toList) := by
  have reported : ⟨"size".toList, some "-w\"a -1\"-#fffpt".toList, 4, 23⟩ ∈
      all .none "the size-w\"a -1\"-#fffpt".toList := by decide +kernel
  obtain ⟨_, _, tile, _⟩ := segmentation_unique reported rfl
  exact ⟨reported, tile⟩

end Occurrence
end AltStyle
