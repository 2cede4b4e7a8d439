import AltStyle.Config.Basic

/-! Where a configuration is found: in the directory itself or in the first one above it that has
an entry of the right name. What stands farther up makes no difference. -/
namespace AltStyle

theorem Place.mem_upward_iff {name : Text} {start q : Place} :
    q ∈ start.upward name ↔ ∃ d, d <:+ start ∧ q = name :: d := by
  induction start with
  | nil => simp [upward]
  | cons x above ih =>
    simp only [upward, List.mem_cons, ih, List.suffix_cons_iff, or_and_right, exists_or,
      exists_eq_left]

namespace FileTree

/-- Whether the directory is the nearest to the start with an entry of the name, among the start
and the directories above it. -/
structure IsNearest (t : FileTree) (name : Text) (start d : Place) : Prop where
  upward : d <:+ start
  found : (t.node? (name :: d)).isSome = true
  nearer : ∀ e, e <:+ start → d.length < e.length → t.node? (name :: e) = none

theorem nearest?_nil (t : FileTree) (name : Text) :
    t.nearest? name [] = if (t.node? [name]).isSome then some [name] else none := by
  rw [nearest?, Place.upward, List.find?_singleton]

theorem nearest?_cons (t : FileTree) (name x : Text) (above : Place) :
    t.nearest? name (x :: above) =
      if (t.node? (name :: x :: above)).isSome then some (name :: x :: above)
      else t.nearest? name above := by
  rw [nearest?, Place.upward, List.find?_cons]
  cases (t.node? (name :: x :: above)).isSome <;> rfl

theorem isNearest_self {t : FileTree} {name : Text} {start : Place}
    (found : (t.node? (name :: start)).isSome = true) : t.IsNearest name start start := by
  refine ⟨List.suffix_rfl, found, fun e upward nearer => ?_⟩
  exact absurd upward.length_le (Nat.not_le.2 nearer)

theorem IsNearest.eq_of_found {t : FileTree} {name : Text} {start d : Place}
    (nearest : t.IsNearest name start d) (found : (t.node? (name :: start)).isSome = true) :
    d = start := by
  apply nearest.upward.eq_of_length_le
  apply Nat.le_of_not_lt
  intro nearer
  rw [nearest.nearer start List.suffix_rfl nearer] at found
  cases found

theorem isNearest_cons_iff {t : FileTree} {name x : Text} {above d : Place}
    (missing : t.node? (name :: x :: above) = none) :
    t.IsNearest name (x :: above) d ↔ t.IsNearest name above d := by
  constructor
  · intro nearest
    refine ⟨?_, nearest.found, fun e upward =>
      nearest.nearer e (upward.trans (List.suffix_cons x above))⟩
    rcases List.suffix_cons_iff.1 nearest.upward with rfl | upward
    · have found := nearest.found
      rw [missing] at found
      cases found
    · exact upward
  · intro nearest
    refine ⟨nearest.upward.trans (List.suffix_cons x above), nearest.found, ?_⟩
    intro e upward nearer
    rcases List.suffix_cons_iff.1 upward with rfl | upward
    · exact missing
    · exact nearest.nearer e upward nearer

/-- By induction on the way up, as the search goes. -/
theorem nearest?_eq_some_iff {t : FileTree} {name : Text} {start p : Place} :
    t.nearest? name start = some p ↔ ∃ d, p = name :: d ∧ t.IsNearest name start d := by
  have here {start : Place} (found : (t.node? (name :: start)).isSome = true) :
      some (name :: start) = some p ↔ ∃ d, p = name :: d ∧ t.IsNearest name start d := by
    constructor
    · intro same
      exact ⟨start, (Option.some.inj same).symm, isNearest_self found⟩
    · rintro ⟨d, rfl, nearest⟩
      rw [nearest.eq_of_found found]
  induction start with
  | nil =>
    rw [nearest?_nil]
    split
    · next found => exact here found
    · next missing =>
      refine iff_of_false (by simp) ?_
      rintro ⟨d, _, nearest⟩
      have root : d = [] := List.suffix_nil.1 nearest.upward
      exact missing (root ▸ nearest.found)
  | cons x above ih =>
    rw [nearest?_cons]
    split
    · next found => exact here found
    · next missing =>
      rw [Option.not_isSome_iff_eq_none] at missing
      simp only [ih, isNearest_cons_iff missing]

theorem isSome_nearest?_iff {t : FileTree} {name : Text} {start : Place} :
    (t.nearest? name start).isSome = true ↔
      ∃ d, d <:+ start ∧ (t.node? (name :: d)).isSome = true := by
  rw [nearest?, List.find?_isSome]
  constructor
  · rintro ⟨q, member, found⟩
    obtain ⟨d, upward, rfl⟩ := Place.mem_upward_iff.1 member
    exact ⟨d, upward, found⟩
  · rintro ⟨d, upward, found⟩
    exact ⟨name :: d, Place.mem_upward_iff.2 ⟨d, upward, rfl⟩, found⟩

/-- Whether the trees differ, on the way up from the start, only farther up than the directory. -/
def DifferAbove (t u : FileTree) (start d : Place) : Prop :=
  ∀ q, u.node? q ≠ t.node? q → q.tail <:+ start → q.tail.length < d.length

theorem DifferAbove.node?_eq {t u : FileTree} {start d e : Place} (far : DifferAbove t u start d)
    (upward : e <:+ start) (near : d.length ≤ e.length) (name : Text) :
    u.node? (name :: e) = t.node? (name :: e) := by
  apply Classical.byContradiction
  intro differ
  exact Nat.not_lt.2 near (far (name :: e) differ upward)

theorem node?_concat {q p : Place} (other : q ≠ p) (nodes : List (Place × Node)) (n : Node) :
    (FileTree.mk (nodes ++ [(p, n)])).node? q = (FileTree.mk nodes).node? q := by
  have unequal : [(p, n)].find? (·.1 = q) = none :=
    List.find?_cons_of_neg (by simpa using other.symm)
  rw [node?, node?, List.find?_append, unequal, Option.or_none]

theorem differAbove_concat {p start d : Place} (far : p.tail <:+ start → p.tail.length < d.length)
    (nodes : List (Place × Node)) (n : Node) :
    DifferAbove ⟨nodes⟩ ⟨nodes ++ [(p, n)]⟩ start d := by
  intro q differ upward
  by_cases same : q = p
  · rw [same] at upward ⊢
    exact far upward
  · exact absurd (node?_concat same nodes n) differ

/-- What is nearest stays so if the tree changes only farther up. -/
theorem IsNearest.of_differAbove {t u : FileTree} {name : Text} {start d : Place}
    (nearest : t.IsNearest name start d) (far : DifferAbove t u start d) :
    u.IsNearest name start d := by
  refine ⟨nearest.upward, ?_, ?_⟩
  · rw [far.node?_eq nearest.upward (Nat.le_refl _)]
    exact nearest.found
  · intro e upward nearer
    rw [far.node?_eq upward (Nat.le_of_lt nearer)]
    exact nearest.nearer e upward nearer

end FileTree

namespace Config
open FileTree

/-- Loading sees nothing of the tree but the entry that is found. -/
theorem load_congr {t u : FileTree} {start p : Place} (one : t.nearest? fileName start = some p)
    (other : u.nearest? fileName start = some p) (same : u.node? p = t.node? p) (env : Environment)
    (o : Overrides) : load ⟨u, start, env⟩ none o = load ⟨t, start, env⟩ none o := by
  have read : readSettings ⟨u, start, env⟩ none = readSettings ⟨t, start, env⟩ none := by
    simp only [readSettings, one, other, same]
  rw [load, load, read]

/-- Without a given path the configuration is the nearest one, and there is one exactly if the
start or a directory above it has an entry of the right name. Entries farther up than the one that
is found make no difference, neither to what is found nor to what is loaded. -/
theorem discovers_nearest (start : Place) :
    (∀ (t : FileTree) (p : Place), t.nearest? fileName start = some p ↔
      ∃ d, p = "ois.toml".toList :: d ∧ d <:+ start ∧
        (t.node? ("ois.toml".toList :: d)).isSome = true ∧
        ∀ e, e <:+ start → d.length < e.length → t.node? ("ois.toml".toList :: e) = none) ∧
    (∀ t : FileTree, (t.nearest? fileName start).isSome = true ↔
      ∃ d, d <:+ start ∧ (t.node? ("ois.toml".toList :: d)).isSome = true) ∧
    ∀ (t u : FileTree) (d : Place), t.nearest? fileName start = some ("ois.toml".toList :: d) →
      DifferAbove t u start d →
      u.nearest? fileName start = some ("ois.toml".toList :: d) ∧
        ∀ (env : Environment) (o : Overrides),
          load ⟨u, start, env⟩ none o = load ⟨t, start, env⟩ none o := by
  refine ⟨fun t p => nearest?_eq_some_iff.trans ?_, fun t => isSome_nearest?_iff, ?_⟩
  · constructor
    · rintro ⟨d, same, nearest⟩
      exact ⟨d, same, nearest.upward, nearest.found, nearest.nearer⟩
    · rintro ⟨d, same, upward, found, nearer⟩
      exact ⟨d, same, upward, found, nearer⟩
  · intro t u d one far
    obtain ⟨e, same, nearest⟩ := nearest?_eq_some_iff.1 one
    cases same
    have other := nearest?_eq_some_iff.2 ⟨d, rfl, nearest.of_differAbove far⟩
    exact ⟨other, load_congr one other (far.node?_eq nearest.upward (Nat.le_refl _) _)⟩

def notes : List (Place × Node) :=
  [(["ois.toml".toList, "notes".toList], .unreadable)]

/-- An entry that is added at the root is too far away. -/
theorem discovers_nearest_notes :
    (FileTree.mk notes).nearest? fileName ["images".toList, "notes".toList] =
        some ["ois.toml".toList, "notes".toList] ∧
      DifferAbove ⟨notes⟩ ⟨notes ++ [(["ois.toml".toList], .directory)]⟩
        ["images".toList, "notes".toList] ["notes".toList] ∧
      (FileTree.mk (notes ++ [(["ois.toml".toList], .directory)])).nearest? fileName
        ["images".toList, "notes".toList] = some ["ois.toml".toList, "notes".toList] := by
  have one : (FileTree.mk notes).nearest? fileName ["images".toList, "notes".toList] =
      some ["ois.toml".toList, "notes".toList] := by decide
  have far : DifferAbove ⟨notes⟩ ⟨notes ++ [(["ois.toml".toList], .directory)]⟩
      ["images".toList, "notes".toList] ["notes".toList] :=
    differAbove_concat (fun _ => by decide) notes .directory
  exact ⟨one, far, ((discovers_nearest _).2.2 _ _ _ one far).1⟩

end Config
end AltStyle
