import Mathlib
import AltStyle.Style.FileType
import AltStyle.Proofs.Characters

/-! Which sources are images. Extensions are compared in the lower case of Unicode, where a
character may become several and one at the end of a word may become another than elsewhere. But
beyond ASCII the Kelvin sign alone becomes a character of ASCII, and no extension that counts has
a `k`. So they count exactly as if letters were compared in ASCII. -/
namespace AltStyle

namespace Text

theorem isUpper_iff {c : Char} : c.isUpper = true ↔ 65 ≤ c.toNat ∧ c.toNat ≤ 90 := by
  simp [Char.isUpper, UInt32.le_iff_toNat_le]

theorem isAlpha_iff {c : Char} :
    c.isAlpha = true ↔ (65 ≤ c.toNat ∧ c.toNat ≤ 90) ∨ (97 ≤ c.toNat ∧ c.toNat ≤ 122) := by
  rw [Char.isAlpha, Bool.or_eq_true, isUpper_iff, isLower_iff]

theorem isAlphanumeric_of_isAlpha {c : Char} (letter : c.isAlpha = true) :
    isAlphanumeric c = true := by
  rw [isAlphanumeric, inRanges_iff]
  rcases isAlpha_iff.1 letter with capital | small
  · exact ⟨(0x41, 0x5a), by decide, capital⟩
  · exact ⟨(0x61, 0x7a), by decide, small⟩

namespace CapitalRun

theorem lists_iff {run : CapitalRun} {n : Nat} :
    run.lists n = true ↔ (run.first ≤ n ∧ n ≤ run.last) ∧ (n - run.first) % run.stride = 0 := by
  rw [lists, Bool.and_eq_true, Bool.and_eq_true, decide_eq_true_iff, decide_eq_true_iff, beq_iff_eq]

def IsBeyond (run : CapitalRun) : Prop :=
  0x80 ≤ run.first ∧ (0x80 : Int) ≤ run.first + run.shift ∧
    ((run.last : Int) + run.shift < 0xd800 ∨
      (0xe000 : Int) ≤ run.first + run.shift ∧ (run.last : Int) + run.shift < 0x110000)

instance : DecidablePred IsBeyond :=
  fun _ => inferInstanceAs (Decidable (_ ∧ _))

theorem IsBeyond.le_toNat {run : CapitalRun} {n : Nat} (beyond : run.IsBeyond)
    (low : run.first ≤ n) (high : n ≤ run.last) :
    0x80 ≤ (Char.ofNat (Int.toNat (n + run.shift))).toNat := by
  obtain ⟨_, start, valid⟩ := beyond
  have point : Nat.isValidChar (Int.toNat (n + run.shift)) := by
    unfold Nat.isValidChar
    omega
  rw [Char.toNat_ofNat, if_pos point]
  omega

/-- A run of capitals is that of ASCII, the Kelvin sign alone, or beyond ASCII throughout. -/
theorem mem_capitalRuns_cases :
    ∀ run ∈ capitalRuns, run.first = 0x41 ∧ run.last = 0x5a ∨
      run.first = 0x212a ∧ run.last = 0x212a ∨ run.IsBeyond := by
  decide +kernel

end CapitalRun

theorem find?_capitalRuns_of_isUpper {c : Char} (capital : c.isUpper = true) :
    capitalRuns.find? (·.lists c.toNat) = some ⟨0x41, 0x5a, 1, 32⟩ := by
  have listed : CapitalRun.lists ⟨0x41, 0x5a, 1, 32⟩ c.toNat = true :=
    CapitalRun.lists_iff.2 ⟨isUpper_iff.1 capital, Nat.mod_one _⟩
  exact List.find?_cons_of_pos listed

theorem find?_capitalRuns_of_ascii {c : Char} (ascii : c.toNat < 0x80)
    (small : ¬ c.isUpper = true) : capitalRuns.find? (·.lists c.toNat) = none := by
  rw [List.find?_eq_none]
  intro run member listed
  have range := (CapitalRun.lists_iff.1 listed).1
  rw [isUpper_iff] at small
  rcases CapitalRun.mem_capitalRuns_cases run member with capitals | kelvin | beyond
  · omega
  · omega
  · exact absurd beyond.1 (by omega)

theorem lowerChar_of_ascii {c : Char} (ascii : c.toNat < 0x80) : lowerChar c = [c.toLower] := by
  have dotless : ¬ (c == 'İ') = true := by
    rw [beq_iff_eq]
    rintro rfl
    exact absurd ascii (by decide)
  rw [lowerChar, if_neg dotless]
  by_cases capital : c.isUpper = true
  · rw [find?_capitalRuns_of_isUpper capital, Char.toLower_eq_of_isUpper capital]
    rfl
  · rw [find?_capitalRuns_of_ascii ascii capital, Char.toLower_eq_of_not_isUpper capital]

/-- Beyond ASCII only the Kelvin sign has a lower case in ASCII. -/
theorem exists_beyond_lowerChar {c : Char} (beyond : 0x80 ≤ c.toNat) (other : c ≠ '\u212a') :
    ∃ x ∈ lowerChar c, 0x80 ≤ x.toNat := by
  rw [lowerChar]
  split
  · exact ⟨'\u0307', by decide, by decide⟩
  · split
    · next run found =>
      have listed := List.find?_some found
      have range := (CapitalRun.lists_iff.1 listed).1
      refine ⟨_, List.mem_singleton.2 rfl, ?_⟩
      rcases CapitalRun.mem_capitalRuns_cases run (List.mem_of_find?_eq_some found) with
        capitals | kelvin | far
      · omega
      · have same : c.toNat = 0x212a := by omega
        rw [← Char.ofNat_toNat c, same] at other
        exact absurd rfl other
      · exact far.le_toNat range.1 range.2
    · exact ⟨c, List.mem_singleton.2 rfl, beyond⟩

theorem lowercaseAfter_of_ascii (before : Text) {s : Text} (ascii : ∀ c ∈ s, c.toNat < 0x80) :
    lowercaseAfter before s = s.map Char.toLower := by
  induction s generalizing before with
  | nil => rfl
  | cons c s ih =>
    obtain ⟨first, others⟩ := List.forall_mem_cons.1 ascii
    have ordinary : ¬ (c == 'Σ') = true := by
      rw [beq_iff_eq]
      rintro rfl
      exact absurd first (by decide)
    rw [lowercaseAfter, if_neg ordinary, lowerChar_of_ascii first, ih _ others]
    rfl

theorem ascii_of_lowercaseAfter (before : Text) {s : Text}
    (plain : ∀ x ∈ lowercaseAfter before s, x.toNat < 0x80 ∧ x ≠ 'k') :
    ∀ c ∈ s, c.toNat < 0x80 := by
  induction s generalizing before with
  | nil => exact List.forall_mem_nil _
  | cons c s ih =>
    rw [lowercaseAfter, List.forall_mem_append] at plain
    obtain ⟨own, others⟩ := plain
    refine List.forall_mem_cons.2 ⟨?_, ih _ others⟩
    by_contra beyond
    -- a sigma becomes one of two small ones, both beyond ASCII
    split at own
    · split at own
      · exact absurd (own 'ς' (List.mem_singleton.2 rfl)).1 (by decide)
      · exact absurd (own 'σ' (List.mem_singleton.2 rfl)).1 (by decide)
    · by_cases kelvin : c = '\u212a'
      · rw [kelvin] at own
        exact absurd rfl (own 'k' (by decide +kernel)).2
      · obtain ⟨x, member, far⟩ := exists_beyond_lowerChar (Nat.not_lt.1 beyond) kelvin
        exact absurd (own x member).1 (Nat.not_lt.2 far)

theorem isAlpha_of_map_toLower {s t : Text} (same : s.map Char.toLower = t)
    (letters : ∀ c ∈ t, c.isLower = true) : ∀ c ∈ s, c.isAlpha = true := by
  intro c member
  rw [← Char.isLower_toLower_eq_isAlpha]
  exact letters _ (same ▸ List.mem_map_of_mem member)

theorem toNat_lt_of_isAlpha {c : Char} (letter : c.isAlpha = true) : c.toNat < 0x80 := by
  have range := isAlpha_iff.1 letter
  omega

/-- For such words lower case is that of ASCII. No character beyond ASCII becomes one of their
letters, because the only one that could becomes a `k`. -/
theorem lowercase_eq_iff {s t : Text} (letters : ∀ c ∈ t, c.isLower = true) (other : 'k' ∉ t) :
    lowercase s = t ↔ s.map Char.toLower = t := by
  constructor
  · rintro rfl
    have ascii : ∀ c ∈ s, c.toNat < 0x80 := by
      apply ascii_of_lowercaseAfter []
      intro x member
      have range := isLower_iff.1 (letters x member)
      exact ⟨by omega, fun same => other (same ▸ member)⟩
    exact (lowercaseAfter_of_ascii [] ascii).symm
  · intro same
    have ascii : ∀ c ∈ s, c.toNat < 0x80 := fun c member =>
      toNat_lt_of_isAlpha (isAlpha_of_map_toLower same letters c member)
    rw [lowercase, lowercaseAfter_of_ascii [] ascii, same]

end Text

namespace Style

theorem afterLastPoint?_append {q e : Text} (last : '.' ∉ e) :
    afterLastPoint? (q ++ '.' :: e) = some e := by
  have run : ∀ c ∈ e.reverse, (c != '.') = true := by
    intro c member
    rw [bne_iff_ne]
    rintro rfl
    exact last (List.mem_reverse.1 member)
  have pointed : (q ++ '.' :: e).contains '.' = true := by simp
  have back : (q ++ '.' :: e).reverse = e.reverse ++ '.' :: q.reverse := by simp
  rw [afterLastPoint?, if_pos pointed, back, Text.takeWhile_run run (by simp), List.reverse_reverse]

theorem afterLastPoint?_eq_some_iff {s e : Text} :
    afterLastPoint? s = some e ↔ ∃ q, s = q ++ '.' :: e ∧ '.' ∉ e := by
  constructor
  · intro found
    have pointed : '.' ∈ s.reverse := by
      by_contra pointless
      rw [afterLastPoint?, if_neg (by simpa using pointless)] at found
      cases found
    obtain ⟨behind, front, split, last⟩ := List.eq_append_cons_of_mem pointed
    have same : s = front.reverse ++ '.' :: behind.reverse := by
      simpa using congrArg List.reverse split
    have apart : '.' ∉ behind.reverse := fun member => last (List.mem_reverse.1 member)
    rw [same, afterLastPoint?_append apart] at found
    cases found
    exact ⟨front.reverse, same, apart⟩
  · rintro ⟨q, rfl, last⟩
    exact afterLastPoint?_append last

theorem isStyleable_iff {source alt : Text} :
    isStyleable source alt = true ↔
      alt ≠ source ∧ ∃ x ∈ imageExtensions, extension? source = some x := by
  rw [isStyleable, Bool.and_eq_true, bne_iff_ne]
  apply and_congr_right'
  cases extension? source with
  | none => simp
  | some x => simp

theorem isWord_of_mem_imageExtensions : ∀ x ∈ imageExtensions, Grammar.IsWord x ∧ 'k' ∉ x := by
  decide

theorem extension?_eq_some_iff {s x : Text} (listed : x ∈ imageExtensions) :
    extension? s = some x ↔ ∃ q e, s = q ++ '.' :: e ∧ e.map Char.toLower = x := by
  obtain ⟨⟨some_char, letters⟩, other⟩ := isWord_of_mem_imageExtensions x listed
  constructor
  · intro found
    rw [extension?] at found
    split at found
    · cases found
    · next e cut =>
      obtain ⟨q, same, _⟩ := afterLastPoint?_eq_some_iff.1 cut
      refine ⟨q, e, same, (Text.lowercase_eq_iff letters other).1 ?_⟩
      split at found
      · cases found
      · exact Option.some.inj found
  · rintro ⟨q, e, rfl, same⟩
    have alphabetic := Text.isAlpha_of_map_toLower same letters
    have last : '.' ∉ e := fun member => absurd (alphabetic '.' member) (by decide)
    have accepted : ¬ (e = [] ∨ e.any (fun c => !Text.isAlphanumeric c && c != '_') = true) := by
      rintro (rfl | refused)
      · exact some_char same.symm
      · obtain ⟨c, member, unfit⟩ := List.any_eq_true.1 refused
        rw [Text.isAlphanumeric_of_isAlpha (alphabetic c member)] at unfit
        cases unfit
    rw [extension?, afterLastPoint?_append last]
    simp only [if_neg accepted, (Text.lowercase_eq_iff letters other).2 same]

/-- The extension is what follows the last point, and no listed one holds a point. -/
theorem isStyleable_iff_exists {source alt : Text} :
    isStyleable source alt = true ↔
      alt ≠ source ∧ ∃ q e, source = q ++ '.' :: e ∧ e.map Char.toLower ∈ imageExtensions := by
  rw [isStyleable_iff]
  apply and_congr_right'
  constructor
  · rintro ⟨x, listed, found⟩
    obtain ⟨q, e, same, rfl⟩ := (extension?_eq_some_iff listed).1 found
    exact ⟨q, e, same, listed⟩
  · rintro ⟨q, e, same, listed⟩
    exact ⟨_, listed, (extension?_eq_some_iff listed).2 ⟨q, e, same, rfl⟩⟩

/-- A source is that of an image exactly if it ends in a point and one of seven extensions, with
letters in any case. No character beyond ASCII counts as one of these letters. -/
theorem isStyleable_iff_ascii (source alt : Text) :
    (isStyleable source alt = true ↔
      alt ≠ source ∧ ∃ q e, source = q ++ '.' :: e ∧
        e.map Char.toLower ∈ ["png".toList, "webp".toList, "jpg".toList, "jpeg".toList,
          "gif".toList, "bmp".toList, "svg".toList]) ∧
    ∀ q e, source = q ++ '.' :: e → '.' ∉ e → (∃ c ∈ e, 0x80 ≤ c.toNat) →
      isStyleable source alt = false := by
  refine ⟨isStyleable_iff_exists, ?_⟩
  rintro q e same last ⟨c, member, beyond⟩
  rw [Bool.eq_false_iff]
  intro styleable
  obtain ⟨_, r, f, other, listed⟩ := isStyleable_iff_exists.1 styleable
  have alphabetic := Text.isAlpha_of_map_toLower rfl (isWord_of_mem_imageExtensions _ listed).1.2
  have apart : '.' ∉ f := fun point => absurd (alphabetic '.' point) (by decide)
  -- both are what stands behind the last point
  have cut : some e = some f := by
    rw [← afterLastPoint?_append last, ← same, other, afterLastPoint?_append apart]
  cases cut
  exact absurd (Text.toNat_lt_of_isAlpha (alphabetic c member)) (Nat.not_lt.2 beyond)

/-- The lower case of the second extension begins like `gif`, but it has one character more. -/
theorem isStyleable_iff_ascii_dotted :
    isStyleable "cat.v2.JPeg".toList "w-100".toList = true ∧
      '.' ∉ "g\u0130f".toList ∧ isStyleable "cat.g\u0130f".toList "w-100".toList = false := by
  have last : '.' ∉ "g\u0130f".toList := by decide
  refine ⟨(isStyleable_iff_ascii _ _).1.2 ⟨by decide, "cat.v2".toList, "JPeg".toList, ?_⟩, last,
    (isStyleable_iff_ascii _ _).2 "cat".toList "g\u0130f".toList ?_ last
      ⟨'\u0130', by decide, by decide⟩⟩
  all_goals decide

end Style
end AltStyle
