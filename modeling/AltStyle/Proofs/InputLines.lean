import AltStyle.Proofs.Runs

/-! Texts that are given as lines of the input. They are the same to the program as texts on the
command line, however the lines end and whatever blank lines stand between them. -/
namespace AltStyle

namespace Text

def encode (s : Text) : List UInt8 :=
  s.flatMap String.utf8EncodeChar

theorem encode_append (s t : Text) : encode (s ++ t) = encode s ++ encode t :=
  List.flatMap_append

theorem data_toBytes (s : Text) : (toBytes s).data.toList = encode s := by
  simp [toBytes, encode, List.utf8Encode, String.toUTF8]

theorem ofBytes?_encode (s : Text) : ofBytes? (encode s).toByteArray = some s := by
  have valid : (encode s).toByteArray.IsValidUTF8 := ⟨s, rfl⟩
  have read : String.fromUTF8 _ valid = String.ofList s := rfl
  rw [ofBytes?, String.fromUTF8?, dif_pos valid, read, Option.map_some, String.toList_ofList]

/-- No other character has the byte of the line feed in it: all bytes of a longer one are above. -/
theorem lineFeed_mem_utf8EncodeChar_iff (c : Char) : 10 ∈ String.utf8EncodeChar c ↔ '\n' = c := by
  have byte (n : Nat) : 10 = UInt8.ofNat n ↔ n % 256 = 10 := by
    rw [← UInt8.toNat_inj, eq_comm]
    simp
  constructor
  · intro inside
    simp only [String.utf8EncodeChar] at inside
    split at inside
    · rw [List.mem_singleton, byte] at inside
      apply Char.ext
      apply UInt32.toNat_inj.1
      have feed : '\n'.val.toNat = 10 := rfl
      omega
    · exfalso
      split at inside
      case' isFalse => split at inside
      all_goals
        simp only [List.mem_cons, List.not_mem_nil, or_false, byte] at inside
        omega
  · rintro rfl
    decide

theorem lineFeed_mem_encode_iff (s : Text) : 10 ∈ encode s ↔ '\n' ∈ s := by
  simp [encode, lineFeed_mem_utf8EncodeChar_iff]

theorem cutLines_append {bytes : List UInt8} (whole : 10 ∉ bytes) (rest : List UInt8) :
    cutLines (bytes ++ 10 :: rest) = (bytes ++ [10]) :: cutLines rest := by
  induction bytes with
  | nil => simp [cutLines]
  | cons b bytes ih =>
    rw [List.mem_cons, not_or] at whole
    simp [cutLines, Ne.symm whole.1, ih whole.2]

theorem cutLines_of_not_mem {bytes : List UInt8} (whole : 10 ∉ bytes) (nonempty : bytes ≠ []) :
    cutLines bytes = [bytes] := by
  induction bytes with
  | nil => exact absurd rfl nonempty
  | cons b bytes ih =>
    rw [List.mem_cons, not_or] at whole
    cases bytes with
    | nil => simp [cutLines, Ne.symm whole.1]
    | cons c bytes =>
      rw [cutLines, if_neg (Ne.symm whole.1), ih whole.2 (List.cons_ne_nil _ _)]

def IsLineEnd (ending : Text) : Prop :=
  ending = ['\n'] ∨ ending = ['\r', '\n']

/-- A text that can be given as a line: it is not blank and would not be cut. -/
structure IsLine (s : Text) : Prop where
  visible : ∃ c ∈ s, isWhiteSpace c = false
  whole : '\n' ∉ s
  unended : s.getLast? ≠ some '\r'

/-- Input in which each text has a line of its own. Blank lines may stand anywhere between them,
and the last line may lack its end. -/
inductive Lays : List Text → Text → Prop
  | nil : Lays [] []
  | text {t ending rest : Text} {texts : List Text} (ends : IsLineEnd ending)
      (others : Lays texts rest) : Lays (t :: texts) (t ++ ending ++ rest)
  | blank {s ending rest : Text} {texts : List Text} (blank : isBlank s = true) (whole : '\n' ∉ s)
      (ends : IsLineEnd ending) (others : Lays texts rest) : Lays texts (s ++ ending ++ rest)
  | lastText (t : Text) : Lays [t] t
  | lastBlank {s : Text} (blank : isBlank s = true) (whole : '\n' ∉ s) : Lays [] s

theorem IsLine.isBlank {s : Text} (line : IsLine s) : isBlank s = false := by
  obtain ⟨c, inside, visible⟩ := line.visible
  exact List.all_eq_false.2 ⟨c, inside, by simp [visible]⟩

theorem IsLine.dropReturn {s : Text} (line : IsLine s) : dropReturn s = s :=
  if_neg line.unended

theorem isBlank_dropReturn {s : Text} (blank : isBlank s = true) :
    isBlank (dropReturn s) = true := by
  unfold dropReturn
  split
  · apply List.all_eq_true.2
    intro c inside
    exact List.all_eq_true.1 blank c ((List.dropLast_sublist s).subset inside)
  · exact blank

theorem dropLineEnd_append {ending : Text} (ends : IsLineEnd ending) (s : Text) :
    dropLineEnd (s ++ ending) = dropReturn s ∨ dropLineEnd (s ++ ending) = s := by
  rcases ends with rfl | rfl
  · left
    simp [dropLineEnd]
  · right
    have split : s ++ ['\r', '\n'] = (s ++ ['\r']) ++ ['\n'] := by simp
    rw [split]
    simp [dropLineEnd, dropReturn]

/-- A line is cut off with its end. -/
theorem cutLines_line {s ending : Text} (whole : '\n' ∉ s) (ends : IsLineEnd ending) (rest : Text) :
    cutLines (encode (s ++ ending ++ rest)) = encode (s ++ ending) :: cutLines (encode rest) := by
  have cut (t : Text) (whole : '\n' ∉ t) : cutLines (encode (t ++ ['\n'] ++ rest)) =
      encode (t ++ ['\n']) :: cutLines (encode rest) := by
    have absent : 10 ∉ encode t := mt (lineFeed_mem_encode_iff t).1 whole
    rw [List.append_assoc, encode_append, encode_append, encode_append t]
    exact cutLines_append absent (encode rest)
  rcases ends with rfl | rfl
  · exact cut s whole
  · have return_whole : '\n' ∉ s ++ ['\r'] := by simp [whole]
    simpa using cut (s ++ ['\r']) return_whole

theorem encode_ne_nil {s : Text} (nonempty : s ≠ []) : encode s ≠ [] := by
  obtain ⟨c, t, rfl⟩ := List.exists_cons_of_ne_nil nonempty
  simp [encode]

/-- The last line of the input, where it lacks its end. -/
theorem cutLines_encode {s : Text} (whole : '\n' ∉ s) (nonempty : s ≠ []) :
    cutLines (encode s) = [encode s] :=
  cutLines_of_not_mem (mt (lineFeed_mem_encode_iff s).1 whole) (encode_ne_nil nonempty)

theorem dropLineEnd_of_not_mem {s : Text} (whole : '\n' ∉ s) : dropLineEnd s = s :=
  if_neg fun ended => whole (List.mem_of_getLast? ended)

end Text

namespace Command.Action
open Text

/-- Lines of text are always valid UTF-8, so decoding cannot fail. -/
theorem decode_encode (s : Text) : decode (encode s) = pure (dropLineEnd s) := by
  rw [decode, ofBytes?_encode]

theorem readLines_cons (s : Text) (lines : List (List UInt8)) :
    readLines (encode s :: lines) = do
      let texts ← readLines lines
      return if isBlank (dropLineEnd s) then texts else dropLineEnd s :: texts := by
  rw [readLines, decode_encode, pure_bind]

/-- The texts are got back, by induction on how they are laid out. -/
theorem readLines_of_lays {texts : List Text} {input : Text} (lays : Lays texts input)
    (lines : ∀ t ∈ texts, IsLine t) : readLines (cutLines (encode input)) = pure texts := by
  induction lays with
  | nil => rfl
  | @text t ending rest texts ends others ih =>
    obtain ⟨line, lines⟩ := List.forall_mem_cons.1 lines
    have dropped : dropLineEnd (t ++ ending) = t := by
      rcases dropLineEnd_append ends t with kept | kept
      · rw [kept, line.dropReturn]
      · exact kept
    rw [cutLines_line line.whole ends, readLines_cons, ih lines, pure_bind, dropped, line.isBlank]
    rfl
  | @blank s ending rest texts blank whole ends others ih =>
    have still_blank : isBlank (dropLineEnd (s ++ ending)) = true := by
      rcases dropLineEnd_append ends s with kept | kept
      · rw [kept, isBlank_dropReturn blank]
      · rw [kept, blank]
    rw [cutLines_line whole ends, readLines_cons, ih lines, pure_bind, still_blank]
    rfl
  | lastText t =>
    have line := lines t List.mem_cons_self
    have nonempty : t ≠ [] := by
      rintro rfl
      simpa using line.visible
    rw [cutLines_encode line.whole nonempty, readLines_cons, dropLineEnd_of_not_mem line.whole,
      line.isBlank]
    rfl
  | @lastBlank s blank whole =>
    by_cases empty : s = []
    · subst empty
      rfl
    · rw [cutLines_encode whole empty, readLines_cons, dropLineEnd_of_not_mem whole, blank]
      rfl

end Command.Action
end AltStyle
