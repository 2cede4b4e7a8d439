import AltStyle.Directive.Occurrence
import AltStyle.Proofs.Bodies

/-! Where the directives of a text are found. The search meets every place at which a directive
of the grammar stands between boundaries, and it leaves out prose and the places inside a
directive that it has reported. Offsets and the flag for the front of the text are kept general,
because the search goes on behind each directive that it finds. -/
namespace AltStyle
open Grammar Argument

namespace Text

theorem byteLength_pos {s : Text} (some_char : s ≠ []) : 0 < byteLength s := by
  cases s with
  | nil => exact absurd rfl some_char
  | cons c s =>
    have size := Char.utf8Size_pos c
    rw [byteLength_cons]
    omega

end Text

namespace Grammar

def opensAfter (opens : Bool) (s : Text) : Bool :=
  (s.getLast?.map Text.isWhiteSpace).getD opens

theorem opensAfter_cons (opens : Bool) (c : Char) (s : Text) :
    opensAfter opens (c :: s) = opensAfter (Text.isWhiteSpace c) s := by
  rw [opensAfter, opensAfter, List.getLast?_cons]
  cases s.getLast? with
  | none => rfl
  | some d => rfl

theorem opensAfter_append (opens : Bool) (s t : Text) :
    opensAfter opens (s ++ t) = opensAfter (opensAfter opens s) t := by
  induction s generalizing opens with
  | nil => rfl
  | cons c s ih => rw [List.cons_append, opensAfter_cons, opensAfter_cons, ih]

theorem IsBody.opensAfter {b : Body} (body : IsBody b) (opens : Bool) (before : Text) :
    opensAfter opens (before ++ b.text) = false := by
  have last := List.getLast?_eq_some_getLast body.text_ne_nil
  rw [opensAfter_append, Grammar.opensAfter, last]
  exact body.endsVisibly _ last

theorem opensAfter_true_iff {s : Text} :
    opensAfter true s = true ↔ ∀ c, s.getLast? = some c → Text.isWhiteSpace c = true := by
  rw [opensAfter]
  cases s.getLast? with
  | none => simp
  | some d => simp

def IsOccurrence (p : Prefix) (s : Text) (o : Occurrence) : Prop :=
  ∃ (before after : Text) (sources : List Source),
    s = before ++ (p.text ++ o.name ++ sources.flatMap (·.text)) ++ after ∧
    IsName o.name ∧ (∀ a ∈ sources, IsSource a) ∧
    (∀ c, before.getLast? = some c → Text.isWhiteSpace c = true) ∧
    (∀ c, after.head? = some c → Text.isWhiteSpace c = true) ∧
    o.tail = (if sources.flatMap (·.text) = [] then none
      else some (sources.flatMap (·.text))) ∧
    o.start = Text.byteLength before ∧
    o.stop = Text.byteLength (before ++ (p.text ++ o.name ++ sources.flatMap (·.text)))

def IsProse (p : Prefix) (o : Occurrence) : Prop :=
  p.text = [] ∧ '-' ∉ o.name ∧ o.tail = none

def Stands (p : Prefix) (offset : Nat) (opens : Bool) (s : Text) (o : Occurrence) : Prop :=
  ∃ (before after : Text) (b : Body), IsBody b ∧ s = before ++ (p.text ++ b.text ++ after) ∧
    opensAfter opens before = true ∧ Body.endsBefore after = true ∧
    o = .ofBody p (offset + Text.byteLength before) b

end Grammar

namespace Found

theorem opensAfter_skipped {p : Prefix} {opens : Bool} {s : Text} {found : Found}
    (first : first? p opens s = some found) : opensAfter opens found.skipped = true := by
  induction s generalizing opens found with
  | nil =>
    unfold first? at first
    split at first
    · next whole =>
      cases first
      split at whole
      · next front => exact front
      · cases whole
    · cases first
  | cons c s ih =>
    unfold first? at first
    split at first
    · next whole =>
      cases first
      split at whole
      · next front => exact front
      · cases whole
    · obtain ⟨inner, later, same⟩ := Option.map_eq_some_iff.1 first
      cases same
      rw [opensAfter_cons]
      exact ih later

theorem length_skipped_le {p : Prefix} {opens : Bool} {before front : Text} {found : Found}
    (first : first? p opens (before ++ front) = some found)
    (opened : opensAfter opens before = true) (whole : (Body.readWhole? p front).isSome = true) :
    found.skipped.length ≤ before.length := by
  induction before generalizing opens found with
  | nil =>
    obtain ⟨⟨body, rest⟩, read⟩ := Option.isSome_iff_exists.1 whole
    have front_opens : opens = true := opened
    unfold first? at first
    rw [front_opens, List.nil_append, if_pos rfl, read] at first
    cases first
    exact Nat.le_refl 0
  | cons c before ih =>
    rw [List.cons_append] at first
    unfold first? at first
    split at first
    · cases first
      exact Nat.zero_le _
    · obtain ⟨inner, later, same⟩ := Option.map_eq_some_iff.1 first
      cases same
      rw [opensAfter_cons] at opened
      exact Nat.succ_le_succ (ih later opened)

theorem readWhole?_of_nowhere {p : Prefix} {opens : Bool} {before front : Text}
    (nowhere : first? p opens (before ++ front) = none)
    (opened : opensAfter opens before = true) : Body.readWhole? p front = none := by
  induction before generalizing opens with
  | nil =>
    have front_opens : opens = true := opened
    rw [List.nil_append, front_opens] at nowhere
    unfold first? at nowhere
    split at nowhere
    · cases nowhere
    · next nothing => exact nothing
  | cons c before ih =>
    rw [List.cons_append] at nowhere
    unfold first? at nowhere
    split at nowhere
    · cases nowhere
    · rw [Option.map_eq_none_iff] at nowhere
      rw [opensAfter_cons] at opened
      exact ih nowhere opened

theorem parts_of_first? {p : Prefix} {opens : Bool} {s : Text} {found : Found}
    (first : first? p opens s = some found) :
    IsSettledBody found.body ∧ s = found.skipped ++ (p.text ++ found.body.text ++ found.rest) ∧
      Body.endsBefore found.rest = true := by
  obtain ⟨before, whole, read⟩ := readWhole?_of_first? first
  obtain ⟨settled, rfl, boundary⟩ := Body.readWhole?_eq_some_iff.1 read
  exact ⟨settled, whole, boundary⟩

theorem first?_front {p : Prefix} {b : Body} {rest : Text} (settled : IsSettledBody b)
    (boundary : Body.endsBefore rest = true) :
    first? p true (p.text ++ b.text ++ rest) = some ⟨[], b, rest⟩ := by
  have whole : Body.readWhole? p (p.text ++ b.text ++ rest) = some (b, rest) :=
    Body.readWhole?_eq_some_iff.2 ⟨settled, rfl, boundary⟩
  rw [first?.eq_def, if_pos rfl, whole]

theorem exists_after_skipped {p : Prefix} {opens : Bool} {before after : Text} {b : Body}
    {found : Found} (first : first? p opens (before ++ (p.text ++ b.text ++ after)) = some found)
    (opened : opensAfter opens before = true) (body : IsBody b)
    (boundary : Body.endsBefore after = true) :
    ∃ m, before = found.skipped ++ m ∧
      p.text ++ found.body.text ++ found.rest = m ++ (p.text ++ b.text ++ after) := by
  obtain ⟨_, whole, _⟩ := parts_of_first? first
  obtain ⟨c, read, _⟩ := Body.readWhole?_of_isBody body boundary (p := p)
  have earliest : found.skipped.length ≤ before.length := by
    apply length_skipped_le first opened
    rw [read]
    rfl
  obtain ⟨m, rfl⟩ : found.skipped <+: before :=
    List.prefix_of_prefix_length_le ⟨_, whole.symm⟩ ⟨_, rfl⟩ earliest
  rw [List.append_assoc found.skipped m] at whole
  exact ⟨m, rfl, (List.append_cancel_left whole).symm⟩

end Found

namespace Occurrence

theorem ofBody_congr {p : Prefix} {offset : Nat} {b c : Body} (names : b.name = c.name)
    (texts : b.sources.map (·.text) = c.sources.map (·.text)) :
    ofBody p offset b = ofBody p offset c := by
  have same := Body.text_eq_of_parts names texts
  have tails : b.tail = c.tail := by
    rw [Body.tail_eq_flatten, Body.tail_eq_flatten, texts]
  have none : b.sources = [] ↔ c.sources = [] := by
    rw [← List.map_eq_nil_iff (f := (·.text)), texts, List.map_eq_nil_iff]
  simp only [ofBody, names, same, tails, none]

theorem start_lt_stop_ofBody {p : Prefix} {offset : Nat} {b : Body} (body : IsBody b) :
    (ofBody p offset b).start < (ofBody p offset b).stop := by
  have size := Text.byteLength_pos body.text_ne_nil
  simp only [ofBody, Text.byteLength_append]
  omega

theorem not_isReported_iff {p : Prefix} {offset : Nat} {b : Body} :
    isReported p b = false ↔ IsProse p (ofBody p offset b) := by
  simp [isReported, IsProse, ofBody, Prefix.isEmpty, Body.isBareWord, and_comm]

section Scan
variable {p : Prefix} {offset : Nat} {opens : Bool} {s : Text} {found : Found} {o : Occurrence}

def ofFound (p : Prefix) (offset : Nat) (found : Found) : Occurrence :=
  ofBody p (offset + Text.byteLength found.skipped) found.body

theorem bounds_ofFound (first : Found.first? p opens s = some found) :
    offset ≤ (ofFound p offset found).start ∧
      (ofFound p offset found).start < (ofFound p offset found).stop := by
  have settled := (Found.parts_of_first? first).1
  exact ⟨Nat.le_add_right _ _, start_lt_stop_ofBody settled.isBody⟩

theorem stands_ofFound (first : Found.first? p opens s = some found) :
    Stands p offset opens s (ofFound p offset found) := by
  obtain ⟨settled, whole, boundary⟩ := Found.parts_of_first? first
  exact ⟨_, _, _, settled.isBody, whole, Found.opensAfter_skipped first, boundary, rfl⟩

theorem stands_of_rest (first : Found.first? p opens s = some found)
    (later : Stands p (ofFound p offset found).stop false found.rest o) :
    Stands p offset opens s o := by
  obtain ⟨settled, whole, _⟩ := Found.parts_of_first? first
  obtain ⟨before, after, b, body, split, opened, boundary, rfl⟩ := later
  have closed := settled.isBody.opensAfter opens (found.skipped ++ p.text)
  refine ⟨found.skipped ++ p.text ++ found.body.text ++ before, after, b, body, ?_, ?_,
    boundary, ?_⟩
  · rw [whole, split]
    simp only [List.append_assoc]
  · rw [opensAfter_append, closed]
    exact opened
  · simp only [ofFound, ofBody, Text.byteLength_append, Nat.add_assoc]

/-- Every directive of the text is the first one, begins inside it after white space or stands
in what follows it. -/
theorem stands_cases (first : Found.first? p opens s = some found)
    (stands : Stands p offset opens s o) :
    o = ofFound p offset found ∨
      ((ofFound p offset found).start < o.start ∧ o.start < (ofFound p offset found).stop ∧
        ∃ c ∈ p.text ++ found.body.text, Text.isWhiteSpace c = true) ∨
      Stands p (ofFound p offset found).stop false found.rest o := by
  obtain ⟨settled, _, ends⟩ := Found.parts_of_first? first
  obtain ⟨before, after, b, body, rfl, opened, boundary, rfl⟩ := stands
  obtain ⟨m, rfl, inner⟩ := Found.exists_after_skipped first opened body boundary
  rw [opensAfter_append, Found.opensAfter_skipped first] at opened
  -- `m` is what lies between the two beginnings
  by_cases here : m = []
  · subst here
    left
    rw [List.nil_append, List.append_assoc, List.append_assoc] at inner
    obtain ⟨names, texts⟩ := Body.parts_unique body settled.isBody boundary ends
      (List.append_cancel_left inner).symm
    rw [List.append_nil, ofFound]
    exact ofBody_congr names texts
  have blank := opensAfter_true_iff.1 opened (m.getLast here) (List.getLast?_eq_some_getLast here)
  have closed := settled.isBody.opensAfter true p.text
  right
  rcases List.append_eq_append_iff.1 inner with ⟨n, longer, later⟩ | ⟨n, shorter, _⟩
  · right
    subst longer
    refine ⟨n, after, b, body, later, ?_, boundary, ?_⟩
    · rw [opensAfter_append, closed] at opened
      exact opened
    · simp only [ofFound, ofBody, Text.byteLength_append, Nat.add_assoc]
  · left
    have last : n ≠ [] := by
      intro nothing
      rw [shorter, nothing, List.append_nil, opened] at closed
      cases closed
    have size := Text.byteLength_pos here
    have more := Text.byteLength_pos last
    have bytes := congrArg Text.byteLength shorter
    simp only [Text.byteLength_append] at bytes
    refine ⟨?_, ?_, m.getLast here, ?_, blank⟩
    · simp only [ofFound, ofBody, Text.byteLength_append]
      omega
    · simp only [ofFound, ofBody, Text.byteLength_append]
      omega
    · rw [shorter]
      exact List.mem_append_left _ (List.getLast_mem here)

theorem stands_of_first?_none (nowhere : Found.first? p opens s = none) :
    ¬ Stands p offset opens s o := by
  intro stands
  obtain ⟨before, after, b, body, split, opened, boundary, _⟩ := stands
  obtain ⟨c, read, _⟩ := Body.readWhole?_of_isBody body boundary (p := p)
  rw [Found.readWhole?_of_nowhere (split ▸ nowhere) opened] at read
  cases read

theorem visible_of_not_isReported {b : Body} (body : IsBody b) (prose : isReported p b = false) :
    ∀ c ∈ p.text ++ b.text, Text.isWhiteSpace c = false := by
  have isProse : IsProse p (ofBody p 0 b) := not_isReported_iff.1 prose
  obtain ⟨unmarked, _, bare⟩ := isProse
  have nothing : b.sources = [] := by simpa [ofBody] using bare
  intro c inside
  rw [unmarked, List.nil_append, Body.text, Body.tail, nothing, List.flatMap_nil,
    List.append_nil] at inside
  exact body.name.visible c inside

theorem offset_le_of_mem_scan (member : o ∈ scan p offset opens s) :
    offset ≤ o.start ∧ o.start < o.stop := by
  fun_induction scan p offset opens s with
  | case1 => cases member
  | case2 offset opens s found first here others reported ih =>
    have bounds : offset ≤ here.start ∧ here.start < here.stop := bounds_ofFound first
    rcases List.mem_cons.1 member with now | later
    · rw [now]
      exact bounds
    · have further := ih later
      omega
  | case3 offset opens s found first here others reported ih =>
    have bounds : offset ≤ here.start ∧ here.start < here.stop := bounds_ofFound first
    have further := ih member
    omega

/-- Directives do not overlap, since each search begins where the one before it ended. -/
theorem pairwise_scan : (scan p offset opens s).Pairwise (fun a b => a.stop ≤ b.start) := by
  fun_induction scan p offset opens s with
  | case1 => exact List.Pairwise.nil
  | case2 offset opens s found first here others reported ih =>
    exact List.pairwise_cons.2 ⟨fun b later => (offset_le_of_mem_scan later).1, ih⟩
  | case3 offset opens s found first here others reported ih => exact ih

/-- Soundness and completeness, by induction on the search. A body that stands in the text and is
not found begins inside one that is, or is prose. -/
theorem mem_scan_iff : o ∈ scan p offset opens s ↔ Stands p offset opens s o ∧ ¬ IsProse p o ∧
    ∀ e ∈ scan p offset opens s, ¬ (e.start < o.start ∧ o.start < e.stop) := by
  fun_induction scan p offset opens s with
  | case1 offset opens s nowhere =>
    constructor
    · intro member
      cases member
    · intro stands
      exact absurd stands.1 (stands_of_first?_none nowhere)
  | case2 offset opens s found first here others reported ih =>
    have bounds : offset ≤ here.start ∧ here.start < here.stop := bounds_ofFound first
    constructor
    · intro member
      rcases List.mem_cons.1 member with now | later
      · subst now
        refine ⟨stands_ofFound first, ?_, ?_⟩
        · intro prose
          rw [not_isReported_iff.2 prose] at reported
          cases reported
        · refine List.forall_mem_cons.2 ⟨by omega, ?_⟩
          intro e other
          have further := offset_le_of_mem_scan other
          omega
      · obtain ⟨stands, counted, outside⟩ := ih.1 later
        have further := offset_le_of_mem_scan later
        refine ⟨stands_of_rest first stands, counted, List.forall_mem_cons.2 ⟨?_, outside⟩⟩
        omega
    · intro stands
      obtain ⟨stands, counted, outside⟩ := stands
      rcases stands_cases first stands with now | ⟨after, before, _⟩ | later
      · exact List.mem_cons.2 (.inl now)
      · exact absurd ⟨after, before⟩ (outside here List.mem_cons_self)
      · exact List.mem_cons_of_mem _
          (ih.2 ⟨later, counted, (List.forall_mem_cons.1 outside).2⟩)
  | case3 offset opens s found first here others reported ih =>
    constructor
    · intro member
      obtain ⟨stands, counted, outside⟩ := ih.1 member
      exact ⟨stands_of_rest first stands, counted, outside⟩
    · intro stands
      obtain ⟨stands, counted, outside⟩ := stands
      have prose : isReported p found.body = false := by simpa using reported
      rcases stands_cases first stands with now | ⟨_, _, c, inside, blank⟩ | later
      · exact absurd (now ▸ not_isReported_iff.1 prose) counted
      · -- nothing begins inside a word of prose, which has no white space in it
        have settled := (Found.parts_of_first? first).1
        rw [visible_of_not_isReported settled.isBody prose c inside] at blank
        cases blank
      · exact ih.2 ⟨later, counted, outside⟩

theorem scan_nil : scan p offset opens [] = [] := by
  apply scan_of_none
  rw [Option.eq_none_iff_forall_ne_some]
  intro found first
  have shorter := Found.length_of_first? first
  exact absurd shorter (Nat.not_lt_zero _)

theorem scan_cons_false (c : Char) :
    scan p offset false (c :: s) = scan p (offset + c.utf8Size) (Text.isWhiteSpace c) s := by
  have step : Found.first? p false (c :: s) = (Found.first? p (Text.isWhiteSpace c) s).map
      fun found => { found with skipped := c :: found.skipped } := by
    rw [Found.first?]
    rfl
  cases first : Found.first? p (Text.isWhiteSpace c) s with
  | none =>
    rw [first] at step
    rw [scan_of_none step, scan_of_none first]
  | some found =>
    rw [first] at step
    rw [scan_of_some step, scan_of_some first]
    simp only [Text.byteLength_cons, Nat.add_assoc]

/-- A settled directive at the front is the first one. -/
theorem scan_front {b : Body} {rest : Text} (settled : IsSettledBody b)
    (boundary : Body.endsBefore rest = true) (reported : isReported p b = true) :
    scan p offset true (p.text ++ b.text ++ rest) =
      ofBody p offset b :: scan p (ofBody p offset b).stop false rest := by
  rw [scan_of_some (Found.first?_front settled boundary)]
  exact if_pos reported

end Scan

theorem stands_iff_isOccurrence {p : Prefix} {s : Text} {o : Occurrence} :
    Stands p 0 true s o ↔ IsOccurrence p s o := by
  constructor
  · intro stands
    obtain ⟨before, after, b, body, split, opened, boundary, rfl⟩ := stands
    refine ⟨before, after, b.sources, ?_, body.name, body.sources,
      opensAfter_true_iff.1 opened, ?_, ?_, ?_, ?_⟩
    · rw [split]
      simp only [ofBody, Body.text, Body.tail, List.append_assoc]
    · intro c first
      obtain ⟨r, rfl⟩ := List.head?_eq_some_iff.1 first
      exact boundary
    · simp only [ofBody, flatMap_text_eq_nil_iff, Body.tail]
    · simp only [ofBody, Nat.zero_add]
    · simp only [ofBody, Body.text, Body.tail, Text.byteLength_append, Nat.zero_add,
        Nat.add_assoc]
  · intro occurrence
    obtain ⟨before, after, sources, split, name, arguments, blank, ends, tail, start, stop⟩ :=
      occurrence
    refine ⟨before, after, ⟨o.name, sources⟩, ⟨name, arguments⟩, ?_,
      opensAfter_true_iff.2 blank, ?_, ?_⟩
    · rw [split]
      simp only [Body.text, Body.tail, List.append_assoc]
    · cases after with
      | nil => rfl
      | cons c r => exact ends c rfl
    · obtain ⟨n, t, first, last⟩ := o
      simp only [flatMap_text_eq_nil_iff] at tail start stop
      subst tail start stop
      simp only [ofBody, Body.text, Body.tail, Text.byteLength_append, Nat.zero_add,
        List.append_assoc]

/-- The directives of a text are reported in order and each once. Reported is what stands in the
text between boundaries, is no prose and does not begin inside a reported directive. -/
theorem all_ordered_and_mem_iff (p : Prefix) (s : Text) :
    (all p s).Pairwise (fun a b => a.start < b.start) ∧
      ∀ o, o ∈ all p s ↔ IsOccurrence p s o ∧ ¬ IsProse p o ∧
        ∀ e ∈ all p s, ¬ (e.start < o.start ∧ o.start < e.stop) := by
  constructor
  · have apart : (all p s).Pairwise (fun a b => a.stop ≤ b.start) := pairwise_scan
    apply apart.imp_of_mem
    intro a b inside _ gap
    have size := (offset_le_of_mem_scan inside).2
    omega
  · intro o
    rw [← stands_iff_isOccurrence]
    exact mem_scan_iff

end Occurrence
end AltStyle
