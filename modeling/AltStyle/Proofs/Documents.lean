import AltStyle.Json.Decode
import AltStyle.Proofs.JsonReading
import AltStyle.Proofs.Reconfiguration
import AltStyle.Proofs.Runs

/-! The documents that the program writes, one for each text. They hold the directives of the
texts, and nothing in a text can break the line that its document stands on. -/
namespace AltStyle

namespace Json

def IsPlain (s : Text) : Prop :=
  ∀ c ∈ s, 0x20 ≤ c.toNat

theorem IsPlain.append {s t : Text} (front : IsPlain s) (back : IsPlain t) : IsPlain (s ++ t) :=
  List.forall_mem_append.2 ⟨front, back⟩

theorem isPlain_cons {c : Char} {s : Text} (first : 0x20 ≤ c.toNat) (others : IsPlain s) :
    IsPlain (c :: s) :=
  List.forall_mem_cons.2 ⟨first, others⟩

theorem isPlain_flatMap {A : Type} {xs : List A} {f : A → Text} (plain : ∀ x ∈ xs, IsPlain (f x)) :
    IsPlain (xs.flatMap f) := by
  intro c inside
  obtain ⟨x, member, here⟩ := List.mem_flatMap.1 inside
  exact plain x member c here

theorem isPlain_escapeChar (c : Char) : IsPlain (escapeChar c) := by
  unfold escapeChar
  split
  case h_8 =>
    split
    · have digit (n : Nat) : 0x20 ≤ (hexDigit n).toNat := by
        have range := Text.isHexDigit_iff.1 (isHexDigit_hexDigit n)
        omega
      simp [IsPlain, digit]
    · next plain => simpa [IsPlain] using plain
  all_goals simp [IsPlain]

theorem isPlain_writeString (s : Text) : IsPlain (writeString s) := by
  have quote : IsPlain ['"'] := by simp [IsPlain]
  exact (quote.append (isPlain_flatMap fun c _ => isPlain_escapeChar c)).append quote

theorem isPlain_body {closing : Char} (closes : 0x20 ≤ closing.toNat) (depth : Nat)
    {parts : List Text} (plain : ∀ part ∈ parts, IsPlain part) :
    IsPlain (Layout.compact.body closing depth parts) := by
  cases parts with
  | nil => simpa [Layout.body, IsPlain] using closes
  | cons part parts =>
    obtain ⟨first, others⟩ := List.forall_mem_cons.1 plain
    have later : IsPlain (parts.flatMap (',' :: ·)) :=
      isPlain_flatMap fun part inside => isPlain_cons (by decide) (others part inside)
    have last : IsPlain [closing] := by simpa [IsPlain] using closes
    simpa [Layout.body, Layout.compact, Text.intercalate_cons] using
      first.append (later.append last)

/-- No control character stands in a value that is written on one line. -/
theorem isPlain_write (v : Value) (depth : Nat) : IsPlain (write .compact depth v) := by
  induction v generalizing depth with
  | null => simp [write, IsPlain]
  | string s => exact isPlain_writeString s
  | array items ih =>
    rw [write, writeItems_eq_map]
    apply isPlain_cons (by decide) (isPlain_body (by decide) depth _)
    intro part inside
    obtain ⟨v, member, rfl⟩ := List.mem_map.1 inside
    exact ih v member (depth + 1)
  | object members ih =>
    rw [write, writeMembers_eq_map]
    apply isPlain_cons (by decide) (isPlain_body (by decide) depth _)
    intro part inside
    obtain ⟨m, member, rfl⟩ := List.mem_map.1 inside
    have colon : IsPlain Layout.compact.colon := by simp [IsPlain, Layout.compact]
    exact ((isPlain_writeString m.1).append colon).append (ih m member (depth + 1))

end Json

theorem Argument.ofJson?_toJson (a : Argument) : ofJson? a.toJson = some a := by
  obtain ⟨name, kind, value, unit⟩ := a
  cases name <;> cases kind <;> cases unit <;> rfl

theorem mapM_map {A : Type} {write : A → Json.Value} {read? : Json.Value → Option A}
    (inverse : ∀ x, read? (write x) = some x) (xs : List A) :
    (xs.map write).mapM read? = some xs := by
  have returned : read? ∘ write = fun x => pure x := funext inverse
  rw [List.mapM_map, returned, List.mapM_pure, List.map_id']
  rfl

theorem Directive.ofJson?_toJson (d : Directive) : ofJson? d.toJson = some d := by
  have args := mapM_map Argument.ofJson?_toJson d.args
  have read : ofJson? d.toJson =
      ((d.args.map Argument.toJson).mapM Argument.ofJson?).bind fun args => some ⟨d.name, args⟩ :=
    rfl
  rw [read, args, Option.bind_some]

theorem directivesOfJson?_directivesJson (ds : List Directive) :
    directivesOfJson? (directivesJson ds) = some ds :=
  mapM_map Directive.ofJson?_toJson ds

namespace Command

/-- A document gives back the directives of its text, in either layout. -/
theorem directivesIn?_document (line : Line) (p : Prefix) (alt : Text) :
    directivesIn? (document line p alt) = some (Directive.parse p alt) := by
  have read : Json.read? (document line p alt) =
      some (directivesJson (Directive.parse p alt)) := by
    unfold document
    dsimp only
    split
    · exact Json.read?_write Json.isReadable_pretty _
    · exact Json.read?_write Json.isReadable_compact _
  rw [directivesIn?, read]
  exact directivesOfJson?_directivesJson _

/-- Line feeds in texts are escaped, so a compact document is one line. -/
theorem lineFeed_not_mem_document {line : Line} (on_one_line : line.has .pretty = false)
    (p : Prefix) (alt : Text) : '\n' ∉ document line p alt := by
  intro inside
  rw [document, on_one_line, if_neg Bool.false_ne_true] at inside
  exact absurd (Json.isPlain_write _ 0 '\n' inside) (by decide)

/-- The run: the documents are printed in the order of the texts, and nothing else is. -/
theorem perform_forM_printDirectives (line : Line) (p : Prefix) (alts : List Text) (w : Written) :
    (alts.forM (Action.printDirectives line p)).perform w =
      (.ok (), { w with output := w.output ++ writeLines (alts.map (document line p)) }) := by
  induction alts generalizing w with
  | nil => simp [writeLines]
  | cons alt alts ih =>
    have first : (Action.printDirectives line p alt).perform w =
        (.ok (), { w with output := w.output ++ writeLines [document line p alt] }) := rfl
    refine (Action.perform_bind _ _ w).trans ?_
    rw [first]
    refine (ih _).trans ?_
    simp [writeLines]

/-- Each text has a document of its own, in order, which is read back as the directives of the text.
It takes one line, unless it is to be laid out over several. -/
theorem run_parse_documents {w : Surroundings} {input : ByteArray} {args : List Text} {line : Line}
    {config : Config} {alts : List Text} (asked : Request.ofArgs args = .ok (.run .parse line))
    (loaded : configFor w line = .ok config)
    (read : ((Action.altTexts line input).perform Written.nothing).1 = .ok alts) :
    (run w input args).code = 0 ∧
      ∃ documents, (run w input args).output = writeLines documents ∧
        documents.map directivesIn? =
          alts.map (fun alt => some (Directive.parse config.ready alt)) ∧
        (line.has .pretty = false → ∀ d ∈ documents, '\n' ∉ d) := by
  have unwritten := Action.isSilent_altTexts line input Written.nothing
  have texts : (Action.altTexts line input).perform Written.nothing = (.ok alts, Written.nothing) :=
    Prod.ext read unwritten
  have ready := Config.currentPrefix_of_load loaded
  have performed : (Action.command w input .parse line).perform Written.nothing =
      (.ok (), ⟨writeLines (alts.map (document line config.ready)), []⟩) := by
    simp only [Action.command, loaded, ready, Action.ofConfig, pure_bind]
    rw [Action.perform_bind, texts]
    exact perform_forM_printDirectives line config.ready alts Written.nothing
  rw [run, asked]
  dsimp only
  rw [performed]
  refine ⟨rfl, _, rfl, ?_, ?_⟩
  · simp [directivesIn?_document]
  · intro on_one_line d inside
    obtain ⟨alt, _, rfl⟩ := List.mem_map.1 inside
    exact lineFeed_not_mem_document on_one_line _ alt

def lineFeedTexts : List Text :=
  ["label-\x7ba\nb\x7d".toList, "w-1".toList]

/-- The value of the first text has a line feed in it. -/
theorem run_parse_documents_line_feed :
    ∃ documents,
      (run nowhere ByteArray.empty ("parse".toList :: "--".toList :: lineFeedTexts)).output =
          writeLines documents ∧
        documents.map directivesIn? =
          [some [⟨"label".toList, [⟨none, .string, "\"a\nb\"".toList, none⟩]⟩],
            some [⟨['w'], [⟨none, .numeric, ['1'], none⟩]⟩]] ∧
        ∀ d ∈ documents, '\n' ∉ d := by
  have asked : Request.ofArgs ("parse".toList :: "--".toList :: lineFeedTexts) =
      .ok (.run .parse ⟨[], lineFeedTexts⟩) := rfl
  have loaded : configFor nowhere ⟨[], lineFeedTexts⟩ =
      .ok ⟨Settings.default, none, Prefix.none⟩ := rfl
  have read : ((Action.altTexts ⟨[], lineFeedTexts⟩ ByteArray.empty).perform Written.nothing).1 =
      .ok lineFeedTexts := rfl
  have parsed : lineFeedTexts.map (Directive.parse Prefix.none) =
      [[⟨"label".toList, [⟨none, .string, "\"a\nb\"".toList, none⟩]⟩],
        [⟨['w'], [⟨none, .numeric, ['1'], none⟩]⟩]] := by decide +kernel
  obtain ⟨-, documents, output, held, framed⟩ := run_parse_documents asked loaded read
  exact ⟨documents, output, held.trans (congrArg (List.map some) parsed), framed rfl⟩

end Command
end AltStyle
