import AltStyle.Proofs.InputLines
import AltStyle.Proofs.Reconfiguration

/-! The two ways to give the program its texts: on the command line behind the sign that only texts
follow, or as lines of the input. Both come to the same. -/
namespace AltStyle.Command

def separator : Text :=
  ['-', '-']

theorem eq_separator_of_readWord {known : List OptionKey} {arg : Text}
    (read : readWord known arg = .ok .textsFollow) : arg = separator := by
  unfold readWord at read
  split at read
  · rfl
  · obtain ⟨_, _, options⟩ := bind_eq_ok_iff.1 read
    cases options
  · obtain ⟨_, _, options⟩ := bind_eq_ok_iff.1 read
    cases options
  · cases read

namespace Sorting

variable {known : List OptionKey} {state next : Sorting}

def IsClosed : Sorting → Prop
  | .closed _ => True
  | .open _ _ | .help => False

/-- Only the separator closes the options. -/
theorem not_isClosed_add {arg : Text} (other : arg ≠ separator) (still_open : ¬ state.IsClosed)
    (added : state.add known arg = .ok next) : ¬ next.IsClosed := by
  cases state with
  | help =>
    cases added
    exact still_open
  | closed line => exact absurd trivial still_open
  | «open» line lacking =>
    cases lacking with
    | some key =>
      simp only [add] at added
      split at added
      · cases added
      · cases value : line.add key arg with
        | error misuse => simp [value, Except.map] at added
        | ok line =>
          simp only [value, Except.map, Except.ok.injEq] at added
          subst added
          exact not_false
    | none =>
      obtain ⟨word, read, rest⟩ := bind_eq_ok_iff.1 added
      cases word with
      | text s =>
        cases rest
        exact not_false
      | textsFollow => exact absurd (eq_separator_of_readWord read) other
      | options complete lacking =>
        obtain ⟨line?, _, last⟩ := bind_eq_ok_iff.1 rest
        cases line? <;> cases last <;> exact not_false

/-- Without the separator options may follow to the end. -/
theorem not_isClosed_foldlM {args : List Text} (options_only : separator ∉ args)
    (still_open : ¬ state.IsClosed) (sorted : args.foldlM (add known) state = .ok next) :
    ¬ next.IsClosed := by
  induction args generalizing state with
  | nil =>
    cases sorted
    exact still_open
  | cons arg args ih =>
    rw [List.mem_cons, not_or] at options_only
    rw [List.foldlM_cons] at sorted
    obtain ⟨middle, added, later⟩ := bind_eq_ok_iff.1 sorted
    exact ih options_only.2 (not_isClosed_add (Ne.symm options_only.1) still_open added) later

theorem foldlM_help (args : List Text) : args.foldlM (add known) .help = .ok .help := by
  induction args with
  | nil => rfl
  | cons arg args ih => exact ih

theorem foldlM_closed (line : Line) (args : List Text) :
    args.foldlM (add known) (.closed line) = .ok (.closed { line with texts := line.texts ++ args }) := by
  induction args generalizing line with
  | nil => simp [pure, Except.pure]
  | cons arg args ih =>
    refine (ih { line with texts := line.texts ++ [arg] }).trans ?_
    rw [List.append_assoc, List.singleton_append]

/-- The separator changes nothing but that the texts behind it are added. -/
theorem finish_separator (texts : List Text) (still_open : ¬ state.IsClosed) :
    ((separator :: texts).foldlM (add known) state >>= finish) =
      state.finish.map (Option.map fun line => { line with texts := line.texts ++ texts }) := by
  rw [List.foldlM_cons]
  cases state with
  | help =>
    have help : add known .help separator = .ok .help := rfl
    rw [help]
    exact congrArg (· >>= finish) (foldlM_help texts)
  | closed line => exact absurd trivial still_open
  | «open» line lacking =>
    cases lacking with
    | some key => rfl
    | none =>
      have closed : add known (.open line none) separator = .ok (.closed line) := rfl
      rw [closed]
      exact congrArg (· >>= finish) (foldlM_closed line texts)

end Sorting

/-- Behind the separator everything is a text, and the options before it are sorted as without it.
-/
theorem readLine_separator {known : List OptionKey} {options : List Text}
    (options_only : separator ∉ options) (texts : List Text) :
    readLine known (options ++ separator :: texts) =
      (readLine known options).map
        (Option.map fun line => { line with texts := line.texts ++ texts }) := by
  rw [readLine, readLine, List.foldlM_append]
  cases sorted : options.foldlM (Sorting.add known) (.open Line.empty none) with
  | error misuse => rfl
  | ok state =>
    have start : ¬ (Sorting.open Line.empty none).IsClosed := not_false
    exact Sorting.finish_separator texts (Sorting.not_isClosed_foldlM options_only start sorted)

theorem ofArgs_name (name : Name) (args : List Text) :
    Request.ofArgs (name.text :: args) = readCommand name args := by
  cases name <;> rfl

/-- The texts count for nothing but which texts there are. -/
theorem command_add_texts {line : Line} {texts : List Text} {input : ByteArray}
    (given : texts ≠ []) (no_texts : line.texts = [])
    (read : Action.readLines (Text.cutLines input.data.toList) = pure texts) (w : Surroundings)
    (unread : ByteArray) (name : Name) :
    Action.command w unread name { line with texts := line.texts ++ texts } =
      Action.command w input name line := by
  have on_line : Action.altTexts { line with texts := line.texts ++ texts } unread = pure texts := by
    simp [Action.altTexts, no_texts, given]
  have in_input : Action.altTexts line input = pure texts := by
    simp [Action.altTexts, no_texts, read]
  have same_result : Action.printResult name { line with texts := line.texts ++ texts } =
      Action.printResult name line := by
    cases name <;> rfl
  simp only [Action.command, on_line, in_input, same_result]
  rfl

/-- It does not matter whether texts are given behind the separator or as lines of the input, with
whatever line ends and blank lines. -/
theorem run_texts_alike (w : Surroundings) (unread : ByteArray) (name : Name)
    {options texts : List Text} {input : Text} (given : texts ≠ [])
    (lines : ∀ t ∈ texts, Text.IsLine t) (lays : Text.Lays texts input)
    (options_only : separator ∉ options)
    (no_texts : ∀ line, Request.ofArgs (name.text :: options) = .ok (.run name line) →
      line.texts = []) :
    run w unread (name.text :: (options ++ separator :: texts)) =
      run w (Text.toBytes input) (name.text :: options) := by
  have read : Action.readLines (Text.cutLines (Text.toBytes input).data.toList) = pure texts := by
    rw [Text.data_toBytes, Action.readLines_of_lays lays lines]
  rw [run, run]
  rw [ofArgs_name] at no_texts ⊢
  rw [ofArgs_name, readCommand, readCommand, readLine_separator options_only]
  cases sorted : readLine name.options options with
  | error misuse => rfl
  | ok line? =>
    cases line? with
    | none => rfl
    | some line =>
      have without := no_texts line (by rw [readCommand, sorted]; rfl)
      have same := command_add_texts given without read w unread name
      exact congrArg (fun a => Outcome.ofPerformed w.env (a.perform Written.nothing)) same

/-- Two documents are printed either way. A blank line with a carriage return in it stands
between the texts, and the last line has no end. -/
theorem run_texts_alike_two :
    Text.Lays ["w-1".toList, "-".toList] "w-1\r\n \r\r\n-".toList ∧
      run nowhere ByteArray.empty
          ["style".toList, "--json".toList, "--".toList, "w-1".toList, "-".toList] =
        run nowhere (Text.toBytes "w-1\r\n \r\r\n-".toList) ["style".toList, "--json".toList] ∧
      run nowhere ByteArray.empty
          ["style".toList, "--json".toList, "--".toList, "w-1".toList, "-".toList] =
        ⟨0, writeLines [
          "\x7b\"directives\":[\x7b\"name\":\"w\",".toList ++
            "\"args\":[\x7b\"name\":null,\"kind\":\"numeric\",".toList ++
            "\"value\":\"1\"\x7d]\x7d],\"classes\":[\"ois\",\"ois-w\"],\"properties\":[".toList ++
            "\x7b\"name\":\"--ois-default-object-fit\",\"value\":\"cover\"\x7d,".toList ++
            "\x7b\"name\":\"--ois-w-num\",\"value\":\"1px\"\x7d]\x7d".toList,
          "\x7b\"directives\":[],\"classes\":[\"ois\"],\"properties\":[".toList ++
            "\x7b\"name\":\"--ois-default-object-fit\",\"value\":\"cover\"\x7d]\x7d".toList],
          []⟩ := by
  have lines : ∀ t ∈ ["w-1".toList, "-".toList], Text.IsLine t := by
    intro t inside
    rw [List.mem_cons, List.mem_singleton] at inside
    rcases inside with rfl | rfl
    · exact ⟨⟨'w', by decide⟩, by decide, by decide⟩
    · exact ⟨⟨'-', by decide⟩, by decide, by decide⟩
  have lays : Text.Lays ["w-1".toList, "-".toList]
      ("w-1".toList ++ ['\r', '\n'] ++ ([' ', '\r'] ++ ['\r', '\n'] ++ ['-'])) :=
    .text (.inr rfl) (.blank rfl (by decide) (.inr rfl) (.lastText _))
  have options_only : separator ∉ ["--json".toList] := by decide
  have alike := run_texts_alike nowhere ByteArray.empty .style (List.cons_ne_nil _ _) lines lays
    options_only (by
      intro line asked
      cases asked
      rfl)
  exact ⟨lays, alike, by decide +kernel⟩

end AltStyle.Command
