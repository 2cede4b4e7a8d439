import AltStyle.Command.Run

/-! Runs of the program. A command reads all that it needs before it writes anything, and from then
on it cannot fail. So a run that fails has no output. -/
namespace AltStyle.Command
namespace Action

variable {A B : Type} {a : Action A} {f : A → Action B}

@[simp] theorem perform_pure (x : A) (w : Written) : (pure x : Action A).perform w = (.ok x, w) :=
  rfl

@[simp] theorem perform_throw (e : Failure) (w : Written) :
    (throw e : Action A).perform w = (.error e, w) :=
  rfl

@[simp] theorem perform_print (s : Text) (w : Written) :
    (print s).perform w = (.ok (), { w with output := w.output ++ writeLines [s] }) :=
  rfl

@[simp] theorem perform_tell (urgency : Urgency) (s : Text) (w : Written) :
    (tell urgency s).perform w = (.ok (), { w with messages := w.messages ++ [⟨urgency, s⟩] }) :=
  rfl

theorem perform_bind (a : Action A) (f : A → Action B) (w : Written) :
    (a >>= f).perform w =
      match a.perform w with
      | (.ok x, v) => (f x).perform v
      | (.error e, v) => (.error e, v) := by
  unfold perform
  rw [ExceptT.run_bind, StateT.run_bind]
  generalize a.run.run w = performed
  rcases performed with ⟨_ | _, _⟩ <;> rfl

def IsSilent (a : Action A) : Prop :=
  ∀ w, (a.perform w).2 = w

def IsSafe (a : Action A) : Prop :=
  ∀ w, ∃ x v, a.perform w = (.ok x, v)

/-- Nothing is written if the action fails. -/
def IsAllOrNothing (a : Action A) : Prop :=
  ∀ w e v, a.perform w = (.error e, v) → v = w

theorem isSilent_pure (x : A) : IsSilent (pure x) := by
  intro w
  simp

theorem isSilent_throw (e : Failure) : IsSilent (throw e : Action A) := by
  intro w
  simp

theorem IsSilent.bind (silent : IsSilent a) (rest : ∀ x, IsSilent (f x)) :
    IsSilent (a >>= f) := by
  intro w
  have unchanged := silent w
  rw [perform_bind]
  rcases performed : a.perform w with ⟨_ | x, v⟩
  · simpa [performed] using unchanged
  · obtain rfl : v = w := by simpa [performed] using unchanged
    exact rest x v

/-- Reading first and writing afterwards is how an action comes to be all or nothing. -/
theorem IsSilent.bind_isAllOrNothing (silent : IsSilent a) (rest : ∀ x, IsAllOrNothing (f x)) :
    IsAllOrNothing (a >>= f) := by
  intro w e v failed
  have unchanged := silent w
  rw [perform_bind] at failed
  rcases performed : a.perform w with ⟨_ | x, u⟩
  · obtain rfl : u = w := by simpa [performed] using unchanged
    simp only [performed, Prod.mk.injEq] at failed
    exact failed.2.symm
  · obtain rfl : u = w := by simpa [performed] using unchanged
    simp only [performed] at failed
    exact rest x u e v failed

theorem IsSafe.isAllOrNothing (safe : IsSafe a) : IsAllOrNothing a := by
  intro w e v failed
  obtain ⟨x, u, succeeded⟩ := safe w
  simp [succeeded] at failed

theorem isSafe_pure (x : A) : IsSafe (pure x) :=
  fun w => ⟨x, w, rfl⟩

theorem isSafe_print (s : Text) : IsSafe (print s) :=
  fun _ => ⟨(), _, rfl⟩

theorem isSafe_tell (urgency : Urgency) (s : Text) : IsSafe (tell urgency s) :=
  fun _ => ⟨(), _, rfl⟩

theorem IsSafe.bind (safe : IsSafe a) (rest : ∀ x, IsSafe (f x)) : IsSafe (a >>= f) := by
  intro w
  obtain ⟨x, v, succeeded⟩ := safe w
  rw [perform_bind, succeeded]
  exact rest x v

theorem isSafe_forM {each : A → Action Unit} (safe : ∀ x, IsSafe (each x)) (xs : List A) :
    IsSafe (xs.forM each) := by
  induction xs with
  | nil => exact isSafe_pure ()
  | cons x xs ih => exact (safe x).bind fun _ => ih

theorem isSafe_printDirectives (line : Line) (p : Prefix) (alt : Text) :
    IsSafe (printDirectives line p alt) :=
  isSafe_print _

theorem isSafe_printAttributes (image : Image) : IsSafe (printAttributes image) := by
  refine (isSafe_print _).bind fun _ => (isSafe_print _).bind fun _ => ?_
  have banner : IsSafe (if image.isBanner then
      tell .highlight "Banner: enclosing block gets ois-banner-container".toList else pure ()) := by
    split
    · exact isSafe_tell _ _
    · exact isSafe_pure ()
  cases image.labelText? with
  | none => exact banner
  | some label => exact (isSafe_tell _ _).bind fun _ => banner

theorem isSafe_printImage (line : Line) (p : Prefix) (fit : ObjectFit) (alt : Text) :
    IsSafe (printImage line p fit alt) := by
  unfold printImage
  split
  · exact isSafe_tell _ _
  · dsimp only
    split
    · exact isSafe_print _
    · exact isSafe_printAttributes _

/-- Printing a result cannot fail, whichever command asks for it. -/
theorem isSafe_printResult (name : Name) (line : Line) (p : Prefix) (fit : ObjectFit)
    (alt : Text) : IsSafe (printResult name line p fit alt) := by
  cases name with
  | parse => exact isSafe_printDirectives line p alt
  | style => exact isSafe_printImage line p fit alt

theorem isSilent_ofConfig (x : Except Config.Error A) : IsSilent (ofConfig x) := by
  cases x with
  | error e => exact isSilent_throw _
  | ok x => exact isSilent_pure x

theorem isSilent_decode (bytes : List UInt8) : IsSilent (decode bytes) := by
  unfold decode
  split
  · exact isSilent_pure _
  · exact isSilent_throw _

theorem isSilent_readLines (lines : List (List UInt8)) : IsSilent (readLines lines) := by
  induction lines with
  | nil => exact isSilent_pure []
  | cons bytes lines ih =>
    exact (isSilent_decode bytes).bind fun _ => ih.bind fun _ => isSilent_pure _

theorem isSilent_altTexts (line : Line) (input : ByteArray) : IsSilent (altTexts line input) := by
  unfold altTexts
  split
  · exact isSilent_pure _
  · exact isSilent_readLines _

/-- All that can fail comes before the first result is printed. -/
theorem isAllOrNothing_command (w : Surroundings) (input : ByteArray) (name : Name) (line : Line) :
    IsAllOrNothing (command w input name line) := by
  apply (isSilent_ofConfig _).bind_isAllOrNothing
  intro config
  apply (isSilent_ofConfig _).bind_isAllOrNothing
  intro p
  apply (isSilent_altTexts line input).bind_isAllOrNothing
  intro alts
  exact (isSafe_forM (isSafe_printResult name line p _) alts).isAllOrNothing

end Action

theorem output_of_failed {env : Environment} {a : Action Unit} (whole : a.IsAllOrNothing)
    (failed : (Outcome.ofPerformed env (a.perform Written.nothing)).code ≠ 0) :
    (Outcome.ofPerformed env (a.perform Written.nothing)).output = [] := by
  rcases performed : a.perform Written.nothing with ⟨e | _, v⟩
  · exact congrArg Written.output (whole _ e v performed)
  · simp [performed, Outcome.ofPerformed] at failed

/-- A run that does not succeed has no output, wherever it failed. And where the texts are on the
command line, the input does not count. -/
theorem run_all_or_nothing (w : Surroundings) (input : ByteArray) (args : List Text) :
    ((run w input args).code ≠ 0 → (run w input args).output = []) ∧
      ∀ name line, Request.ofArgs args = .ok (.run name line) → line.texts ≠ [] →
        ∀ other, run w other args = run w input args := by
  constructor
  · intro failed
    unfold run at failed ⊢
    rcases asked : Request.ofArgs args with misuse | (_ | about | ⟨name, line⟩)
    · rfl
    · simp [asked] at failed
    · simp [asked] at failed
    · simp only [asked] at failed ⊢
      exact output_of_failed (Action.isAllOrNothing_command w input name line) failed
  · intro name line asked given other
    have unread (bytes : ByteArray) : Action.altTexts line bytes = pure line.texts := by
      simp [Action.altTexts, given]
    simp only [run, asked, Action.command, unread]

def nowhere : Surroundings :=
  ⟨FileTree.empty, [], ⟨[]⟩⟩

/-- The second line of the input is not text. -/
theorem run_all_or_nothing_second_line :
    (run nowhere ⟨#[119, 45, 49, 10, 255]⟩ ["parse".toList]).code ≠ 0 ∧
      (run nowhere ⟨#[119, 45, 49, 10, 255]⟩ ["parse".toList]).output = [] ∧
      run nowhere ⟨#[255]⟩ ["style".toList, "w-1".toList] =
        run nowhere ⟨#[]⟩ ["style".toList, "w-1".toList] := by
  have failed : (run nowhere ⟨#[119, 45, 49, 10, 255]⟩ ["parse".toList]).code ≠ 0 :=
    Nat.succ_ne_zero 0
  refine ⟨failed, (run_all_or_nothing _ _ _).1 failed, ?_⟩
  exact (run_all_or_nothing _ _ ["style".toList, "w-1".toList]).2 .style ⟨[], ["w-1".toList]⟩ rfl
    (List.cons_ne_nil _ _) _

end AltStyle.Command
