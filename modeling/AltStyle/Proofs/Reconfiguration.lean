import Mathlib
import AltStyle.Config.Basic

/-! A configuration that is changed and asked again after loading. The prefix checked at loading
is used as long as it fits. It never shows: all answers are those of the settings that stand at
the time. -/
namespace AltStyle

theorem bind_eq_ok_iff {E A B : Type} {x : Except E A} {f : A → Except E B} {b : B} :
    x >>= f = .ok b ↔ ∃ a, x = .ok a ∧ f a = .ok b := by
  cases x with
  | error e => simp [bind, Except.bind]
  | ok a => simp [bind, Except.bind]

namespace Config

inductive Step
  | setPrefixText (s : Text)
  | setObjectFit (fit : ObjectFit)
  | validate
  | currentPrefix
  | objectFit

namespace Step

def prefixText? : Step → Option Text
  | .setPrefixText s => some s
  | _ => none

def objectFit? : Step → Option ObjectFit
  | .setObjectFit fit => some fit
  | _ => none

end Step

def apply (c : Config) : Step → Config
  | .setPrefixText s => c.setPrefixText s
  | .setObjectFit fit => c.setObjectFit fit
  | .validate | .currentPrefix | .objectFit => c

def after (c : Config) (steps : List Step) : Config :=
  steps.foldl apply c

/-- The value that was assigned last, or the first one if none was assigned. -/
def lastAssigned {A : Type} (assigned? : Step → Option A) (first : A) (steps : List Step) : A :=
  (steps.filterMap assigned?).getLast?.getD first

theorem lastAssigned_cons {A : Type} (assigned? : Step → Option A) (first : A) (step : Step)
    (steps : List Step) :
    lastAssigned assigned? first (step :: steps) =
      lastAssigned assigned? ((assigned? step).getD first) steps := by
  rw [lastAssigned, lastAssigned, List.filterMap_cons]
  cases assigned? step with
  | none => rfl
  | some a => rw [List.getLast?_cons, Option.getD_some, Option.getD_some]

theorem settings_apply (c : Config) (step : Step) :
    (c.apply step).settings = ⟨step.prefixText?.getD c.settings.prefixText,
      step.objectFit?.getD c.settings.objectFit⟩ := by
  cases step <;> rfl

/-- The run: of the assignments to a setting only the last one is left. -/
theorem settings_after (c : Config) (steps : List Step) :
    (c.after steps).settings = ⟨lastAssigned Step.prefixText? c.settings.prefixText steps,
      lastAssigned Step.objectFit? c.settings.objectFit steps⟩ := by
  induction steps generalizing c with
  | nil => rfl
  | cons step steps ih =>
    have stepped : c.after (step :: steps) = (c.apply step).after steps := rfl
    rw [stepped, ih, settings_apply, lastAssigned_cons, lastAssigned_cons]

/-- The prefix from loading is used only where checking would give it again. -/
theorem currentPrefix_eq_checkPrefix (c : Config) :
    c.currentPrefix = checkPrefix c.settings.prefixText := by
  rw [currentPrefix]
  split
  · next same => rw [checkPrefix, Prefix.ofText_eq_ok_iff.2 same, Except.mapError]
  · rfl

theorem validate_eq_ok_iff (c : Config) : c.validate = .ok () ↔ ∃ p, c.currentPrefix = .ok p := by
  rw [validate, bind_eq_ok_iff]
  exact exists_congr fun p => and_iff_left rfl

/-- Right after loading the checked prefix is the one that is used. -/
theorem currentPrefix_of_load {w : Surroundings} {path : Option Text} {o : Overrides} {c : Config}
    (loaded : load w path o = .ok c) : c.currentPrefix = .ok c.ready := by
  obtain ⟨⟨settings, found⟩, read, rest⟩ := bind_eq_ok_iff.1 loaded
  obtain ⟨ready, checked, same⟩ := bind_eq_ok_iff.1 rest
  cases same
  rw [currentPrefix_eq_checkPrefix]
  exact checked

/-- Whatever is done with a loaded configuration, its prefix is the one that the text assigned last
makes, or the error that this text makes, and it is valid exactly if there is a prefix. Right
after loading there is one. -/
theorem currentPrefix_after_load {w : Surroundings} {path : Option Text} {o : Overrides}
    {c : Config} (loaded : load w path o = .ok c) :
    c.validate = .ok () ∧ (∃ p, c.currentPrefix = .ok p) ∧
      ∀ steps : List Step,
        (c.after steps).settings.prefixText =
          lastAssigned Step.prefixText? c.settings.prefixText steps ∧
        (c.after steps).settings.objectFit =
          lastAssigned Step.objectFit? c.settings.objectFit steps ∧
        (c.after steps).currentPrefix =
          (Prefix.ofText (c.after steps).settings.prefixText).mapError .badPrefix ∧
        ((c.after steps).validate = .ok () ↔ ∃ p, (c.after steps).currentPrefix = .ok p) := by
  have ready := currentPrefix_of_load loaded
  refine ⟨(validate_eq_ok_iff c).2 ⟨_, ready⟩, ⟨_, ready⟩, ?_⟩
  intro steps
  have settings := settings_after c steps
  exact ⟨congrArg Settings.prefixText settings, congrArg Settings.objectFit settings,
    currentPrefix_eq_checkPrefix _, validate_eq_ok_iff _⟩

def site : Surroundings where
  tree := ⟨[([fileName, "site".toList],
      .file (Text.toBytes "[syntax]\nprefix='$\x7bP:-.\x7d'".toList)),
    (["site".toList], .directory), (["img".toList, "site".toList], .directory)]⟩
  cwd := ["img".toList, "site".toList]
  env := ⟨[]⟩

def ofSite : Config :=
  ⟨⟨['.'], .cover⟩, some (.discovered [fileName, "site".toList]), ⟨['.'], rfl, rfl⟩⟩

/-- The prefix is changed to one that is refused, and back. -/
theorem currentPrefix_after_load_site :
    load site none .none = .ok ofSite ∧
      (ofSite.after [.setPrefixText ['#'], .currentPrefix, .setObjectFit .fill]).currentPrefix =
        .error (.badPrefix ⟨['#'], .reserved⟩) ∧
      (ofSite.after [.setPrefixText ['#'], .validate, .setPrefixText ['.']]).currentPrefix =
        .ok ⟨['.'], rfl, rfl⟩ := by
  have loaded : load site none .none = .ok ofSite := by cbv
  have answers := (currentPrefix_after_load loaded).2.2
  refine ⟨loaded, ?_, ?_⟩
  · exact (answers [.setPrefixText ['#'], .currentPrefix, .setObjectFit .fill]).2.2.1
  · exact (answers [.setPrefixText ['#'], .validate, .setPrefixText ['.']]).2.2.1

end Config
end AltStyle
