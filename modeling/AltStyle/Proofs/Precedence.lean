import AltStyle.Proofs.Reconfiguration

/-! A prefix that is given beside the file and takes the place of the one in it. The one in the file
is expanded before it gives way, so that a variable it lacks stops the loading. Nothing else about
it shows. -/
namespace AltStyle
namespace Toml
namespace Entries

def modify (f : Value → Value) (key : Text) (es : Entries) : Entries :=
  es.map fun e => if e.1 = key then (e.1, f e.2) else e

theorem get?_modify (f : Value → Value) (key : Text) (es : Entries) :
    (es.modify f key).get? key = (es.get? key).map f := by
  induction es with
  | nil => rfl
  | cons e es ih =>
    by_cases same : e.1 = key
    · simp [modify, get?, same]
    · simpa [modify, get?, same] using ih

theorem get?_modify_of_ne {key other : Text} (differ : other ≠ key) (f : Value → Value)
    (es : Entries) : (es.modify f key).get? other = es.get? other := by
  induction es with
  | nil => rfl
  | cons e es ih =>
    by_cases same : e.1 = key
    · simpa [modify, get?, same, Ne.symm differ] using ih
    · by_cases found : e.1 = other
      · simp [modify, get?, found, differ]
      · simpa [modify, get?, same, found] using ih

theorem filter_modify {key : Text} {p : Text → Bool} (left_out : p key = false)
    (f : Value → Value) (es : Entries) :
    (es.modify f key).filter (fun e => p e.1) = es.filter (fun e => p e.1) := by
  induction es with
  | nil => rfl
  | cons e es ih =>
    by_cases same : e.1 = key
    · simpa [modify, same, left_out] using ih
    · cases kept : p e.1 with
      | true => simpa [modify, same, kept] using ih
      | false => simpa [modify, same, kept] using ih

end Entries

namespace Value

def emptied : Value → Value
  | .string _ => .string []
  | v => v

def withFieldEmptied (name : Text) : Value → Value
  | .table origin es => .table origin (Entries.modify emptied name es)
  | .array grows (v :: items) => .array grows (v.emptied :: items)
  | v => v

theorem string?_emptied (v : Value) : v.emptied.string? = v.string?.map fun _ => [] := by
  cases v <;> rfl

theorem soleField?_withFieldEmptied (name : Text) (v : Value) :
    (v.withFieldEmptied name).soleField? name = (v.soleField? name).map (Option.map emptied) := by
  cases v with
  | table origin es =>
    have others : (Entries.modify emptied name es).filter (·.1 ≠ name) = es.filter (·.1 ≠ name) :=
      Entries.filter_modify (p := (· ≠ name)) (by simp) emptied es
    simp only [withFieldEmptied, soleField?, others, Entries.get?_modify]
    split <;> rfl
  | array grows items => cases items <;> rfl
  | string | integer | float | boolean | dateTime => rfl

end Value
end Toml

namespace Settings
open Toml

def withPrefixEmptied (document : Entries) : Entries :=
  document.modify (Value.withFieldEmptied "prefix".toList) "syntax".toList

theorem field?_prefix (document : Entries) :
    field? (withPrefixEmptied document) "syntax".toList "prefix".toList Value.string?
        default.prefixText =
      (field? document "syntax".toList "prefix".toList Value.string? default.prefixText).map
        fun _ => [] := by
  rw [field?, field?, withPrefixEmptied, Entries.get?_modify]
  cases document.get? "syntax".toList with
  | none => rfl
  | some v =>
    simp only [Option.map_some, Value.soleField?_withFieldEmptied]
    rcases v.soleField? "prefix".toList with _ | _ | field
    · rfl
    · rfl
    · exact field.string?_emptied

theorem field?_withPrefixEmptied {α : Type} {sectionName : Text} (other : sectionName ≠ "syntax".toList)
    (name : Text) (read : Value → Option α) (default : α) (document : Entries) :
    field? (withPrefixEmptied document) sectionName name read default =
      field? document sectionName name read default := by
  rw [field?, field?, withPrefixEmptied, Entries.get?_modify_of_ne other]

/-- The prefix of a document bears on nothing but itself. -/
theorem ofDocument?_withPrefixEmptied (document : Entries) :
    ofDocument? (withPrefixEmptied document) =
      (ofDocument? document).map fun s => { s with prefixText := [] } := by
  have others : (withPrefixEmptied document).filter
        (fun e => e.1 ≠ "syntax".toList ∧ e.1 ≠ "images".toList) =
      document.filter (fun e => e.1 ≠ "syntax".toList ∧ e.1 ≠ "images".toList) :=
    Entries.filter_modify (p := fun key => key ≠ "syntax".toList ∧ key ≠ "images".toList) (by simp) _ _
  rw [ofDocument?, ofDocument?, field?_prefix, field?_withPrefixEmptied (by decide), others]
  cases field? document "syntax".toList "prefix".toList Value.string? default.prefixText with
  | none => rfl
  | some s =>
    cases field? document "images".toList "default_object_fit".toList
        (fun v => v.choice?.bind ObjectFit.ofName?) default.objectFit with
    | none => rfl
    | some fit =>
      simp only [Option.map_some, Option.bind_eq_bind, Option.bind_some]
      split <;> rfl

theorem objectFit_eq_of_alike {document other : Entries}
    (alike : withPrefixEmptied document = withPrefixEmptied other) :
    (ofDocument? document).map objectFit = (ofDocument? other).map objectFit := by
  have emptied := congrArg (fun d => (ofDocument? d).map objectFit) alike
  simpa [ofDocument?_withPrefixEmptied, Function.comp_def] using emptied

end Settings

namespace Config
open Toml

/-- What can be learned from a configuration, its path aside. -/
def answers (c : Config) : Settings × Except Error Prefix :=
  (c.settings, c.currentPrefix)

def Holds (node : Node) (document : Entries) : Prop :=
  ∃ bytes s, node = .file bytes ∧ Text.ofBytes? bytes = some s ∧ document? s = some document

/-- Whether the configuration is read from a file with the document: the one at the path or, if no
path is given, the nearest one. -/
def Reads (w : Surroundings) (path : Option Text) (document : Entries) : Prop :=
  ∃ node, Holds node document ∧
    match path with
    | some path => w.tree.open? w.cwd path = some node
    | none => ∃ place, w.tree.nearest? fileName w.cwd = some place ∧ w.tree.node? place = some node

/-- The first variable for whose lack the prefix in the document cannot be expanded. -/
def lacking? (env : Environment) (document : Entries) : Option Text :=
  match Settings.ofDocument? document with
  | none => none
  | some s =>
    match env.expand s.prefixText with
    | .ok _ => none
    | .error name => some name

def settingsIn (env : Environment) (document : Entries) : Except Error Settings :=
  match Settings.ofDocument? document with
  | none => .error .malformed
  | some s => expandSettings env s

theorem readNode_of_holds {node : Node} {document : Entries} (holds : Holds node document)
    (env : Environment) : readNode env node = settingsIn env document := by
  obtain ⟨bytes, s, rfl, decoded, parsed⟩ := holds
  simp only [readNode, settingsOf, decoded, parsed, Option.bind_some, settingsIn]
  cases Settings.ofDocument? document <;> rfl

/-- Where the document is found makes no difference to the settings that are read. -/
theorem readSettings_of_reads {w : Surroundings} {path : Option Text} {document : Entries}
    (reads : Reads w path document) :
    ∃ found, readSettings w path = (settingsIn w.env document).map (·, some found) := by
  obtain ⟨node, holds, at_path⟩ := reads
  cases path with
  | some path =>
    refine ⟨.given path, ?_⟩
    simp only [readSettings, at_path, readNode_of_holds holds]
    rfl
  | none =>
    obtain ⟨place, nearest, there⟩ := at_path
    refine ⟨.discovered place, ?_⟩
    simp only [readSettings, nearest, there, readNode_of_holds holds]
    rfl

def outcome (o : Overrides) (s : Text) (fit : ObjectFit) :
    Except Error (Settings × Except Error Prefix) :=
  (checkPrefix s).map fun p => (⟨s, o.objectFit.getD fit⟩, .ok p)

section
variable {w : Surroundings} {path : Option Text} {o : Overrides} {document : Entries}

theorem load_of_malformed (reads : Reads w path document)
    (malformed : Settings.ofDocument? document = none) : load w path o = .error .malformed := by
  obtain ⟨found, read⟩ := readSettings_of_reads reads
  simp only [load, read, settingsIn, malformed]
  rfl

theorem load_of_lacking {name : Text} (reads : Reads w path document)
    (lacking : lacking? w.env document = some name) :
    load w path o = .error (.unsetVariable name) := by
  obtain ⟨found, read⟩ := readSettings_of_reads reads
  rw [lacking?] at lacking
  cases formed : Settings.ofDocument? document with
  | none => simp [formed] at lacking
  | some s =>
    cases expanded : w.env.expand s.prefixText with
    | ok t => simp [formed, expanded] at lacking
    | error missing =>
      have same : missing = name := by simpa [formed, expanded] using lacking
      simp only [load, read, settingsIn, formed, expandSettings, expanded, same]
      rfl

theorem load_of_complete {s : Settings} {t : Text} (reads : Reads w path document)
    (formed : Settings.ofDocument? document = some s) (complete : lacking? w.env document = none)
    (overridden : o.prefixText = some t) :
    (load w path o).map answers = outcome o t s.objectFit := by
  obtain ⟨found, read⟩ := readSettings_of_reads reads
  cases expanded : w.env.expand s.prefixText with
  | error name => simp [lacking?, formed, expanded] at complete
  | ok _ =>
    have applied (u : Text) : o.apply ⟨u, s.objectFit⟩ = ⟨t, o.objectFit.getD s.objectFit⟩ := by
      simp [Overrides.apply, overridden]
    have loaded : load w path o = (checkPrefix t).map fun p =>
        ⟨⟨t, o.objectFit.getD s.objectFit⟩, some found, p⟩ := by
      simp only [load, read, settingsIn, formed, expandSettings, expanded]
      simp only [Except.mapError, Except.map, bind, Except.bind, pure, Except.pure, applied]
    rw [loaded, outcome]
    cases checked : checkPrefix t with
    | error e => rfl
    | ok p => simp [Except.map, answers, currentPrefix_eq_checkPrefix, checked]

/-- With the prefix overridden, loading still fails for the variable that the file lacks, and for no
other. -/
theorem load_eq_unsetVariable_iff {name t : Text} (reads : Reads w path document)
    (overridden : o.prefixText = some t) :
    (load w path o).map answers = .error (.unsetVariable name) ↔
      lacking? w.env document = some name := by
  cases lacking : lacking? w.env document with
  | some missing => simp [load_of_lacking reads lacking, Except.map]
  | none =>
    cases formed : Settings.ofDocument? document with
    | none => simp [load_of_malformed reads formed, Except.map]
    | some s =>
      rw [load_of_complete reads formed lacking overridden, outcome, checkPrefix]
      cases Prefix.ofText t <;> simp [Except.map, Except.mapError]

/-- The prefix that is given is the one that counts. -/
theorem prefixText_of_load {c : Config} {t : Text} (overridden : o.prefixText = some t)
    (loaded : load w path o = .ok c) : c.settings.prefixText = t ∧ c.ready.text = t := by
  obtain ⟨⟨s, found⟩, -, rest⟩ := bind_eq_ok_iff.1 loaded
  obtain ⟨ready, checked, same⟩ := bind_eq_ok_iff.1 rest
  cases same
  have given : (o.apply s).prefixText = t := by simp [Overrides.apply, overridden]
  have accepted : Prefix.ofText (o.apply s).prefixText = .ok ready := by
    rw [checkPrefix] at checked
    cases read : Prefix.ofText (o.apply s).prefixText with
    | error e => simp [read, Except.mapError] at checked
    | ok p => simpa [read, Except.mapError] using checked
  exact ⟨given, (Prefix.ofText_eq_ok_iff.1 accepted).trans given⟩

end

/-- With a prefix given beside them, two files that differ only in their own prefixes lead to the
same outcome exactly if these lack the same variable, or none. -/
theorem load_alike_iff {w v : Surroundings} {path path' : Option Text} {o : Overrides} {t : Text}
    {document other : Entries} (same_env : w.env = v.env) (overridden : o.prefixText = some t)
    (reads : Reads w path document) (reads' : Reads v path' other)
    (alike : Settings.withPrefixEmptied document = Settings.withPrefixEmptied other) :
    ((load w path o).map answers = (load v path' o).map answers ↔
        lacking? w.env document = lacking? w.env other) ∧
      ∀ c, load w path o = .ok c → c.settings.prefixText = t ∧ c.ready.text = t := by
  refine ⟨⟨?_, ?_⟩, fun c loaded => prefixText_of_load overridden loaded⟩
  · intro same
    apply Option.ext
    intro name
    rw [← load_eq_unsetVariable_iff reads overridden, same,
      load_eq_unsetVariable_iff reads' overridden, same_env]
  · intro same
    have fits := Settings.objectFit_eq_of_alike alike
    cases lacking : lacking? w.env document with
    | some name =>
      rw [load_of_lacking reads lacking, load_of_lacking reads' (same_env ▸ same ▸ lacking)]
    | none =>
      have complete : lacking? v.env other = none := same_env ▸ same ▸ lacking
      cases formed : Settings.ofDocument? document with
      | none =>
        have formed' : Settings.ofDocument? other = none := by simpa [formed] using fits.symm
        rw [load_of_malformed reads formed, load_of_malformed reads' formed']
      | some s =>
        obtain ⟨s', formed', fit⟩ : ∃ s', Settings.ofDocument? other = some s' ∧
            s'.objectFit = s.objectFit := by simpa [formed] using fits.symm
        rw [load_of_complete reads formed lacking overridden,
          load_of_complete reads' formed' complete overridden, fit]

def siteWith (s : Text) : Surroundings where
  tree := ⟨[([fileName], .file (Text.toBytes ("[syntax]\nprefix='".toList ++ s ++ ['\''])))]⟩
  cwd := []
  env := ⟨[]⟩

def documentWith (s : Text) : Entries :=
  [("syntax".toList, .table .header [("prefix".toList, .string s)])]

theorem documentWith_alike (s t : Text) :
    Settings.withPrefixEmptied (documentWith s) = Settings.withPrefixEmptied (documentWith t) := by
  have emptied (u : Text) : Settings.withPrefixEmptied (documentWith u) = documentWith [] := rfl
  rw [emptied, emptied]

theorem reads_siteWith {s : Text} (read : (Text.ofBytes? (Text.toBytes
    ("[syntax]\nprefix='".toList ++ s ++ ['\'']))).bind document? = some (documentWith s)) :
    Reads (siteWith s) none (documentWith s) := by
  obtain ⟨written, decoded, parsed⟩ := Option.bind_eq_some_iff.1 read
  exact ⟨_, ⟨_, written, rfl, decoded, parsed⟩, [fileName], rfl, rfl⟩

theorem reads_refused : Reads (siteWith ['#']) none (documentWith ['#']) :=
  reads_siteWith (by cbv)

/-- Neither a prefix that would be refused nor a reference with a default shows behind the one that
is given. -/
theorem load_alike_iff_default :
    Reads (siteWith ['#']) none (documentWith ['#']) ∧
      Reads (siteWith "$\x7bP:-.\x7d".toList) none (documentWith "$\x7bP:-.\x7d".toList) ∧
      (load (siteWith ['#']) none ⟨some ['!'], none⟩).map answers =
        (load (siteWith "$\x7bP:-.\x7d".toList) none ⟨some ['!'], none⟩).map answers := by
  have reads : Reads (siteWith "$\x7bP:-.\x7d".toList) none (documentWith "$\x7bP:-.\x7d".toList) :=
    reads_siteWith (by cbv)
  have lacking : lacking? (siteWith ['#']).env (documentWith ['#']) =
      lacking? (siteWith ['#']).env (documentWith "$\x7bP:-.\x7d".toList) := by cbv
  refine ⟨reads_refused, reads, ?_⟩
  exact (load_alike_iff (w := siteWith ['#']) (v := siteWith "$\x7bP:-.\x7d".toList)
    (o := ⟨some ['!'], none⟩) rfl rfl reads_refused reads
    (documentWith_alike _ _)).1.2 lacking

/-- A variable that the prefix in the file lacks stops the loading, although that prefix is not the
one that counts. -/
theorem load_not_alike_unset :
    Reads (siteWith "$\x7bA\x7d".toList) none (documentWith "$\x7bA\x7d".toList) ∧
      Reads (siteWith ['#']) none (documentWith ['#']) ∧
      Settings.withPrefixEmptied (documentWith "$\x7bA\x7d".toList) =
        Settings.withPrefixEmptied (documentWith ['#']) ∧
      (load (siteWith "$\x7bA\x7d".toList) none ⟨some ['.'], none⟩).map answers ≠
        (load (siteWith ['#']) none ⟨some ['.'], none⟩).map answers := by
  have reads : Reads (siteWith "$\x7bA\x7d".toList) none (documentWith "$\x7bA\x7d".toList) :=
    reads_siteWith (by cbv)
  have lacking : lacking? (siteWith "$\x7bA\x7d".toList).env (documentWith "$\x7bA\x7d".toList) =
      some ['A'] := by cbv
  have complete : lacking? (siteWith ['#']).env (documentWith ['#']) = none := by cbv
  refine ⟨reads, reads_refused, documentWith_alike _ _, ?_⟩
  intro same
  have stopped := (load_eq_unsetVariable_iff reads_refused rfl).1
    (same ▸ (load_eq_unsetVariable_iff reads rfl).2 lacking)
  simp [complete] at stopped

end Config
end AltStyle
