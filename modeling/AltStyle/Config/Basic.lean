import AltStyle.Config.Environment
import AltStyle.Config.FileTree
import AltStyle.Config.Settings
import AltStyle.Prefix
import AltStyle.Text.Lines
import AltStyle.Toml.Document

/-! Loading the configuration from a file and from what overrides it. -/
namespace AltStyle

structure Surroundings where
  tree : FileTree
  cwd : Place
  env : Environment

inductive ConfigPath
  | given (path : Text)
  | discovered (place : Place)
deriving DecidableEq, Repr

/-- A configuration that was loaded. The settings may be changed afterwards; `ready` is the
prefix that was checked at loading. -/
structure Config where
  settings : Settings
  path : Option ConfigPath
  ready : Prefix

namespace Config

inductive Error
  | notFound (path : Text)
  | unreadable
  | malformed
  | badPrefix (e : Prefix.Error)
  | unsetVariable (name : Text)
deriving DecidableEq, Repr

def Error.message : Error → Text
  | .notFound path => "Configuration file not found: ".toList ++ path
  | .unreadable => "I/O error: the configuration file cannot be read as text".toList
  | .malformed => "TOML parse error: the configuration file does not have the expected form".toList
  | .badPrefix e => "Configuration error in syntax.prefix: ".toList ++ e.message
  | .unsetVariable name =>
    "Environment variable error in syntax.prefix: $".toList ++ ['{'] ++ name ++
      ['}'] ++ " not set".toList

structure Overrides where
  prefixText : Option Text
  objectFit : Option ObjectFit

def Overrides.none : Overrides :=
  ⟨.none, .none⟩

def Overrides.apply (o : Overrides) (s : Settings) : Settings :=
  ⟨o.prefixText.getD s.prefixText, o.objectFit.getD s.objectFit⟩

def fileName : Text :=
  "ois.toml".toList

def checkPrefix (s : Text) : Except Error Prefix :=
  (Prefix.ofText s).mapError .badPrefix

def expandSettings (env : Environment) (s : Settings) : Except Error Settings := do
  let prefixText ← (env.expand s.prefixText).mapError .unsetVariable
  return { s with prefixText := prefixText }

def settingsOf (node : Node) : Except Error Settings :=
  match node with
  | .directory | .unreadable => .error .unreadable
  | .file content =>
    match Text.ofBytes? content with
    | none => .error .unreadable
    | some s =>
      match (Toml.document? s).bind Settings.ofDocument? with
      | none => .error .malformed
      | some settings => .ok settings

def readNode (env : Environment) (node : Node) : Except Error Settings := do
  expandSettings env (← settingsOf node)

def variablesIn (node : Node) : List Text :=
  match settingsOf node with
  | .ok settings => Environment.namesIn settings.prefixText
  | .error _ => []

def readSettings (w : Surroundings) (path : Option Text) :
    Except Error (Settings × Option ConfigPath) :=
  match path with
  | some path =>
    match w.tree.open? w.cwd path with
    | none => .error (.notFound path)
    | some node => do return (← readNode w.env node, some (.given path))
  | none =>
    match w.tree.nearest? fileName w.cwd with
    | none => .ok (Settings.default, none)
    | some place =>
      match w.tree.node? place with
      | none => .ok (Settings.default, none)
      | some node => do return (← readNode w.env node, some (.discovered place))

/-- Loads the configuration. Its prefix is checked after the overrides are applied. -/
def load (w : Surroundings) (path : Option Text) (o : Overrides) : Except Error Config := do
  let (settings, path) ← readSettings w path
  let settings := o.apply settings
  let ready ← checkPrefix settings.prefixText
  return ⟨settings, path, ready⟩

/-- The prefix that is set now. The one from loading is used again as long as its text is the
one that is set. -/
def currentPrefix (c : Config) : Except Error Prefix :=
  if c.ready.text = c.settings.prefixText then .ok c.ready
  else checkPrefix c.settings.prefixText

def validate (c : Config) : Except Error Unit := do
  let _ ← c.currentPrefix
  return ()

def setPrefixText (c : Config) (s : Text) : Config :=
  { c with settings := { c.settings with prefixText := s } }

def setObjectFit (c : Config) (fit : ObjectFit) : Config :=
  { c with settings := { c.settings with objectFit := fit } }

end Config
end AltStyle
