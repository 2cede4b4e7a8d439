import AltStyle.Style.ObjectFit

/-! The command line: which options there are, how they are written, and what a line of
arguments asks for. What is wrong with a line is told in words that are only a sketch; that it
is wrong is what counts. -/
namespace AltStyle.Command

inductive OptionKey
  | config
  | prefixText
  | verbose
  | help
  | pretty
  | objectFit
  | width
  | height
  | source
  | json
deriving DecidableEq, Repr

namespace OptionKey

def long : OptionKey → Text
  | .config => "config".toList
  | .prefixText => "prefix".toList
  | .verbose => "verbose".toList
  | .help => "help".toList
  | .pretty => "pretty".toList
  | .objectFit => "object-fit".toList
  | .width => "width".toList
  | .height => "height".toList
  | .source => "src".toList
  | .json => "json".toList

def short? : OptionKey → Option Char
  | .config => some 'c'
  | .verbose => some 'v'
  | .help => some 'h'
  | _ => none

def takesValue : OptionKey → Bool
  | .config | .prefixText | .objectFit | .width | .height | .source => true
  | .verbose | .help | .pretty | .json => false

def allows : OptionKey → Text → Bool
  | .config, value => value ≠ []
  | .objectFit, value => (ObjectFit.ofName? value).isSome
  | _, _ => true

end OptionKey

inductive Misuse
  | noCommand
  | unknownCommand (name : Text)
  | unknownOption (written : Text)
  | missingValue (key : OptionKey)
  | unexpectedValue (key : OptionKey)
  | badValue (key : OptionKey) (value : Text)
  | repeated (key : OptionKey)
deriving DecidableEq, Repr

def Misuse.message : Misuse → Text
  | .noCommand => "a command is required: parse or style".toList
  | .unknownCommand name => "unrecognized command ".toList ++ Text.quoted name
  | .unknownOption written => "unexpected argument ".toList ++ Text.quoted written
  | .missingValue key => "a value is required for --".toList ++ key.long
  | .unexpectedValue key => "no value is allowed for --".toList ++ key.long
  | .badValue key value =>
    "invalid value ".toList ++ Text.quoted value ++ " for --".toList ++ key.long
  | .repeated key => "--".toList ++ key.long ++ " cannot be used more than once".toList

/-- The arguments of a command, sorted. Options without a value have the empty one. -/
structure Line where
  options : List (OptionKey × Text)
  texts : List Text
deriving DecidableEq, Repr

namespace Line

def empty : Line :=
  ⟨[], []⟩

def value? (line : Line) (key : OptionKey) : Option Text :=
  (line.options.find? (·.1 = key)).map (·.2)

def has (line : Line) (key : OptionKey) : Bool :=
  (line.value? key).isSome

def add (line : Line) (key : OptionKey) (value : Text) : Except Misuse Line :=
  if line.has key then .error (.repeated key)
  else if key.allows value then .ok { line with options := line.options ++ [(key, value)] }
  else .error (.badValue key value)

end Line

inductive Word
  | text (s : Text)
  /-- Options, of which the last one may still lack its value. -/
  | options (complete : List (OptionKey × Text)) (lacking : Option OptionKey)
  /-- The sign that only texts follow. -/
  | textsFollow
deriving DecidableEq, Repr

/-- Reads letters after one hyphen. Those after an option that takes a value are its value,
perhaps with an equals sign before it. -/
def readLetters (known : List OptionKey) :
    Text → Except Misuse (List (OptionKey × Text) × Option OptionKey)
  | [] => .ok ([], none)
  | c :: s =>
    match known.find? (·.short? = some c) with
    | none => .error (.unknownOption ['-', c])
    | some key =>
      if key.takesValue then
        match s with
        | [] => .ok ([], some key)
        | '=' :: value => .ok ([(key, value)], none)
        | value => .ok ([(key, value)], none)
      else do
        let (others, lacking) ← readLetters known s
        return ((key, []) :: others, lacking)

def readLong (known : List OptionKey) (s : Text) :
    Except Misuse (List (OptionKey × Text) × Option OptionKey) :=
  let name := s.takeWhile (· != '=')
  match known.find? (·.long = name), s.dropWhile (· != '=') with
  | none, _ => .error (.unknownOption ('-' :: '-' :: s))
  | some key, [] => if key.takesValue then .ok ([], some key) else .ok ([(key, [])], none)
  | some key, _ :: value =>
    if key.takesValue then .ok ([(key, value)], none) else .error (.unexpectedValue key)

def readWord (known : List OptionKey) (arg : Text) : Except Misuse Word :=
  match arg with
  | ['-', '-'] => .ok .textsFollow
  | '-' :: '-' :: s => do
    let (complete, lacking) ← readLong known s
    return .options complete lacking
  | '-' :: c :: s => do
    let (complete, lacking) ← readLetters known (c :: s)
    return .options complete lacking
  | s => .ok (.text s)

def looksLikeOption : Text → Bool
  | '-' :: _ :: _ => true
  | _ => false

/-- Adds options from left to right. Nothing after a call for help matters, which is what the
empty result says. -/
def addAll (line : Line) : List (OptionKey × Text) → Except Misuse (Option Line)
  | [] => .ok (some line)
  | (key, value) :: options =>
    if key = .help then .ok none
    else do
      let line ← line.add key value
      addAll line options

inductive Sorting
  /-- Options may follow. The last one may still lack its value. -/
  | open (line : Line) (lacking : Option OptionKey)
  /-- Only texts follow. -/
  | closed (line : Line)
  /-- Help is called for, and nothing more matters. -/
  | help
deriving DecidableEq, Repr

namespace Sorting

def add (known : List OptionKey) : Sorting → Text → Except Misuse Sorting
  | .help, _ => .ok .help
  | .closed line, arg => .ok (.closed { line with texts := line.texts ++ [arg] })
  | .open line (some key), value =>
    if looksLikeOption value then .error (.missingValue key)
    else (line.add key value).map (.open · none)
  | .open line none, arg => do
    match ← readWord known arg with
    | .textsFollow => return .closed line
    | .text s => return .open { line with texts := line.texts ++ [s] } none
    | .options complete lacking =>
      match ← addAll line complete with
      | none => return .help
      | some line => return .open line lacking

def finish : Sorting → Except Misuse (Option Line)
  | .help => .ok none
  | .closed line | .open line none => .ok (some line)
  | .open _ (some key) => .error (.missingValue key)

end Sorting

def readLine (known : List OptionKey) (args : List Text) : Except Misuse (Option Line) := do
  (← args.foldlM (Sorting.add known) (.open Line.empty none)).finish

inductive Name
  | parse
  | style
deriving DecidableEq, Repr

namespace Name

def text : Name → Text
  | .parse => "parse".toList
  | .style => "style".toList

def ofText? (s : Text) : Option Name :=
  [parse, style].find? (·.text = s)

def options : Name → List OptionKey
  | .parse => [.config, .prefixText, .verbose, .help, .pretty]
  | .style => [.config, .prefixText, .verbose, .help, .objectFit, .width, .height, .source, .json]

end Name

inductive Request
  | version
  | help (about : Option Name)
  | run (name : Name) (line : Line)
deriving DecidableEq, Repr

def readCommand (name : Name) (args : List Text) : Except Misuse Request := do
  match ← readLine name.options args with
  | none => return .help (some name)
  | some line => return .run name line

def readHelp : List Text → Except Misuse Request
  | [] => .ok (.help none)
  | [name] =>
    match Name.ofText? name with
    | some name => .ok (.help (some name))
    | none => if name = "help".toList then .ok (.help none) else .error (.unknownCommand name)
  | _ :: name :: _ => .error (.unknownCommand name)

def Request.ofArgs : List Text → Except Misuse Request
  | [] => .error .noCommand
  | arg :: args =>
    match Name.ofText? arg with
    | some name => readCommand name args
    | none =>
      if arg = "help".toList then readHelp args
      else if arg = "--version".toList then .ok .version
      else if arg = "--help".toList then .ok (.help none)
      else match arg with
        | '-' :: 'V' :: _ => .ok .version
        | '-' :: 'h' :: _ => .ok (.help none)
        | '-' :: _ :: _ => .error (.unknownOption arg)
        | name => .error (.unknownCommand name)

end AltStyle.Command
