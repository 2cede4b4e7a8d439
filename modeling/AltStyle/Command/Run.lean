import AltStyle.Command.Action
import AltStyle.Command.Line
import AltStyle.Json.Encode
import AltStyle.Style.Dimensions
import AltStyle.Style.FileType

/-! What the program does: it reads alt texts and writes what it makes of each. Its help, in
`usage`, is a sketch that lists the commands and their options, and nothing depends on its
words. -/
namespace AltStyle.Command

structure Outcome where
  code : Nat
  output : Text
  messages : Text
deriving DecidableEq, Repr

def prefixVariable : Text :=
  "OIS_PREFIX".toList

def overrides (env : Environment) (line : Line) : Config.Overrides where
  prefixText := (line.value? .prefixText).or (env.get? prefixVariable)
  objectFit := (line.value? .objectFit).bind ObjectFit.ofName?

def configFor (w : Surroundings) (line : Line) : Except Config.Error Config :=
  Config.load w (line.value? .config) (overrides w.env line)

/-- Whether the command has to read its input. It does so only when there is a configuration
and the line has no texts. -/
def readsInput (w : Surroundings) (line : Line) : Bool :=
  line.texts.isEmpty && (match configFor w line with
    | .ok _ => true
    | .error _ => false)

def document (line : Line) (p : Prefix) (alt : Text) : Text :=
  let json := directivesJson (Directive.parse p alt)
  if line.has .pretty then Json.pretty json else Json.compact json

namespace Action

def printDirectives (line : Line) (p : Prefix) (alt : Text) : Action Unit :=
  print (document line p alt)

def printAttributes (image : Image) : Action Unit := do
  print ("class=\"".toList ++ [' '].intercalate image.classes ++ ['"'])
  print ("style=\"".toList ++ image.styleAttributeHtml ++ ['"'])
  if let some label := image.labelText? then
    tell .highlight ("Label: ".toList ++ label)
  if image.isBanner then
    tell .highlight "Banner: enclosing block gets ois-banner-container".toList

def printImage (line : Line) (p : Prefix) (fit : ObjectFit) (alt : Text) : Action Unit :=
  match (line.value? .source).filter fun source => !Style.isStyleable source alt with
  | some source => tell .warning ("Skipping ".toList ++ source ++ ": not a styleable image".toList)
  | none =>
    let image := Image.ofAlt p fit ⟨line.value? .width, line.value? .height⟩ alt
    if line.has .json then print (Json.compact image.toJson) else printAttributes image

def printResult (name : Name) (line : Line) (p : Prefix) (fit : ObjectFit) (alt : Text) :
    Action Unit :=
  match name with
  | .parse => printDirectives line p alt
  | .style => printImage line p fit alt

def decode (bytes : List UInt8) : Action Text :=
  match Text.ofBytes? bytes.toByteArray with
  | some s => pure (Text.dropLineEnd s)
  | none => throw .inputNotText

def readLines : List (List UInt8) → Action (List Text)
  | [] => return []
  | bytes :: others => do
    let s ← decode bytes
    let texts ← readLines others
    return if Text.isBlank s then texts else s :: texts

def altTexts (line : Line) (input : ByteArray) : Action (List Text) :=
  if line.texts ≠ [] then return line.texts else readLines (Text.cutLines input.data.toList)

def command (w : Surroundings) (input : ByteArray) (name : Name) (line : Line) : Action Unit := do
  let config ← ofConfig (configFor w line)
  let p ← ofConfig config.currentPrefix
  let alts ← altTexts line input
  alts.forM (printResult name line p config.settings.objectFit)

end Action

def versionLine : Text :=
  "ois 0.1.24".toList

def usage : Option Name → List Text
  | none =>
    ["Image-styling directives in alt text".toList, [],
      "Usage: ois <COMMAND>".toList, [],
      "Commands:".toList,
      "  parse  Parse alt texts into directives".toList,
      "  style  Compute CSS classes and properties for alt texts".toList,
      "  help   Print this message or the help of the given command".toList, [],
      "Options:".toList,
      "  -h, --help     Print help".toList,
      "  -V, --version  Print version".toList]
  | some name =>
    ["Usage: ois ".toList ++ name.text ++ " [OPTIONS] [TEXTS]...".toList, [],
      "Options:".toList] ++
      name.options.map fun key =>
        "  --".toList ++ key.long ++ (if key.takesValue then " <VALUE>".toList else [])

def writeMessages (env : Environment) (messages : List Message) : Text :=
  writeLines (messages.map (Message.written (Message.wantsColour env)))

def Outcome.ofPerformed (env : Environment) : Except Failure Unit × Written → Outcome
  | (.ok (), written) => ⟨0, written.output, writeMessages env written.messages⟩
  | (.error failure, written) =>
    ⟨1, written.output,
      writeMessages env (written.messages ++ [⟨.failure, "Error: ".toList ++ failure.message⟩])⟩

def run (w : Surroundings) (input : ByteArray) (args : List Text) : Outcome :=
  match Request.ofArgs args with
  | .error misuse => ⟨2, [], writeLines ["error: ".toList ++ misuse.message]⟩
  | .ok .version => ⟨0, writeLines [versionLine], []⟩
  | .ok (.help about) => ⟨0, writeLines (usage about), []⟩
  | .ok (.run name line) =>
    Outcome.ofPerformed w.env ((Action.command w input name line).perform Written.nothing)

end AltStyle.Command
