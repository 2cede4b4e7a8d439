import AltStyle.Command.Run

/-! The program as it runs on a machine. It gathers what the run depends on, and everything
else is decided by `Command.run`. -/
namespace AltStyle.Machine

/-- What a stat of the path finds. What it cannot reach is not there, and what is there need
not be readable. -/
def look (path : Text) : IO (Option Node) := do
  let path := System.mkFilePath [String.ofList path]
  unless ← path.pathExists do return none
  if ← path.isDir then return some .directory
  let .ok content ← (IO.FS.readBinFile path).toBaseIO | return some .unreadable
  return some (.file content)

def treeFor (cwd : Place) (line : Command.Line) : IO FileTree := do
  match line.value? .config with
  | some path =>
    match ← look path with
    | some node => return FileTree.empty.addPath cwd path node
    | none => return FileTree.empty
  | none =>
    (cwd.upward Config.fileName).foldlM (fun tree place => do
      match ← look place.text with
      | some node => return tree.add place node
      | none => return tree) FileTree.empty

def environment (names : List Text) : IO Environment := do
  let bindings ← names.filterMapM fun name => do
    return (← IO.getEnv (String.ofList name)).map fun value => (name, value.toList)
  return ⟨bindings⟩

def surroundings (line : Command.Line) : IO Surroundings := do
  let cwd := Place.ofText (← IO.currentDir).toString.toList
  let tree ← treeFor cwd line
  let names := tree.nodes.flatMap fun (_, node) => Config.variablesIn node
  return ⟨tree, cwd,
    ← environment (Command.prefixVariable :: Command.Message.colourVariable :: names)⟩

partial def readToEnd (input : IO.FS.Stream) (bytes : ByteArray) : IO ByteArray := do
  let more ← input.read 65536
  if more.isEmpty then return bytes else readToEnd input (bytes ++ more)

def run (args : List Text) : IO Command.Outcome := do
  match Command.Request.ofArgs args with
  | .ok (.run _ line) =>
    let w ← surroundings line
    let input ←
      if Command.readsInput w line then readToEnd (← IO.getStdin) ByteArray.empty
      else pure ByteArray.empty
    return Command.run w input args
  | _ => return Command.run ⟨FileTree.empty, [], ⟨[]⟩⟩ ByteArray.empty args

end AltStyle.Machine

def main (args : List String) : IO UInt32 := do
  let outcome ← AltStyle.Machine.run (args.map String.toList)
  (← IO.getStdout).putStr (String.ofList outcome.output)
  (← IO.getStderr).putStr (String.ofList outcome.messages)
  return outcome.code.toUInt32
