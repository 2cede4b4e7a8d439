import AltStyle.Text.Basic

/-! Finite file trees, the paths in them, and the search for the nearest file of a name. -/
namespace AltStyle

/-- The names that lead from the root to a node, the last one first. -/
abbrev Place := List Text

namespace Place

def below? (base place : Place) : Option Text :=
  (go base.reverse place.reverse).map fun names => ['/'].intercalate names
where
  go : List Text → List Text → Option (List Text)
    | [], names => some names
    | b :: base, n :: names => if b = n then go base names else none
    | _ :: _, [] => none

def text (place : Place) : Text :=
  '/' :: ['/'].intercalate place.reverse

def ofText (path : Text) : Place :=
  let (first, others) := Text.split '/' path
  ((first :: others).filter (· ≠ [])).reverse

def steps (cwd : Place) (path : Text) : Place × List Text :=
  match path with
  | '/' :: path => ([], (Text.split '/' path).1 :: (Text.split '/' path).2)
  | path => (cwd, (Text.split '/' path).1 :: (Text.split '/' path).2)

def step (place : Place) (name : Text) : Place :=
  if name = [] ∨ name = ['.'] then place
  else if name = ['.', '.'] then place.tail
  else name :: place

def follow (cwd : Place) (path : Text) : Place :=
  let (start, names) := steps cwd path
  names.foldl step start

def upward (name : Text) : Place → List Place
  | [] => [[name]]
  | d :: above => (name :: d :: above) :: upward name above

end Place

/-- What a stat of a place finds. So a link is what it leads to, and one that leads nowhere is
no node. -/
inductive Node
  | directory
  | file (content : ByteArray)
  | unreadable

/-- The nodes of a tree, each with its place. The root is always a directory. -/
structure FileTree where
  nodes : List (Place × Node)

namespace FileTree

def empty : FileTree :=
  ⟨[]⟩

def node? (t : FileTree) (place : Place) : Option Node :=
  if place = [] then some .directory
  else (t.nodes.find? (·.1 = place)).map (·.2)

def isDirectory (t : FileTree) (place : Place) : Bool :=
  match t.node? place with
  | some .directory => true
  | _ => false

def addDirectory (t : FileTree) : Place → FileTree
  | [] => t
  | name :: above =>
    let t := t.addDirectory above
    if (t.node? (name :: above)).isSome then t else ⟨t.nodes ++ [(name :: above, .directory)]⟩

def add (t : FileTree) (place : Place) (node : Node) : FileTree :=
  ⟨(t.addDirectory place.tail).nodes ++ [(place, node)]⟩

/-- Follows the names from a directory. Each step, also one that stays, has to start at a
directory. -/
def walk? (t : FileTree) (place : Place) : List Text → Option Place
  | [] => some place
  | name :: names => if t.isDirectory place then t.walk? (place.step name) names else none

def resolve? (t : FileTree) (cwd : Place) (path : Text) : Option Place :=
  if path = [] then none
  else
    let (start, names) := Place.steps cwd path
    t.walk? start names

def open? (t : FileTree) (cwd : Place) (path : Text) : Option Node :=
  (t.resolve? cwd path).bind t.node?

def addPath (t : FileTree) (cwd : Place) (path : Text) (node : Node) : FileTree :=
  let (start, names) := Place.steps cwd path
  go t start names
where
  go (t : FileTree) (place : Place) : List Text → FileTree
    | [] => t.add place node
    | name :: names => go (t.addDirectory place) (place.step name) names

def nearest? (t : FileTree) (name : Text) (directory : Place) : Option Place :=
  (directory.upward name).find? fun place => (t.node? place).isSome

end FileTree
end AltStyle
