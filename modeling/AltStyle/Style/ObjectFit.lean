import AltStyle.Text.Quoted

/-! How an image is scaled inside its container. -/
namespace AltStyle

inductive ObjectFit
  | cover
  | fill
  | contain
deriving DecidableEq, Repr

namespace ObjectFit

def name : ObjectFit → Text
  | .cover => "cover".toList
  | .fill => "fill".toList
  | .contain => "contain".toList

def default : ObjectFit :=
  .cover

structure Unknown where
  text : Text
deriving DecidableEq, Repr

def Unknown.message (u : Unknown) : Text :=
  "Unknown object fit ".toList ++ Text.quoted u.text ++
    " (expected cover, fill or contain)".toList

def ofName? (s : Text) : Option ObjectFit :=
  [cover, fill, contain].find? (·.name = s)

def ofName (s : Text) : Except Unknown ObjectFit :=
  match ofName? s with
  | some fit => .ok fit
  | none => .error ⟨s⟩

end ObjectFit
end AltStyle
