import AltStyle.Toml.Value

/-! How the lines of a document build up its tables. Each table may be defined only once, by a
header, by dotted keys or between braces, but headers may come in any order: a table that
others only lie in may still get a header of its own, or else be defined by dotted keys. -/
namespace AltStyle.Toml

/-- Changes the entries of the table to which the keys lead. Tables that are missing on the way
come to be with the origin `fresh`. For those that are there `enter?` gives the origin that they
have from then on, or none if they may not be entered. A key of an array of tables leads to the
last of them. -/
def changeAt (enter? : Origin → Option Origin) (fresh : Origin)
    (change : Origin → Entries → Option Entries) :
    List Text → Origin → Entries → Option Entries
  | [], origin, es => change origin es
  | key :: keys, _, es =>
    match es.get? key with
    | none =>
      (changeAt enter? fresh change keys fresh []).map fun inner =>
        es.put key (.table fresh inner)
    | some (.table origin inner) =>
      (enter? origin).bind fun origin =>
        (changeAt enter? fresh change keys origin inner).map fun inner =>
          es.put key (.table origin inner)
    | some (.array true items) =>
      match items.getLast? with
      | some (.table origin inner) =>
        (changeAt enter? fresh change keys origin inner).map fun inner =>
          es.put key (.array true (items.dropLast ++ [.table origin inner]))
      | _ => none
    | some _ => none

def byHeader? : Origin → Option Origin
  | .inline => none
  | origin => some origin

/-- A dotted key may lead through a table that has no header of its own, and then it counts as
defined by dotted keys, so that it cannot be given a header any more. -/
def byDots? : Origin → Option Origin
  | .implied | .dotted => some .dotted
  | .header | .inline => none

def changeAbove (change : Text → Entries → Option Entries) (keys : List Text) (root : Entries) :
    Option Entries :=
  match keys.getLast? with
  | none => none
  | some key =>
    changeAt byHeader? .implied (fun _ es => change key es) keys.dropLast .header root

def openTable : List Text → Entries → Option Entries :=
  changeAbove fun key es =>
    match es.get? key with
    | none => some (es.put key (.table .header []))
    | some (.table .implied inner) => some (es.put key (.table .header inner))
    | some _ => none

def openElement : List Text → Entries → Option Entries :=
  changeAbove fun key es =>
    match es.get? key with
    | none => some (es.put key (.array true [.table .header []]))
    | some (.array true items) => some (es.put key (.array true (items ++ [.table .header []])))
    | some _ => none

/-- Gives a dotted key its value inside a table. Dotted keys define the tables that they name,
so they cannot add to one that was defined in another way. -/
def assign (keys : List Text) (value : Value) (origin : Origin) (es : Entries) : Option Entries :=
  match keys.getLast? with
  | none => none
  | some key =>
    changeAt byDots? .dotted
      (fun o es =>
        if (1 < keys.length ∧ o ≠ .dotted) ∨ (es.get? key).isSome then none
        else some (es.put key value))
      keys.dropLast origin es

def assignUnder (header keys : List Text) (value : Value) (root : Entries) : Option Entries :=
  changeAt byHeader? .implied (assign keys value) header .header root

end AltStyle.Toml
