import AltStyle.Toml.Scalar
import AltStyle.Toml.Table

/-! Reading TOML 1.1 documents. -/
namespace AltStyle.Toml

/-- Items with commas between them up to a closing bracket, read after the opening one. The
last item may have a comma too. No more than the given number are read. -/
def itemsWithin? {α : Type} (close : Char) (item : Text → Option (α × Text)) :
    Nat → Text → Option (List α × Text)
  | 0, _ => none
  | n + 1, s =>
    match skipGaps s with
    | [] => none
    | c :: rest =>
      if c = close then some ([], rest)
      else (item (c :: rest)).bind fun (x, rest) =>
        match skipGaps rest with
        | ',' :: rest => (itemsWithin? close item n rest).map fun (xs, after) => (x :: xs, after)
        | c :: rest => if c = close then some ([x], rest) else none
        | [] => none

def items? {α : Type} (close : Char) (item : Text → Option (α × Text)) (s : Text) :
    Option (List α × Text) :=
  itemsWithin? close item (s.length + 1) s

def keyValue? (skip : Text → Text) (value : Text → Option (Value × Text)) (s : Text) :
    Option ((List Text × Value) × Text) := do
  let (keys, rest) ← keys? s
  let rest ← Text.after? ['='] (skip rest)
  let (v, rest) ← value (skip rest)
  some ((keys, v), rest)

def inlineTable? (pairs : List (List Text × Value)) : Option Value :=
  (pairs.foldlM (fun es (keys, v) => assign keys v .inline es) []).map (.table .inline)

def value? (depth : Nat) (s : Text) : Option (Value × Text) :=
  match depth, s with
  | depth + 1, '[' :: s =>
    (items? ']' (value? depth) s).map fun (xs, rest) => (.array false xs, rest)
  | depth + 1, '{' :: s =>
    (items? '}' (keyValue? skipGaps (value? depth)) s).bind fun (pairs, rest) =>
      (inlineTable? pairs).map fun v => (v, rest)
  | _, '"' :: _ | _, '\'' :: _ => (string? s).map fun (text, rest) => (.string text, rest)
  | _, _ => scalar? s

def maxDepth : Nat := 80

inductive Statement
  | table (header : List Text)
  | element (header : List Text)
  | pair (keys : List Text) (value : Value)

def header? (close : Text) (s : Text) : Option (List Text × Text) := do
  let (keys, rest) ← keys? (skipBlanks s)
  let rest ← Text.after? close (skipBlanks rest)
  some (keys, rest)

def statement? : Text → Option (Statement × Text)
  | '[' :: '[' :: s => (header? [']', ']'] s).map fun (keys, rest) => (.element keys, rest)
  | '[' :: s => (header? [']'] s).map fun (keys, rest) => (.table keys, rest)
  | s => (keyValue? skipBlanks (value? maxDepth) s).map fun ((keys, v), rest) => (.pair keys v, rest)

def statementsWithin? : Nat → Text → Option (List Statement)
  | 0, _ => none
  | n + 1, s =>
    match skipGaps s with
    | [] => some []
    | '#' :: s => if s.all isPlain then some [] else none
    | s => do
      let (statement, rest) ← statement? s
      let rest ← afterRestOfLine? rest
      let others ← statementsWithin? n rest
      some (statement :: others)

structure Draft where
  root : Entries
  header : List Text

def Draft.add (d : Draft) : Statement → Option Draft
  | .table header => (openTable header d.root).map fun root => ⟨root, header⟩
  | .element header => (openElement header d.root).map fun root => ⟨root, header⟩
  | .pair keys v => (assignUnder d.header keys v d.root).map fun root => ⟨root, d.header⟩

def dropMark : Text → Text
  | '\ufeff' :: s => s
  | s => s

def document? (s : Text) : Option Entries := do
  let s := dropMark s
  let statements ← statementsWithin? (s.length + 1) s
  let draft ← statements.foldlM Draft.add ⟨[], []⟩
  some draft.root

end AltStyle.Toml
