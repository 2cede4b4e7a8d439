/-! Texts, their size in UTF-8 and their white space. -/
namespace AltStyle

/-- Texts are lists of characters, so that readers, writers and grammars share one view of
them. -/
abbrev Text := List Char

namespace Text

/-- Size in UTF-8. All offsets into texts are counted in its bytes. -/
def byteLength : Text → Nat
  | [] => 0
  | c :: s => c.utf8Size + byteLength s

@[simp] theorem byteLength_nil : byteLength [] = 0 := rfl

@[simp] theorem byteLength_cons (c : Char) (s : Text) :
    byteLength (c :: s) = c.utf8Size + byteLength s := rfl

@[simp] theorem byteLength_append (s t : Text) :
    byteLength (s ++ t) = byteLength s + byteLength t := by
  induction s with
  | nil => simp
  | cons c s ih => simp [ih, Nat.add_assoc]

/-- The characters with the property White_Space. -/
def isWhiteSpace (c : Char) : Bool :=
  let n := c.toNat
  (9 ≤ n && n ≤ 13) || n == 0x20 || n == 0x85 || n == 0xa0 || n == 0x1680 ||
    (0x2000 ≤ n && n ≤ 0x200a) || n == 0x2028 || n == 0x2029 || n == 0x202f ||
    n == 0x205f || n == 0x3000

def isBlank (s : Text) : Bool :=
  s.all isWhiteSpace

def trim (s : Text) : Text :=
  ((s.dropWhile isWhiteSpace).reverse.dropWhile isWhiteSpace).reverse

def split (separator : Char) : Text → Text × List Text
  | [] => ([], [])
  | c :: s =>
    let (first, others) := split separator s
    if c = separator then ([], first :: others) else (c :: first, others)

def isHexDigit (c : Char) : Bool :=
  c.isDigit || ('a' ≤ c && c ≤ 'f') || ('A' ≤ c && c ≤ 'F')

def after? : Text → Text → Option Text
  | [], s => some s
  | _ :: _, [] => none
  | c :: beginning, d :: s => if c = d then after? beginning s else none

theorem after?_eq_some_iff {beginning s rest : Text} :
    after? beginning s = some rest ↔ s = beginning ++ rest := by
  fun_induction after? beginning s with
  | case1 s => simp
  | case2 => simp
  | case3 beginning c s ih => simpa using ih
  | case4 beginning s c d differ =>
    simp [Ne.symm differ]

end Text
end AltStyle
