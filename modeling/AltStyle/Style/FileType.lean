import AltStyle.Text.Alphanumeric
import AltStyle.Text.Lowercase

/-! Which sources are images that can be styled. -/
namespace AltStyle.Style

def imageExtensions : List Text :=
  ["png", "webp", "jpg", "jpeg", "gif", "bmp", "svg"].map String.toList

def afterLastPoint? (s : Text) : Option Text :=
  if s.contains '.' then some (s.reverse.takeWhile (· != '.')).reverse else none

/-- The extension of a file name in lower case. There is none if it would be empty or hold
anything but letters, numbers and underscores, as it does with a query behind the name. -/
def extension? (fileName : Text) : Option Text :=
  match afterLastPoint? fileName with
  | none => none
  | some ext =>
    if ext = [] ∨ ext.any (fun c => !Text.isAlphanumeric c && c != '_') then none
    else some (Text.lowercase ext)

/-- Whether an image with this source and alt text is to be styled. An alt text equal to the
source stands there only because nobody wrote one. -/
def isStyleable (source alt : Text) : Bool :=
  alt != source && (match extension? source with
    | some ext => imageExtensions.contains ext
    | none => false)

end AltStyle.Style
