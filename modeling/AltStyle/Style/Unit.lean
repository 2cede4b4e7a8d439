import AltStyle.Text.Basic

/-! The unit of numbers that are written without one. -/
namespace AltStyle.Style

def unitTable : List (Text × List Text) :=
  [("px".toList, ["h", "w", "round", "border", "card", "banner", "crop", "shadow", "info"].map
      String.toList),
    ("em".toList, ["icon", "sticker", "label", "font"].map String.toList),
    ("%".toList, ["up", "down", "left", "right"].map String.toList)]

def defaultUnit? (directive : Text) : Option Text :=
  (unitTable.find? fun (_, directives) => directives.contains directive).map (·.1)

end AltStyle.Style
