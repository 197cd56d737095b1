import SignOn.Url.Domain.Table.Mark

/-
This file tells which characters belong to the character before them.
-/

namespace SignOn.Url.Domain

open SignOn.Text

/-- Marks come after ASCII and the letters of Latin scripts. -/
def isMark (character : Char) : Bool :=
  0x300 ≤ character.toNat &&
    (Table.nonspacingMarks.contains character || Table.spacingMarks.contains character)

/-- These marks have the direction of the character before them. -/
def isUndirectedMark (character : Char) : Bool :=
  Table.nonspacingMarks.contains character || character.toNat == 0x1171E

/-- Letters join across these marks. -/
def isPassedOver (character : Char) : Bool :=
  Table.nonspacingMarks.contains character ||
    [0xCBF, 0xCC6, 0x11A07, 0x11A08, 0x11C3F, 0x1E94B].contains character.toNat

end SignOn.Url.Domain
