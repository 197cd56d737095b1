/-
This file names the blank characters and cuts text at them.
-/

namespace SignOn.Text

/-- The characters with the Unicode property White_Space are blank. -/
def isBlank (character : Char) : Bool :=
  let code := character.toNat
  (0x09 ≤ code && code ≤ 0x0D) || code == 0x20 || code == 0x85 || code == 0xA0 ||
    code == 0x1680 || (0x2000 ≤ code && code ≤ 0x200A) || code == 0x2028 || code == 0x2029 ||
    code == 0x202F || code == 0x205F || code == 0x3000

/-- The longest final stretch of unwanted characters is dropped. -/
def dropTrailing (unwanted : Char → Bool) (characters : List Char) : List Char :=
  (characters.reverse.dropWhile unwanted).reverse

/-- Unwanted characters are dropped at both ends and kept inside. -/
def strip (unwanted : Char → Bool) (characters : List Char) : List Char :=
  dropTrailing unwanted (characters.dropWhile unwanted)

/-- Blank characters around a text are dropped. -/
def trim (text : String) : String :=
  String.ofList (strip isBlank text.toList)

/-- A text is blank when it holds no other characters. -/
def isBlankText (text : String) : Bool :=
  text.toList.all isBlank

/-- A list is cut at every separator, and empty pieces are kept. -/
def pieces (isSeparator : Char → Bool) (characters : List Char) : List (List Char) :=
  characters.splitOnP isSeparator

/-- The words of a text are its longest stretches without blanks. -/
def words (characters : List Char) : List String :=
  ((pieces isBlank characters).filter fun piece => !piece.isEmpty).map String.ofList

/-- A list is cut at its first separator, which neither half keeps. -/
def splitFirst? (separator : Char) (characters : List Char) : Option (List Char × List Char) :=
  match characters.dropWhile (· != separator) with
  | [] => none
  | _ :: rest => some (characters.takeWhile (· != separator), rest)

/-- The first line ends before a line feed, which takes one carriage return before it along. -/
def firstLine? (characters : List Char) : Option (List Char × List Char) :=
  match characters with
  | [] => none
  | _ =>
    match splitFirst? '\n' characters with
    | none => some (characters, [])
    | some (line, rest) =>
      if line.getLast? = some '\r' then some (line.dropLast, rest) else some (line, rest)

/-- ASCII letters are lowered and all other characters are kept. -/
def lowerAscii (characters : List Char) : List Char :=
  characters.map Char.toLower

end SignOn.Text
