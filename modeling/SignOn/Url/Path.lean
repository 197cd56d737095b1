import SignOn.Url.Scheme

/-
This file reads the paths of addresses.
-/

namespace SignOn.Url

open SignOn.Text

def isSingleDot (segment : List Char) : Bool :=
  lowerAscii segment ∈ [['.'], ['%', '2', 'e']]

def isDoubleDot (segment : List Char) : Bool :=
  lowerAscii segment ∈
    [['.', '.'], ['.', '%', '2', 'e'], ['%', '2', 'e', '.'], ['%', '2', 'e', '%', '2', 'e']]

def isDriveMark (character : Char) : Bool := character == ':' || character == '|'

def isDrive (segment : List Char) : Bool :=
  match segment with
  | [letter, mark] => letter.isAlpha && isDriveMark mark
  | _ => false

/-- A backslash may stand behind a drive. -/
def beginsWithDrive (segment : List Char) : Bool :=
  match segment with
  | letter :: mark :: '\\' :: _ => letter.isAlpha && isDriveMark mark
  | _ => isDrive segment

def normalDrive (segment : List Char) : List Char :=
  segment.take 1 ++ [':']

/-- A break behind the colon of a drive parts it from what follows, as a slash would. -/
def splitDrive? (segment : List Char) : Option (List Char × List Char) :=
  match splitFirst? ':' segment with
  | none => none
  | some (before, behind) =>
    let drive := withoutBreaks before ++ [':']
    let rest := withoutBreaks behind
    if isDrive drive && behind.head?.any isBreak && !rest.isEmpty then some (drive, rest) else none

/-- A walk has passed the segments that a slash follows, newest first. -/
structure Walk where
  passed : List (List Char)
  /-- A walk that begins on a drive needs no host. -/
  isOnDrive : Bool
  deriving DecidableEq, Repr

namespace Walk

def start : Walk := ⟨[], false⟩

/-- The newest segment is left again, but neither the root nor a drive is. -/
def up (walk : Walk) : Walk :=
  match walk.passed with
  | newest :: older => if beginsWithDrive newest then walk else { walk with passed := older }
  | [] => walk

/-- Dots move the walk, and every other segment is written; the first one of a file may be a drive. -/
def turn (isFile : Bool) (walk : Walk) (segment : List Char) : Walk × Option (List Char) :=
  let characters := withoutBreaks segment
  if isDoubleDot characters then (walk.up, none)
  else if isSingleDot characters then (walk, none)
  else if isFile && walk.passed.isEmpty then
    if isDrive characters then ({ walk with isOnDrive := true }, some (normalDrive characters))
    else
      match splitDrive? segment with
      | some (drive, rest) => (⟨[drive], walk.isOnDrive⟩, some (percentEncode escapesInPath rest))
      | none => (walk, some (percentEncode escapesInPath characters))
  else (walk, some (percentEncode escapesInPath characters))

/-- The last segment has no slash behind it. -/
def along (isFile : Bool) (walk : Walk) : List (List Char) → Walk × List Char
  | [] => (walk, [])
  | segment :: others =>
    let (next, written) := walk.turn isFile segment
    if others.isEmpty then (next, written.getD [])
    else along isFile { next with passed := written.toList ++ next.passed } others

end Walk

/-- A written path begins with a slash. -/
structure Path where
  characters : List Char
  isOnDrive : Bool
  deriving DecidableEq, Repr

namespace Path

/-- What stands behind the first slash is read segment by segment, and files have only one slash there. -/
def read (kind : SchemeKind) (characters : List Char) : Path :=
  let isFile := kind == .file
  let (walk, last) := Walk.start.along isFile (pieces (isSlash kind.isSpecial) characters)
  let written := walk.passed.reverse.flatMap (· ++ ['/']) ++ last
  ⟨'/' :: if isFile then written.dropWhile (· == '/') else written, walk.isOnDrive⟩

/-- A slash at the start only separates a path from what is before it. -/
def readBehindHost (kind : SchemeKind) (characters : List Char) : Path :=
  match characters with
  | [] => ⟨if kind.isSpecial then ['/'] else [], false⟩
  | first :: rest => read kind (if isSlash kind.isSpecial first then rest else characters)

end Path

end SignOn.Url
