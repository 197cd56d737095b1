import SignOn.Url.Domain
import SignOn.Url.Fault
import SignOn.Url.Percent

/-
This file reads and writes the hosts of addresses.
-/

namespace SignOn.Url

open SignOn.Text

/-- A host has a name or a number, which has sixteen-bit pieces in the longer format. -/
inductive Host
  | name (characters : List Char)
  | ipv4 (address : Nat)
  | ipv6 (pieces : List Nat)
  deriving DecidableEq, Repr

/-- These characters have no place in the name of a host. -/
def isForbiddenInHost (character : Char) : Bool :=
  isOneOf ['\x00', '\t', '\n', '\r', ' ', '#', '/', ':', '<', '>', '?', '@', '[', '\\', ']', '^',
    '|'] character

/-- A part of a number may be written in base sixteen, eight or ten, and may be too large. -/
def ipv4Part? (characters : List Char) : Option Nat :=
  let (base, digits) :=
    match characters with
    | '0' :: 'x' :: rest => (16, rest)
    | '0' :: 'X' :: rest => (16, rest)
    | '0' :: digit :: rest => (8, digit :: rest)
    | _ => (10, characters)
  if characters.isEmpty then none
  else digits.foldlM (fun value digit => (digitValue? base digit).map (value * base + ·)) 0

/-- A name whose last part is a number is an address. -/
def endsInNumber (characters : List Char) : Bool :=
  let reversed := (pieces (· == '.') characters).reverse
  let last :=
    match reversed with
    | [] :: last :: _ => last
    | last :: _ => last
    | [] => []
  !last.isEmpty && (last.all Char.isDigit || (ipv4Part? last).isSome)

/-- A number of so many bytes is below this limit. -/
def byteLimit (bytes : Nat) : Nat := 1 <<< (8 * bytes)

/-- The last part fills all bytes that the parts before it leave. -/
def ipv4Address? (numbers : List Nat) : Option Nat :=
  match numbers.reverse with
  | [] => none
  | last :: others =>
    let room := byteLimit (4 - others.length)
    if others.length ≤ 3 ∧ others.all (· ≤ 255) ∧ last < room then
      some (others.foldr (fun part value => value * 256 + part) 0 * room + last)
    else none

def readIpv4 (characters : List Char) : Except Fault Host :=
  let parts := pieces (· == '.') characters
  let parts := if parts.getLast? = some [] then parts.dropLast else parts
  match (parts.mapM ipv4Part?).bind ipv4Address? with
  | none => .error .invalidIpv4
  | some address => .ok (.ipv4 address)

/-- A piece has one to four hexadecimal digits. -/
def ipv6Piece? (characters : List Char) : Option Nat :=
  if 1 ≤ characters.length ∧ characters.length ≤ 4 then
    characters.foldlM (fun value digit => (digitValue? 16 digit).map (value * 16 + ·)) 0
  else none

/-- A decimal byte has no zero before its first digit. -/
def decimalByte? (characters : List Char) : Option Nat :=
  match characters with
  | [] => none
  | '0' :: _ :: _ => none
  | _ =>
    (characters.foldlM (fun value digit => (digitValue? 10 digit).map (value * 10 + ·)) 0).filter
      (· ≤ 255)

/-- The last two pieces may be written as four decimal bytes. -/
def ipv4Pieces? (characters : List Char) : Option (List Nat) := do
  match ← (pieces (· == '.') characters).mapM decimalByte? with
  | [first, second, third, fourth] => some [first * 256 + second, third * 256 + fourth]
  | _ => none

def ipv6Pieces? (parts : List (List Char)) : Option (List Nat) :=
  match parts.reverse with
  | [] => some []
  | last :: others => do
    let front ← others.reverse.mapM ipv6Piece?
    if last.contains '.' then return front ++ (← ipv4Pieces? last)
    else return front ++ [← ipv6Piece? last]

def splitParts (characters : List Char) : List (List Char) :=
  if characters.isEmpty then [] else pieces (· == ':') characters

/-- A text is cut at its first two colons in a row. -/
def splitAtGap? (newestFirst : List Char) : List Char → Option (List Char × List Char)
  | ':' :: ':' :: rest => some (newestFirst.reverse, rest)
  | character :: rest => splitAtGap? (character :: newestFirst) rest
  | [] => none

/-- Two colons in a row stand for as many zeros as are missing, at least one. -/
def readIpv6 (characters : List Char) : Except Fault Host :=
  let pieces? :=
    match splitAtGap? [] characters with
    | none => (ipv6Pieces? (splitParts characters)).filter (·.length = 8)
    | some (before, behind) => do
      let front ← (splitParts before).mapM ipv6Piece?
      let back ← ipv6Pieces? (splitParts behind)
      if front.length + back.length ≤ 7 then
        return front ++ List.replicate (8 - front.length - back.length) 0 ++ back
      else none
  match pieces? with
  | none => .error .invalidIpv6
  | some pieces => .ok (.ipv6 pieces)

/-- A host in brackets is an address of the longer format. -/
def readBracketed (rest : List Char) : Except Fault Host :=
  if rest.getLast? = some ']' then readIpv6 rest.dropLast else .error .invalidIpv6

/-- The host of a web address is a name in ASCII or a number. -/
def Host.readDomain (characters : List Char) : Except Fault Host :=
  match characters with
  | '[' :: rest => readBracketed rest
  | _ =>
    match (percentDecode? characters).bind Domain.ascii? with
    | none => .error .invalidDomain
    | some [] => .error .emptyHost
    | some domain => if endsInNumber domain then readIpv4 domain else .ok (.name domain)

/-- The host of any other address is kept as it is written. -/
def Host.readOpaque (characters : List Char) : Except Fault Host :=
  match characters with
  | '[' :: rest => readBracketed rest
  | _ =>
    if characters.any isForbiddenInHost then .error .invalidHostCharacter
    else .ok (.name (percentEncode escapesControl characters))

def writeIpv4 (address : Nat) : String :=
  ".".intercalate ([3, 2, 1, 0].map fun place => toString (address / byteLimit place % 256))

/-- How many zeros a list begins with. -/
def zeroRun (pieces : List Nat) : Nat := (pieces.takeWhile (· == 0)).length

/-- The first of the longest runs of at least two zeros is left out. -/
def longestGap (pieces : List Nat) : Option (Nat × Nat) :=
  let runs := (List.range pieces.length).map fun index => (index, zeroRun (pieces.drop index))
  let best := runs.foldl (fun best run => if best.2 < run.2 then run else best) (0, 1)
  if 2 ≤ best.2 then some best else none

def writePiece (piece : Nat) : String := String.ofList (Nat.toDigits 16 piece)

def writePieces (pieces : List Nat) : String := ":".intercalate (pieces.map writePiece)

def writeIpv6 (pieces : List Nat) : String :=
  match longestGap pieces with
  | none => writePieces pieces
  | some (start, length) =>
    writePieces (pieces.take start) ++ "::" ++ writePieces (pieces.drop (start + length))

def Host.write : Host → String
  | .name characters => String.ofList characters
  | .ipv4 address => writeIpv4 address
  | .ipv6 pieces => "[" ++ writeIpv6 pieces ++ "]"

end SignOn.Url
