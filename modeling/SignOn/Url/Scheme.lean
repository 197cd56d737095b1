import SignOn.Text.Blank
import SignOn.Url.Percent

/-
This file reads the schemes of addresses and tells which rules they bring.
-/

namespace SignOn.Url

open SignOn.Text

/-- The schemes of the web have rules of their own, and files another set of them. -/
inductive SchemeKind
  | file
  | web (defaultPort : Nat)
  | other
  deriving DecidableEq, Repr

def schemeKind (scheme : String) : SchemeKind :=
  match scheme with
  | "file" => .file
  | "http" | "ws" => .web 80
  | "https" | "wss" => .web 443
  | "ftp" => .web 21
  | _ => .other

def SchemeKind.isSpecial : SchemeKind → Bool
  | .other => false
  | .file | .web _ => true

/-- Slashes separate the parts of a path, and special addresses take backslashes for slashes. -/
def isSlash (isSpecial : Bool) (character : Char) : Bool :=
  character == '/' || isSpecial && character == '\\'

/-- Breaks inside an address do not count. -/
def isBreak (character : Char) : Bool := isOneOf ['\t', '\n', '\r'] character

def withoutBreaks (characters : List Char) : List Char := characters.filter (!isBreak ·)

/-- Controls and spaces around an address are left out. -/
def trimmedAddress (characters : List Char) : List Char :=
  strip (fun character => character.toNat ≤ 0x20) characters

def isSchemeCharacter (character : Char) : Bool :=
  character.isAlphanum || isOneOf ['+', '-', '.'] character

/-- A scheme begins with a letter and ends at the first colon. -/
def splitScheme? (characters : List Char) : Option (String × List Char) :=
  match splitFirst? ':' characters with
  | none => none
  | some (before, behind) =>
    let scheme := withoutBreaks before
    if scheme.head?.any Char.isAlpha && scheme.all isSchemeCharacter then
      some (String.ofList (lowerAscii scheme), behind)
    else none

end SignOn.Url
