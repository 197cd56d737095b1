import SignOn.Markup.Fault
import SignOn.Markup.Reference
import SignOn.Markup.Token

/-
This file reads the name and the attributes in a tag.
-/

namespace SignOn.Markup

open SignOn.Text

/-- A tag has a full name and attributes under their full names, in document order. -/
structure Tag where
  name : String
  attributes : List (String × String)
  deriving DecidableEq, Repr

/-- The next attribute of a tag is missing, cannot be read, or has a key and a value as written. -/
inductive AttributeScan
  | finished
  | malformed
  | found (key written : List Char) (rest : List Char)
  deriving DecidableEq, Repr

def skipSpaces (characters : List Char) : List Char := characters.dropWhile isSpace

def endsKey (character : Char) : Bool := character == '=' || isSpace character

/-- A value stands between two quotes of the same kind. -/
def scanValue (key : List Char) : List Char → AttributeScan
  | quote :: rest =>
    if quote = '"' ∨ quote = '\'' then
      match splitFirst? quote rest with
      | none => .malformed
      | some (written, rest) => .found key written rest
    else .malformed
  | [] => .malformed

/--
The first character of a key can be any but a space. The key goes on to an equals sign or a space,
and spaces may stand around the equals sign.
-/
def scanAttribute (characters : List Char) : AttributeScan :=
  match skipSpaces characters with
  | [] => .finished
  | first :: others =>
    match skipSpaces (others.dropWhile fun character => !endsKey character) with
    | '=' :: rest =>
      scanValue (first :: others.takeWhile fun character => !endsKey character) (skipSpaces rest)
    | _ => .malformed

theorem length_skipSpaces_le (characters : List Char) :
    (skipSpaces characters).length ≤ characters.length :=
  (List.dropWhile_suffix _).length_le

theorem length_of_splitFirst? {separator : Char} {characters first rest : List Char}
    (cut : splitFirst? separator characters = some (first, rest)) :
    rest.length < characters.length := by
  unfold splitFirst? at cut
  split at cut
  · simp at cut
  · rename_i head tail equal
    have shorter : (head :: tail).length ≤ characters.length := by
      rw [← equal]; exact (List.dropWhile_suffix _).length_le
    obtain ⟨-, rfl⟩ := Prod.mk.inj (Option.some.inj cut)
    simp at shorter
    omega

theorem length_of_scanValue {key characters found written rest : List Char}
    (scanned : scanValue key characters = .found found written rest) :
    rest.length < characters.length := by
  cases characters with
  | nil => simp [scanValue] at scanned
  | cons quote tail =>
      unfold scanValue at scanned
      simp only at scanned
      split at scanned
      · split at scanned
        · simp at scanned
        · rename_i equal
          obtain ⟨-, -, rfl⟩ := AttributeScan.found.inj scanned
          have := length_of_splitFirst? equal
          simp
          omega
      · simp at scanned

/-- An attribute takes characters of the tag with it. -/
theorem length_of_scanAttribute {characters key written rest : List Char}
    (scanned : scanAttribute characters = .found key written rest) :
    rest.length < characters.length := by
  unfold scanAttribute at scanned
  split at scanned
  · simp at scanned
  · rename_i first others equal
    have start := length_skipSpaces_le characters
    split at scanned
    · rename_i tail behindKey
      have afterKey := length_skipSpaces_le (others.dropWhile fun character => !endsKey character)
      have key : (others.dropWhile fun character => !endsKey character).length ≤ others.length :=
        (List.dropWhile_suffix _).length_le
      have afterSign := length_skipSpaces_le tail
      have value := length_of_scanValue scanned
      rw [equal] at start
      rw [behindKey] at afterKey
      simp at start afterKey
      omega
    · simp at scanned

/-- Attributes are read from the left, and no key may come twice. -/
def readAttributes (newestFirst : List (String × String)) (characters : List Char) :
    Except Fault (List (String × String)) :=
  match _scanned : scanAttribute characters with
  | .finished => .ok newestFirst.reverse
  | .malformed => .error .malformedAttribute
  | .found key written rest =>
    let key := String.ofList key
    if newestFirst.any fun earlier => earlier.1 == key then .error .malformedAttribute
    else
      match unescape? written with
      | none => .error .badAttributeValue
      | some value => readAttributes ((key, String.ofList value) :: newestFirst) rest
termination_by characters.length
decreasing_by exact length_of_scanAttribute (by assumption)

/-- The name of a tag goes on to its first space. -/
def tagName (content : List Char) : String :=
  String.ofList (content.takeWhile fun character => !isSpace character)

def Tag.read (content : List Char) : Except Fault Tag := do
  let attributes ← readAttributes [] (content.dropWhile fun character => !isSpace character)
  return ⟨tagName content, attributes⟩

/-- A name is split at its first colon into the part before it, if there is one, and the part behind. -/
def splitName (name : String) : Option String × String :=
  match splitFirst? ':' name.toList with
  | none => (none, name)
  | some (before, behind) => (some (String.ofList before), String.ofList behind)

def localName (name : String) : String := (splitName name).2

end SignOn.Markup
