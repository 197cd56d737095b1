import SignOn.Assertion

/-
This file turns assertions into JSON values.
-/

namespace SignOn

/-- Answers need no numbers and no truth values. -/
inductive Json
  | null
  | text (value : String)
  | list (elements : List Json)
  | object (members : List (String × Json))
  deriving Repr, Inhabited

namespace Json

def ofOption : Option String → Json
  | none => .null
  | some value => .text value

def ofAttributeValue : AttributeValue → Json
  | .single value => .text value
  | .multiple values => .list (values.toList.map .text)

def ofAttributes (bag : AttributeBag) : Json :=
  .object (bag.entries.map fun entry => (entry.1, ofAttributeValue entry.2))

/-- The right to get proxy tickets is not shown. -/
def ofPrincipal (principal : Principal) : Json :=
  .object [("name", .text principal.name), ("attributes", ofAttributes principal.attributes)]

def ofAssertion (assertion : Assertion) : Json :=
  .object
    [("principal", ofPrincipal assertion.principal),
      ("valid_from", .text assertion.validFrom.timestamp),
      ("valid_until", ofOption (assertion.validUntil.map Instant.timestamp)),
      ("issued_at", ofOption (assertion.issuedAt.map Instant.timestamp)),
      ("attributes", ofAttributes assertion.attributes)]

/-- Quotes, backslashes and controls are escaped in texts. -/
def escapeCharacter (character : Char) : List Char :=
  if character = '"' then ['\\', '"']
  else if character = '\\' then ['\\', '\\']
  else if character = '\n' then ['\\', 'n']
  else if character = '\r' then ['\\', 'r']
  else if character = '\t' then ['\\', 't']
  else if character.toNat = 0x08 then ['\\', 'b']
  else if character.toNat = 0x0C then ['\\', 'f']
  else if character.toNat < 0x20 then
    ['\\', 'u'] ++ Text.hexColumns character.toNat 4
  else [character]

def writeText (value : String) : String :=
  String.ofList ('"' :: value.toList.flatMap escapeCharacter ++ ['"'])

mutual

def write (json : Json) : String :=
  match json with
  | .null => "null"
  | .text value => writeText value
  | .list elements => "[" ++ ",".intercalate (writeElements elements) ++ "]"
  | .object members => "\x7b" ++ ",".intercalate (writeMembers members) ++ "\x7d"

def writeElements (elements : List Json) : List String :=
  match elements with
  | [] => []
  | element :: others => element.write :: writeElements others

def writeMembers (members : List (String × Json)) : List String :=
  match members with
  | [] => []
  | (name, value) :: others => (writeText name ++ ":" ++ value.write) :: writeMembers others

end

end Json

end SignOn
