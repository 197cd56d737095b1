import SignOn.Text.Blank

/-
This file names the versions of the protocol.
-/

namespace SignOn

open SignOn.Text

inductive Protocol
  | cas10
  | cas20
  | cas30
  | saml11
  deriving DecidableEq, Repr, Inhabited

namespace Protocol

def name : Protocol → String
  | .cas10 => "cas1"
  | .cas20 => "cas2"
  | .cas30 => "cas3"
  | .saml11 => "saml11"

/-- Descriptions of whole values use these names. -/
def longName : Protocol → String
  | .cas10 => "Cas10"
  | .cas20 => "Cas20"
  | .cas30 => "Cas30"
  | .saml11 => "Saml11"

/-- Only two versions hand out proxy-granting tickets. -/
def supportsProxying : Protocol → Bool
  | .cas20 | .cas30 => true
  | .cas10 | .saml11 => false

/-- Every version has three spellings, with or without a point or with its first number alone. -/
def ofSpelling? : String → Option Protocol
  | "cas1" | "cas10" | "cas1.0" => some .cas10
  | "cas2" | "cas20" | "cas2.0" => some .cas20
  | "cas3" | "cas30" | "cas3.0" => some .cas30
  | "saml" | "saml11" | "saml1.1" => some .saml11
  | _ => none

/-- The spelling that a setting is compared in has no blanks around it and no capitals. -/
def normalSpelling (text : String) : String :=
  String.ofList (lowerAscii (strip isBlank text.toList))

def read? (text : String) : Option Protocol := ofSpelling? (normalSpelling text)

/-- Stored values spell a version only by its name. -/
def ofName? (text : String) : Option Protocol :=
  [cas10, cas20, cas30, saml11].find? (·.name == text)

end Protocol

end SignOn
