import SignOn.Transport
import SignOn.Url.Address

/-
This file tells which requests are refused before anything is sent.
-/

namespace SignOn

open SignOn.Text

/-- The name of a header is a word of letters, digits and a few marks. -/
def isHeaderNameCharacter (character : Char) : Bool :=
  character.isAlphanum ||
    ['!', '#', '$', '%', '&', '\'', '*', '+', '-', '.', '^', '_', '\x60', '|', '~'].contains character

/-- The longest name of a header has so many characters. -/
def headerNameLimit : Nat := 0xFFFF

def isHeaderName (name : String) : Bool :=
  !name.isEmpty && name.length ≤ headerNameLimit && name.toList.all isHeaderNameCharacter

/-- The value of a header holds no controls except tabs. -/
def isHeaderValue (value : String) : Bool :=
  value.toList.all fun character =>
    character == '\t' || 0x20 ≤ character.toNat && character.toNat ≠ 0x7F

/-- A request that is not refused could be sent. -/
inductive Refusal
  | unreadable
  | wrongScheme (address : Url.Address)
  | unsendable (address : Url.Address)
  deriving DecidableEq

def isWebScheme (scheme : String) : Bool := scheme == "http" || scheme == "https"

/-- The longest address that is sent has so many bytes. -/
def addressLimit : Nat := 0xFFFE

/-- Some marks that a name may hold cannot be sent, and an address must not be too long. -/
def isSendable (address : Url.Address) : Bool :=
  let hasMark :=
    match address.authority.bind (·.host) with
    | some (.name characters) => characters.any ['"', '\x60', '\x7b', '\x7d'].contains
    | _ => false
  !hasMark && address.write.utf8ByteSize ≤ addressLimit

/-- An address without a host is refused first, then headers, then other schemes. -/
def Request.refusal? (request : Request) : Option Refusal :=
  match Url.Address.read request.url with
  | .error _ => some .unreadable
  | .ok address =>
    if !address.hasHost then some (.wrongScheme address)
    else if !request.headers.all (fun header => isHeaderName header.1 && isHeaderValue header.2) then
      some .unreadable
    else
      let shown := address.withoutUserinfo
      if !isWebScheme shown.scheme then some (.wrongScheme shown)
      else if !isSendable shown then some (.unsendable shown)
      else none

/-- A refusal is reported as a failed connection. -/
def Refusal.fault : Refusal → TransportFault
  | .unreadable => .connection "" "builder error"
  | .wrongScheme address | .unsendable address =>
    .connection address.write s!"builder error for url ({address.write})"

end SignOn
