import SignOn.AttributeBag
import SignOn.ProxyChain
import SignOn.ProxyTicket

/-
This file holds what a validated ticket says about its user.
-/

namespace SignOn

open SignOn.Text

namespace AttributeValue

def describe : AttributeValue → String
  | .single value => wrapped "Single" (quoted value)
  | .multiple values => wrapped "Multiple" (listed (values.toList.map quoted))

end AttributeValue

namespace AttributeBag

def describe (bag : AttributeBag) : String :=
  wrapped "Attributes" (mapped (bag.entries.map fun entry => (quoted entry.1, entry.2.describe)))

end AttributeBag

/-- A principal is an authenticated user, perhaps with the right to get proxy tickets. -/
structure Principal where
  name : String
  attributes : AttributeBag
  capability : Option ProxyCapability
  deriving DecidableEq

namespace Principal

/-- A principal needs a name that is not blank. -/
def create (name : String) (attributes : AttributeBag) : Except Failure Principal :=
  if isBlankText name then .error (.invalidArgument .blankPrincipalName)
  else .ok ⟨name, attributes, none⟩

def canProxy (principal : Principal) : Bool := principal.capability.isSome

/-- Without a capability there is no proxy ticket, and nothing is sent. -/
def proxyTicket (principal : Principal) (transport : Transport) (targetService : String) :
    Traced (Except Failure (Option String)) :=
  match principal.capability with
  | some capability => capability.proxyTicket transport targetService
  | none => do
    Traced.write .debug
      s!"No proxy-granting ticket for {principal.name}; cannot proxy to {targetService}"
    return .ok none

def describe (principal : Principal) : String :=
  recorded "Principal"
    [("name", quoted principal.name), ("attributes", AttributeBag.describe principal.attributes),
      ("can_proxy", toString principal.canProxy)]

end Principal

/-- An assertion says who the principal is and when that holds. -/
structure Assertion where
  principal : Principal
  validFrom : Instant
  validUntil : Option Instant
  issuedAt : Option Instant
  attributes : AttributeBag
  deriving DecidableEq

namespace Assertion

/-- An assertion without a bound holds from its start on. -/
def openEnded (principal : Principal) (validFrom : Instant) : Assertion :=
  ⟨principal, validFrom, none, none, NameMap.empty⟩

/-- An assertion cannot end before it starts. -/
def boundedBy (assertion : Assertion) (validUntil : Instant) : Except Failure Assertion :=
  if validUntil < assertion.validFrom then
    .error (.invalidArgument (.windowInverted validUntil assertion.validFrom))
  else .ok { assertion with validUntil := some validUntil }

/-- An assertion holds from its start to just before its end. -/
def isValidAt (assertion : Assertion) (instant : Instant) : Bool :=
  decide (assertion.validFrom ≤ instant) &&
    match assertion.validUntil with
    | none => true
    | some validUntil => decide (instant < validUntil)

/-- A description names the bounds as documents write them. -/
def describe (assertion : Assertion) : String :=
  recorded "Assertion"
    [("principal", assertion.principal.describe), ("valid_from", assertion.validFrom.timestamp),
      ("valid_until", perhaps (assertion.validUntil.map Instant.timestamp)),
      ("issued_at", perhaps (assertion.issuedAt.map Instant.timestamp)),
      ("attributes", AttributeBag.describe assertion.attributes)]

def withCapability (assertion : Assertion) (capability : ProxyCapability) : Assertion :=
  { assertion with principal := { assertion.principal with capability := some capability } }

end Assertion

/-- A reply is an assertion with what is left to check and to look up. -/
structure Reply where
  assertion : Assertion
  grantingTicketIou : Option String
  proxies : ProxyChain
  deriving DecidableEq

namespace Reply

def ofAssertion (assertion : Assertion) : Reply := ⟨assertion, none, []⟩

end Reply

end SignOn
