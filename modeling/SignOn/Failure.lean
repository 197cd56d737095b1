import SignOn.Markup.Fault
import SignOn.Text.Quoted
import SignOn.Time.Instant

/-
This file lists the ways in which the validation of a ticket fails.
-/

namespace SignOn

open SignOn.Text

/-- What is wrong with an argument of the caller. -/
inductive ArgumentFault
  | blankTicket
  | blankService
  | blankPrincipalName
  | windowInverted (validUntil validFrom : Instant)
  | stated (reason : String)
  deriving DecidableEq

def ArgumentFault.message : ArgumentFault → String
  | .blankTicket => "ticket must not be blank"
  | .blankService => "service must not be blank"
  | .blankPrincipalName => "principal name must not be blank"
  | .windowInverted validUntil validFrom =>
    s!"validUntil {validUntil.describe} precedes validFrom {validFrom.describe}"
  | .stated reason => reason

/-- Why no answer came from the server, or none that counts. -/
inductive TransportFault
  | timeout (limit : Span)
  | connection (url reason : String)
  | status (code : Nat)
  deriving DecidableEq

def TransportFault.message : TransportFault → String
  | .timeout limit => s!"Request timed out after {limit.describe}"
  | .connection url reason => s!"Failed to reach CAS server at {url}: {reason}"
  | .status code => s!"CAS server answered with HTTP status {code}"

/-- How an answer departs from the protocol. -/
inductive Violation
  | markup (fault : Markup.Fault)
  | neitherYesNorNo
  | notServiceResponse (found : String)
  | noOutcome
  | notEnvelope (found : String)
  | noSamlResponse
  | foreignSamlResponse (namespaceUri : String)
  | noSamlAssertion
  | windowInverted
  | noProxyOutcome
  | stated (reason : String)
  deriving DecidableEq

def Violation.message : Violation → String
  | .markup fault => fault.message
  | .neitherYesNorNo => "CAS 1.0 response does not start with 'yes' or 'no'"
  | .notServiceResponse found => s!"expected serviceResponse, found {found}"
  | .noOutcome => "neither authenticationSuccess nor authenticationFailure present"
  | .notEnvelope found => s!"expected SOAP Envelope, found {found}"
  | .noSamlResponse => "SOAP body carries no SAML Response"
  | .foreignSamlResponse namespaceUri =>
    s!"SAML Response in unexpected namespace {perhaps (some (quoted namespaceUri))}"
  | .noSamlAssertion => "no SAML assertions found"
  | .windowInverted => "assertion NotOnOrAfter precedes NotBefore"
  | .noProxyOutcome => "proxy response carries neither proxySuccess nor proxyFailure"
  | .stated reason => reason

inductive Failure
  | invalidArgument (fault : ArgumentFault)
  | transport (fault : TransportFault)
  | protocolViolation (violation : Violation)
  | serverRejected (code : Option String) (detail : String)
  | noPrincipal
  | invalidProxyChain (chain : List String)
  | outsideTimeWindow (now : Instant) (toleranceMillis : Nat)
  deriving DecidableEq

def Failure.message : Failure → String
  | .invalidArgument fault => s!"Invalid argument: {fault.message}"
  | .transport fault => s!"Transport error: {fault.message}"
  | .protocolViolation violation => s!"Protocol violation: {violation.message}"
  | .serverRejected none detail => s!"Ticket rejected by CAS server: {detail}"
  | .serverRejected (some code) detail => s!"Ticket rejected by CAS server [{code}]: {detail}"
  | .noPrincipal => "No principal was found in the response from the CAS server"
  | .invalidProxyChain chain => s!"Proxy chain is not authorized: {listed chain}"
  | .outsideTimeWindow now toleranceMillis =>
    s!"No assertion valid at {now.describe} within a tolerance of {toleranceMillis}ms; " ++
      "check for ticket replay or clock drift"

def Failure.ofMarkup (fault : Markup.Fault) : Failure := .protocolViolation (.markup fault)

end SignOn
