import SignOn.Charset.Body
import SignOn.Markup.Document
import SignOn.Transport

/-
This file trades proxy-granting tickets for proxy tickets.
-/

namespace SignOn

open SignOn.Text

/-- A server issues proxy tickets and writes its answers in some character set. -/
structure ProxyTicketIssuer where
  serverUrl : String
  charset : Charset
  deriving DecidableEq, Repr

/-- A proxy-granting ticket is kept with the issuer that accepts it. -/
structure ProxyCapability where
  grantingTicket : String
  issuer : ProxyTicketIssuer
  deriving DecidableEq, Repr

namespace ProxyTicketIssuer

def describe (issuer : ProxyTicketIssuer) : String :=
  recorded "Cas20ProxyRetriever"
    [("server_url_prefix", quoted issuer.serverUrl), ("encoding", quoted issuer.charset.name)]

def request (issuer : ProxyTicketIssuer) (grantingTicket targetService : String) : Request :=
  .get ((Endpoint.ofServer issuer.serverUrl).url "proxy"
    [("pgt", grantingTicket), ("targetService", targetService)] [])

/-- The ticket stands directly inside the first success, and it is not empty. -/
def issuedTicket? (root : Markup.Element) : Option String := do
  let success ← root.descendant? "proxySuccess"
  let ticket ← success.child? "proxyTicket"
  if ticket.text = "" then none else some ticket.text

/-- A refusal anywhere in the answer means that there is no ticket. -/
def readRoot (targetService : String) (root : Markup.Element) :
    Logged (Except Failure (Option String)) := do
  match root.descendant? "proxyFailure" with
  | some failure =>
    let code := (failure.attribute? "code").getD "UNKNOWN"
    Logged.write .warn s!"CAS refused proxy ticket for {targetService}: {code} {failure.text}"
    return .ok none
  | none =>
    match issuedTicket? root with
    | some ticket =>
      Logged.write .debug s!"Obtained proxy ticket for {targetService}"
      return .ok (some ticket)
    | none => return .error (.protocolViolation .noProxyOutcome)

def read (targetService body : String) : Logged (Except Failure (Option String)) :=
  match Markup.Element.parse body with
  | .error fault => return .error (.ofMarkup fault)
  | .ok root => readRoot targetService root

/-- One request is sent, and no limit of time is set on its answer. -/
def proxyTicket (issuer : ProxyTicketIssuer) (transport : Transport)
    (grantingTicket targetService : String) : Traced (Except Failure (Option String)) := do
  let delivery ← Traced.send transport (issuer.request grantingTicket targetService)
  match delivery.outcome.bind acceptSuccess with
  | .error fault => return .error (.transport fault)
  | .ok answer =>
    let body ← issuer.charset.decodeBody answer.body
    read targetService body

end ProxyTicketIssuer

namespace ProxyCapability

def proxyTicket (capability : ProxyCapability) (transport : Transport) (targetService : String) :
    Traced (Except Failure (Option String)) :=
  capability.issuer.proxyTicket transport capability.grantingTicket targetService

/-- A description shows nothing of the ticket. -/
def describe (_ : ProxyCapability) : String := "ProxyCapability \x7b .. \x7d"

end ProxyCapability

end SignOn
