import SignOn.Dialect.PlainText
import SignOn.Dialect.Saml
import SignOn.Dialect.ServiceResponse
import SignOn.Protocol

/-
This file asks a server about a ticket and reads its answer in each version of the protocol.
-/

namespace SignOn

open SignOn.Text

/-- A dialect is a version of the protocol with what its requests and answers depend on. -/
inductive Dialect
  | cas10 (endpoint : Endpoint)
  | cas20 (endpoint : Endpoint) (expectsProxies : Bool)
  | cas30 (endpoint : Endpoint) (expectsProxies : Bool)
  | saml11 (endpoint : Endpoint) (tolerance : Span) (identifiers : IdentifierSource)
  deriving DecidableEq

namespace Dialect

def protocol : Dialect → Protocol
  | .cas10 _ => .cas10
  | .cas20 _ _ => .cas20
  | .cas30 _ _ => .cas30
  | .saml11 _ _ _ => .saml11

def endpoint : Dialect → Endpoint
  | .cas10 endpoint => endpoint
  | .cas20 endpoint _ => endpoint
  | .cas30 endpoint _ => endpoint
  | .saml11 endpoint _ _ => endpoint

/-- Tickets that came through proxies have a service of their own. -/
def service : Dialect → String
  | .cas10 _ => "validate"
  | .cas20 _ false => "serviceValidate"
  | .cas20 _ true => "proxyValidate"
  | .cas30 _ false => "p3/serviceValidate"
  | .cas30 _ true => "p3/proxyValidate"
  | .saml11 _ _ _ => "samlValidate"

/-- The parameters that come first name the ticket, except where the body holds it. -/
def leading (dialect : Dialect) (ticket service : String) : List (String × String) :=
  match dialect with
  | .saml11 _ _ _ => [("TARGET", service)]
  | _ => [("ticket", ticket), ("service", service)]

/-- Only versions 2 and 3 announce where granting tickets are to be delivered. -/
def trailing (dialect : Dialect) : List (String × String) :=
  match dialect with
  | .cas20 endpoint _ | .cas30 endpoint _ => (endpoint.callbackUrl.map ("pgtUrl", ·)).toList
  | _ => []

def url (dialect : Dialect) (ticket service : String) : String :=
  dialect.endpoint.url dialect.service (dialect.leading ticket service) dialect.trailing

def request (dialect : Dialect) (randomBits : BitVec 128) (ticket service : String)
    (now : Instant) : Request :=
  match dialect with
  | .saml11 _ _ identifiers =>
    .post (dialect.url ticket service)
      (Saml.requestBody (identifiers.next randomBits) ticket now) Saml.requestHeaders
  | _ => .get (dialect.url ticket service)

def read (dialect : Dialect) (body : String) (now : Instant) : Logged (Except Failure Reply) :=
  match dialect with
  | .cas10 _ => return PlainText.read body now
  | .cas20 _ _ => return ServiceResponse.read ServiceResponse.blockAttributes body now
  | .cas30 _ _ => return ServiceResponse.read ServiceResponse.inlineOrBlockAttributes body now
  | .saml11 _ tolerance _ => Saml.read tolerance body now

/-- A description names the endpoint and what else the dialect depends on. -/
def describe : Dialect → String
  | .cas10 endpoint => recorded "Cas10Codec" [("options", endpoint.describe)]
  | .cas20 endpoint expectsProxies =>
    recorded "Cas20Codec"
      [("options", endpoint.describe), ("proxy_mode", toString expectsProxies)]
  | .cas30 endpoint expectsProxies =>
    recorded "Cas30Codec"
      [("options", endpoint.describe), ("proxy_mode", toString expectsProxies)]
  | .saml11 endpoint tolerance _ =>
    recorded "Saml11Codec"
      [("options", endpoint.describe), ("tolerance", tolerance.describe)]

end Dialect

end SignOn
