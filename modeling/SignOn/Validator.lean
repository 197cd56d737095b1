import SignOn.Config
import SignOn.GrantStore

/-
This file validates tickets.
-/

namespace SignOn

open SignOn.Text

/-- How far the validation of a ticket has come. -/
inductive Stage
  | idle
  | requestBuilt
  | responseReceived
  | parsed
  | resolved
  deriving DecidableEq, Repr

def Stage.name : Stage → String
  | .idle => "Idle"
  | .requestBuilt => "RequestBuilt"
  | .responseReceived => "ResponseReceived"
  | .parsed => "Parsed"
  | .resolved => "Resolved"

/-- A validator speaks the dialect of its configuration unless it is given another one. -/
structure Validator where
  config : Config
  charset : Charset
  dialect : Dialect
  issuer : Option ProxyTicketIssuer

/-- A validation leaves its outcome, the store, and a trace of what it sent and logged. -/
abbrev Validation := Traced (Except Failure Assertion × Option GrantStore)

namespace Validator

/-- A configuration is checked once, before any ticket is, and then its character set is looked up again. -/
def create (config : Config) : Except SettingFault (Logged Validator) := do
  config.check
  let charset ← config.checkCharset
  return do
    Logged.write .info
      (s!"CAS {config.protocol.name} validator for {config.serverUrl} " ++
        s!"(renew={config.renew}, proxy mode={config.policy.expectsProxies})")
    return ⟨config, charset, config.dialect, none⟩

def withIssuer (validator : Validator) (issuer : ProxyTicketIssuer) : Validator :=
  { validator with issuer := some issuer }

def withDialect (validator : Validator) (dialect : Dialect) : Validator :=
  { validator with dialect := dialect }

/-- With a store the server itself issues proxy tickets, unless another issuer is set. -/
def withStore (validator : Validator) : Validator :=
  match validator.issuer with
  | some _ => validator
  | none => validator.withIssuer ⟨validator.config.serverUrl, validator.charset⟩

/-- The start of a ticket is enough to tell log lines apart. -/
def shownTicket (ticket : String) : String := String.ofList (ticket.toList.take 10)

def advance (ticket : String) (stage next : Stage) : Traced Unit :=
  Traced.write .debug s!"Ticket {shownTicket ticket}: {stage.name} -> {next.name}"

def reject (ticket : String) (stage : Stage) (failure : Failure) : Traced Unit :=
  Traced.write .warn
    s!"Ticket {shownTicket ticket} rejected after {stage.name}: {failure.message}"

/-- The granting ticket that the reply refers to is taken out of the store. -/
def correlate (validator : Validator) (now : Span) (store : Option GrantStore)
    (assertion : Assertion) (iou : String) : Logged (Assertion × Option GrantStore) :=
  match store, validator.issuer with
  | some store, some issuer => do
    let (found, remaining) ← store.retrieve now iou
    match found with
    | some ticket =>
      Logged.write .debug s!"Correlated PGT-IOU {iou}"
      return (assertion.withCapability ⟨ticket, issuer⟩, some remaining)
    | none =>
      Logged.write .warn
        s!"No proxy-granting ticket found for IOU {iou}; principal cannot proxy"
      return (assertion, some remaining)
  | store, _ => do
    Logged.write .debug s!"Response carried PGT-IOU {iou} but no store is configured"
    return (assertion, store)

def correlateReply (validator : Validator) (now : Span) (store : Option GrantStore)
    (reply : Reply) : Logged (Assertion × Option GrantStore) :=
  match reply.grantingTicketIou with
  | none => return (reply.assertion, store)
  | some iou => validator.correlate now store reply.assertion iou

def authorizeReply (validator : Validator) (reply : Reply) : Logged (Except Failure Unit) := do
  if !reply.proxies.isEmpty then
    Logged.write .debug s!"Checking proxy chain {listed (reply.proxies.map quoted)}"
  validator.config.policy.authorize reply.proxies

/-- The granting ticket is used up before the chain of proxies is checked. -/
def resolve (validator : Validator) (ticket service : String) (now : Span)
    (store : Option GrantStore) (reply : Reply) : Validation := do
  let (assertion, store) ← validator.correlateReply now store reply
  match ← validator.authorizeReply reply with
  | .error failure =>
    reject ticket .parsed failure
    return (.error failure, store)
  | .ok () =>
    advance ticket .parsed .resolved
    Traced.write .info
      s!"Validated ticket {shownTicket ticket} for {service} as {assertion.principal.name}"
    return (.ok assertion, store)

/-- An answer counts when it is in time and a success. -/
def accept (validator : Validator) (delivery : Delivery) : Except Failure Answer :=
  match (delivery.within validator.config.timeout).bind acceptSuccess with
  | .error fault => .error (.transport fault)
  | .ok answer => .ok answer

def readAnswer (validator : Validator) (answer : Answer) (now : Instant) :
    Logged (Except Failure Reply) := do
  let body ← validator.charset.decodeBody answer.body
  validator.dialect.read body now

/-- One request is sent for a ticket and a service that are not blank. -/
def validate (validator : Validator) (transport : Transport) (randomBits : BitVec 128)
    (now : Instant) (uptime : Span) (store : Option GrantStore) (ticket service : String) :
    Validation :=
  if isBlankText ticket then return (.error (.invalidArgument .blankTicket), store)
  else if isBlankText service then return (.error (.invalidArgument .blankService), store)
  else do
    let request := validator.dialect.request randomBits ticket service now
    advance ticket .idle .requestBuilt
    match validator.accept (← Traced.send transport request) with
    | .error failure =>
      reject ticket .requestBuilt failure
      return (.error failure, store)
    | .ok answer =>
      advance ticket .requestBuilt .responseReceived
      match ← validator.readAnswer answer now with
      | .error failure =>
        reject ticket .responseReceived failure
        return (.error failure, store)
      | .ok reply =>
        advance ticket .responseReceived .parsed
        validator.resolve ticket service uptime store reply

def describe (validator : Validator) (hasStore : Bool) : String :=
  recorded "CasTicketValidator"
    [("config", validator.config.describe), ("protocol", validator.dialect.protocol.longName),
      ("has_storage", toString hasStore)]

end Validator

end SignOn
