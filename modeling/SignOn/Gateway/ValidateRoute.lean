import SignOn.Gateway.Http
import SignOn.Validator

/-
This file answers the calls that ask about a ticket.
-/

namespace SignOn.Gateway.ValidateRoute

/-- A failure is the fault of the caller, of the server, or of the user. -/
inductive Blame
  | invalidRequest
  | serverUnavailable
  | authenticationFailed
  deriving DecidableEq, Repr

def Blame.ofFailure : Failure → Blame
  | .invalidArgument _ => .invalidRequest
  | .transport _ => .serverUnavailable
  | .protocolViolation _ => .serverUnavailable
  | _ => .authenticationFailed

def Blame.name : Blame → String
  | .invalidRequest => "invalid_request"
  | .serverUnavailable => "cas_unavailable"
  | .authenticationFailed => "authentication_failed"

/-- The status goes by the name of the error, and a name that is not known blames the gateway itself. -/
def statusOfName (name : String) : Nat :=
  match name with
  | "invalid_request" => 400
  | "authentication_failed" => 401
  | "cas_unavailable" => 502
  | _ => 500

def Blame.status (blame : Blame) : Nat := statusOfName blame.name

def failureJson (failure : Failure) : Json :=
  .object
    [("error", .text (Blame.ofFailure failure).name), ("message", .text failure.message)]

def failureResponse (failure : Failure) : Response :=
  .json (Blame.ofFailure failure).status (failureJson failure)

/-- Only a server that cannot be used is an error of the gateway's surroundings. -/
def reportFailure (failure : Failure) : Logged Unit :=
  match Blame.ofFailure failure with
  | .serverUnavailable =>
    Logged.write .error s!"Validation against CAS failed: {failure.message}"
  | _ => Logged.write .warn s!"Validation denied: {failure.message}"

def respond (outcome : Except Failure Assertion) : Logged Response :=
  match outcome with
  | .ok assertion => return .json 200 (.ofAssertion assertion)
  | .error failure => do
    reportFailure failure
    return failureResponse failure

def parameterNames : List String := ["ticket", "service"]

/-- Validates a ticket for a service, and answers with what came of it. -/
abbrev Validate := String → String → Validation

/-- A missing parameter counts as an empty one. -/
def answerQuery (validate : Validate) (store : Option GrantStore) (call : Call) :
    Traced (Response × Option GrantStore) :=
  match readKnown? parameterNames (Form.decode call.query) with
  | some [ticket, service] => do
    let (outcome, store) ← validate (ticket.getD "") (service.getD "")
    let response ← respond outcome
    return (response, store)
  | _ => return (queryRefusal, store)

def answer (validate : Validate) (store : Option GrantStore) (call : Call) :
    Traced (Response × Option GrantStore) :=
  match call.method with
  | "GET" => answerQuery validate store call
  | "HEAD" => do
    let (response, store) ← answerQuery validate store call
    return (response.withoutBody, store)
  | _ => return (.methodNotAllowed "GET,HEAD", store)

end SignOn.Gateway.ValidateRoute
