import SignOn.Callback
import SignOn.Gateway.Http
import SignOn.Gateway.Route

/-
This file answers the calls that deliver proxy-granting tickets.
-/

namespace SignOn.Gateway.CallbackRoute

def parameterNames : List String := ["pgtIou", "pgtId"]

/-- A delivery is refused when a parameter comes more than once. -/
def deliver (store : GrantStore) (now : Span) (refusal : Response) (parameters : String) :
    Logged (GrantStore × Response) :=
  match readKnown? parameterNames (Form.decode parameters) with
  | some [iou, ticket] => do
    let (store, body) ← Callback.receive store now iou ticket
    return (store, .xml body)
  | _ => return (store, refusal)

def answerQuery (store : GrantStore) (now : Span) (call : Call) : Logged (GrantStore × Response) :=
  deliver store now queryRefusal call.query

/-- A posted delivery must be a form that is not too long, and its query does not count. -/
def answerForm (store : GrantStore) (now : Span) (call : Call) : Logged (GrantStore × Response) :=
  if !call.isForm then return (store, formTypeRefusal)
  else if bodyLimit < call.body.utf8ByteSize then return (store, bodyRefusal)
  else deliver store now formRefusal call.body

def answer (store : GrantStore) (now : Span) (call : Call) : Logged (GrantStore × Response) :=
  match call.method with
  | "GET" => answerQuery store now call
  | "HEAD" => do
    let (store, response) ← answerQuery store now call
    return (store, response.withoutBody)
  | "POST" => answerForm store now call
  | _ => return (store, .methodNotAllowed "GET,HEAD,POST")

/-- Calls for other paths find nothing. -/
def serve (route : Route) (store : GrantStore) (now : Span) (call : Call) :
    Logged (GrantStore × Response) :=
  if route.accepts call.path then answer store now call else return (store, .notFound)

end SignOn.Gateway.CallbackRoute
