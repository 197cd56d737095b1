import SignOn.Form
import SignOn.NameMap
import SignOn.Text.Quoted

/-
This file builds requests to the server and the addresses that they go to.
-/

namespace SignOn

open SignOn.Text

inductive Method
  | get
  | post
  deriving DecidableEq, Repr

def Method.name : Method → String
  | .get => "GET"
  | .post => "POST"

/-- Headers are sent in order. -/
structure Request where
  method : Method
  url : String
  body : Option String
  headers : List (String × String)
  deriving DecidableEq, Repr

namespace Request

def get (url : String) : Request := ⟨.get, url, none, []⟩

def post (url body : String) (headers : List (String × String)) : Request :=
  ⟨.post, url, some body, headers⟩

end Request

/-- An answer has a status and the bytes of a body. -/
structure Answer where
  status : Nat
  body : List UInt8
  deriving DecidableEq, Repr

/-- Only these answers are read. -/
def Answer.isSuccess (answer : Answer) : Bool := 200 ≤ answer.status && answer.status < 300

/-- What all requests to one server have in common. -/
structure Endpoint where
  serverUrl : String
  renew : Bool
  callbackUrl : Option String
  customParameters : NameMap String
  deriving DecidableEq

namespace Endpoint

def ofServer (serverUrl : String) : Endpoint := ⟨serverUrl, false, none, NameMap.empty⟩

/-- One slash separates the server from the path of a service. -/
def path (serverUrl service : String) : String :=
  if serverUrl.toList.getLast? = some '/' then serverUrl ++ service
  else serverUrl ++ "/" ++ service

/-- A request for primary authentication comes behind the leading parameters. -/
def parameters (endpoint : Endpoint) (leading trailing : List (String × String)) :
    List (String × String) :=
  leading ++ (if endpoint.renew then [("renew", "true")] else []) ++ trailing ++
    endpoint.customParameters.entries

/-- The parameters form the query of the address. -/
def url (endpoint : Endpoint) (service : String) (leading trailing : List (String × String)) :
    String :=
  path endpoint.serverUrl service ++ "?" ++ Form.encode (endpoint.parameters leading trailing)

/-- A description names all that requests have in common. -/
def describe (endpoint : Endpoint) : String :=
  recorded "RequestOptions"
    [("server_url_prefix", quoted endpoint.serverUrl),
      ("renew", toString endpoint.renew),
      ("proxy_callback_url", perhaps (endpoint.callbackUrl.map quoted)),
      ("custom_parameters",
        mapped (endpoint.customParameters.entries.map fun entry => (quoted entry.1, quoted entry.2)))]

end Endpoint

end SignOn
