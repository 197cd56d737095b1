import SignOn.Form
import SignOn.Json
import SignOn.Url.Scheme

/-
This file holds the calls that the gateway receives and its answers to them.
-/

namespace SignOn.Gateway

open SignOn.Text

/-- The target of a call is a path with a query behind it, or a whole address. -/
structure Call where
  method : String
  target : String
  contentType : Option String
  body : String
  deriving DecidableEq, Repr

namespace Call

/-- A fragment is not part of what is asked for. -/
def locator (call : Call) : List Char := call.target.toList.takeWhile (· != '#')

/-- The scheme and the machine of a whole address do not count, and anything else has no path. -/
def origin (call : Call) : List Char :=
  match call.locator with
  | '/' :: path => '/' :: path
  | locator =>
    match locator.dropWhile Url.isSchemeCharacter with
    | ':' :: '/' :: '/' :: behind =>
      match behind.dropWhile fun character => character != '/' && character != '?' with
      | '/' :: path => '/' :: path
      | query => '/' :: query
    | _ => []

def path (call : Call) : List Char := call.origin.takeWhile (· != '?')

def query (call : Call) : String := String.ofList ((call.origin.dropWhile (· != '?')).drop 1)

end Call

inductive Payload
  | text (characters : String)
  | json (value : Json)
  deriving Repr

structure Response where
  status : Nat
  contentType : Option String
  /-- The methods that could be used instead of a refused one. -/
  allowed : Option String
  payload : Payload
  deriving Repr

namespace Response

def empty (status : Nat) : Response := ⟨status, none, none, .text ""⟩

def plain (status : Nat) (message : String) : Response :=
  ⟨status, some "text/plain; charset=utf-8", none, .text message⟩

def json (status : Nat) (value : Json) : Response :=
  ⟨status, some "application/json", none, .json value⟩

def xml (body : String) : Response := ⟨200, some "text/xml", none, .text body⟩

def notFound : Response := empty 404

def methodNotAllowed (allowed : String) : Response := ⟨405, none, some allowed, .text ""⟩

/-- A call for the head of an answer gets no body. -/
def withoutBody (response : Response) : Response := { response with payload := .text "" }

end Response

/-- Of the parameters that a handler knows, each may come once, and the others do not count. -/
def readKnown? (names : List String) (pairs : List (String × String)) :
    Option (List (Option String)) :=
  names.mapM fun name =>
    match pairs.filter (·.1 == name) with
    | [] => some none
    | [pair] => some (some pair.2)
    | _ => none

def queryRefusal : Response := .plain 400 "Failed to deserialize query string"

def formRefusal : Response := .plain 422 "Failed to deserialize form body"

def formType : String := "application/x-www-form-urlencoded"

def formTypeRefusal : Response :=
  .plain 415 s!"Form requests must have \x60Content-Type: {formType}\x60"

/-- The type of a form may be followed by parameters of its own, all of them printable in ASCII. -/
def Call.isForm (call : Call) : Bool :=
  match call.contentType with
  | none => false
  | some contentType =>
    formType.toList.isPrefixOf contentType.toList &&
      contentType.toList.all fun character =>
        character == '\t' || 0x20 ≤ character.toNat && character.toNat < 0x7F

/-- The longest body that is read has so many bytes. -/
def bodyLimit : Nat := 0x200000

def bodyRefusal : Response :=
  .plain 413 "Failed to buffer the request body: length limit exceeded"

end SignOn.Gateway
