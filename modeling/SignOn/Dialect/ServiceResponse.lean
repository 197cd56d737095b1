import SignOn.Assertion

/-
This file reads the answers of protocol versions 2 and 3, which are XML documents.
-/

namespace SignOn.ServiceResponse

open SignOn.Markup

/-- A text that is there but empty counts as missing. -/
def nonemptyText? (element : Element) : Option String :=
  if element.text = "" then none else some element.text

/-- Each element in the attributes block is an attribute of its name. -/
def blockPairs (success : Element) : List (String × String) :=
  match success.child? "attributes" with
  | none => []
  | some block => block.children.map fun entry => (entry.name, entry.text)

def blockAttributes (success : Element) : AttributeBag :=
  AttributeBag.ofPairs (blockPairs success)

/-- Namespaces of this family hold attributes of the other protocol. -/
def samlFamily : String := "urn:oasis:names:tc:SAML:"

/-- Flattened attributes carry their name and value in XML attributes. -/
def flattenedPair? (element : Element) : Option (String × String) :=
  (element.attribute? "name").map fun name => (name, (element.attribute? "value").getD "")

def flattenedPairs (success : Element) : List (String × String) :=
  (success.descendantsNamed "attribute").filterMap flattenedPair?

def samlName? (element : Element) : Option String :=
  match element.attribute? "AttributeName" with
  | some name => some name
  | none => element.attribute? "Name"

/-- Qualified attributes carry their name in an XML attribute and each value in an element. -/
def qualifiedElements (success : Element) : List (String × Element) :=
  ((success.descendantsNamed "Attribute").filter (·.isInFamily samlFamily)).filterMap
    fun element => (samlName? element).map (·, element)

def valuePairs (name : String) (element : Element) : List (String × String) :=
  (element.childrenNamed "AttributeValue").map fun value => (name, value.text)

def qualifiedPairs (success : Element) : List (String × String) :=
  (qualifiedElements success).flatMap fun (name, element) => valuePairs name element

/-- Inline attributes win over the block, even when they have no values. -/
def inlineOrBlockAttributes (success : Element) : AttributeBag :=
  if (flattenedPairs success).isEmpty && (qualifiedElements success).isEmpty then
    blockAttributes success
  else AttributeBag.ofPairs (flattenedPairs success ++ qualifiedPairs success)

/-- The proxies are those directly inside the first list, and blank ones do not count. -/
def proxyChain (success : Element) : ProxyChain :=
  match success.descendant? "proxies" with
  | none => []
  | some proxies => (proxies.childrenNamed "proxy").filterMap nonemptyText?

/-- A success needs a user, and all else may be missing. -/
def readSuccess (attributesOf : Element → AttributeBag) (success : Element) (now : Instant) :
    Except Failure Reply :=
  match (success.descendant? "user").bind nonemptyText? with
  | none => .error .noPrincipal
  | some user => do
    let principal ← Principal.create user (attributesOf success)
    return {
      assertion := .openEnded principal now
      grantingTicketIou := (success.descendant? "proxyGrantingTicket").bind nonemptyText?
      proxies := proxyChain success
    }

/-- A failure anywhere in the answer counts before any success. -/
def readRoot (attributesOf : Element → AttributeBag) (root : Element) (now : Instant) :
    Except Failure Reply :=
  if root.name = "serviceResponse" then
    match root.descendant? "authenticationFailure" with
    | some failure => .error (.serverRejected (failure.attribute? "code") failure.text)
    | none =>
      match root.descendant? "authenticationSuccess" with
      | none => .error (.protocolViolation .noOutcome)
      | some success => readSuccess attributesOf success now
  else .error (.protocolViolation (.notServiceResponse root.name))

def read (attributesOf : Element → AttributeBag) (body : String) (now : Instant) :
    Except Failure Reply :=
  match Element.parse body with
  | .error fault => .error (.ofMarkup fault)
  | .ok root => readRoot attributesOf root now

end SignOn.ServiceResponse
