import SignOn.Assertion
import SignOn.Identifier
import SignOn.Markup.Node
import SignOn.Time.Timestamp

/-
This file writes the requests and reads the answers of SAML 1.1.
-/

namespace SignOn.Saml

open SignOn.Markup

def protocolNamespace : String := "urn:oasis:names:tc:SAML:1.0:protocol"

def envelopeNamespace : String := "http://schemas.xmlsoap.org/soap/envelope/"

def action : String := "http://www.oasis-open.org/committees/security"

/-- The method of authentication is an attribute of the assertion under this name. -/
def methodAttribute : String := "samlAuthenticationStatement::authMethod"

/-- A request is an envelope around the ticket. -/
def requestNode (identifier ticket : String) (now : Instant) : Node :=
  .element "SOAP-ENV:Envelope" [("xmlns:SOAP-ENV", envelopeNamespace)] [
    .standalone "SOAP-ENV:Header" [],
    .element "SOAP-ENV:Body" [] [
      .element "samlp:Request"
        [("xmlns:samlp", protocolNamespace), ("MajorVersion", "1"), ("MinorVersion", "1"),
          ("RequestID", identifier), ("IssueInstant", now.timestampMillis)]
        [.element "samlp:AssertionArtifact" [] [.text ticket]]]]

def requestBody (identifier ticket : String) (now : Instant) : String :=
  String.ofList (requestNode identifier ticket now).write

def requestHeaders : List (String × String) :=
  [("Content-Type", "text/xml"), ("SOAPAction", action), ("Cache-Control", "no-cache")]

/-- The window of an assertion goes from its first instant to just before its second. -/
structure Window where
  notBefore : Instant
  notOnOrAfter : Instant
  deriving DecidableEq

/-- A window needs both bounds, and both must be timestamps. -/
def window? (assertion : Element) : Option Window := do
  let conditions ← assertion.child? "Conditions"
  let notBefore ← (conditions.attribute? "NotBefore").bind Timestamp.read?
  let notOnOrAfter ← (conditions.attribute? "NotOnOrAfter").bind Timestamp.read?
  return ⟨notBefore, notOnOrAfter⟩

/-- The clock of the server may be ahead by the tolerance, and never behind. -/
def Window.contains (window : Window) (tolerance : Span) (now : Instant) : Bool :=
  decide (window.notBefore.backOrEarliest tolerance ≤ now) && decide (now < window.notOnOrAfter)

/-- The window of an assertion that can be used now. -/
def usableWindow? (tolerance : Span) (now : Instant) (assertion : Element) : Option Window :=
  (window? assertion).filter (·.contains tolerance now)

/-- Why an assertion is passed over. -/
def skipReason (tolerance : Span) (now : Instant) (assertion : Element) : String :=
  match window? assertion with
  | none => "Skipping SAML assertion without bounding dates"
  | some window =>
    if now < window.notBefore.backOrEarliest tolerance then
      s!"Skipping SAML assertion not valid before {window.notBefore.describe} " ++
        s!"(now {now.describe}, tolerance {tolerance.describe})"
    else
      s!"Skipping SAML assertion expired at {window.notOnOrAfter.describe} (now {now.describe})"

/-- The first assertion that can be used wins, and each one before it is reported. -/
def firstUsable? (tolerance : Span) (now : Instant) :
    List Element → Logged (Option (Element × Window))
  | [] => return none
  | assertion :: others =>
    match usableWindow? tolerance now assertion with
    | some window => return some (assertion, window)
    | none => do
      Logged.write .debug (skipReason tolerance now assertion)
      firstUsable? tolerance now others

def subjectName? (statement : Element) : Option String := do
  let subject ← statement.child? "Subject"
  let identifier ← subject.child? "NameIdentifier"
  return identifier.text

/-- An attribute without a name is left out with all its values. -/
def statementPairs (statement : Element) : List (String × String) :=
  (statement.childrenNamed "Attribute").flatMap fun entry =>
    match entry.attribute? "AttributeName" with
    | none => []
    | some name => (entry.childrenNamed "AttributeValue").map fun value => (name, value.text)

def isAbout (name : String) (statement : Element) : Bool :=
  subjectName? statement == some name

/-- Only the statements about the authenticated subject release attributes. -/
def attributePairs (name : String) (assertion : Element) : List (String × String) :=
  ((assertion.childrenNamed "AttributeStatement").filter (isAbout name)).flatMap statementPairs

/-- Each statement about another subject is reported. -/
def reportOthers (name : String) (assertion : Element) : Logged Unit :=
  ⟨(), ((assertion.childrenNamed "AttributeStatement").filter (!isAbout name ·)).map fun _ =>
    ⟨.debug, "Ignoring SAML attribute statement for another subject"⟩⟩

def methodAttributes (statement : Element) : AttributeBag :=
  match statement.attribute? "AuthenticationMethod" with
  | none => NameMap.empty
  | some method => AttributeBag.ofPairs [(methodAttribute, method)]

/-- The statement of authentication names the principal. -/
def makeAssertion (name : String) (source statement : Element) (window : Window) :
    Except Failure Assertion := do
  let principal ← Principal.create name (AttributeBag.ofPairs (attributePairs name source))
  match (Assertion.openEnded principal window.notBefore).boundedBy window.notOnOrAfter with
  | .error _ => .error (.protocolViolation .windowInverted)
  | .ok bounded =>
    .ok { bounded with
      attributes := methodAttributes statement
      issuedAt := (statement.attribute? "AuthenticationInstant").bind Timestamp.read? }

def authenticatedName? (statement : Element) : Option String :=
  (subjectName? statement).filter (· ≠ "")

def readAssertion (source : Element) (window : Window) : Logged (Except Failure Assertion) :=
  match source.child? "AuthenticationStatement" with
  | none => return .error .noPrincipal
  | some statement =>
    match authenticatedName? statement with
    | none => return .error .noPrincipal
    | some name => do
      reportOthers name source
      return makeAssertion name source statement window

/-- A status code counts as a success by its end, and a missing one does too. -/
def isSuccessCode (code : String) : Bool :=
  code.isEmpty || "Success".toList.isSuffixOf code.toList

def checkStatus (response : Element) : Except Failure Unit :=
  match response.child? "Status" with
  | none => .ok ()
  | some status =>
    let code := ((status.child? "StatusCode").bind (·.attribute? "Value")).getD ""
    if isSuccessCode code then .ok ()
    else
      .error (.serverRejected (some code)
        (((status.child? "StatusMessage").map (·.text)).getD ""))

/-- The response stands in the body of the envelope, in its own namespace or in none. -/
def response (envelope : Element) : Except Failure Element :=
  if envelope.name = "Envelope" then
    match (envelope.child? "Body").bind (·.child? "Response") with
    | none => .error (.protocolViolation .noSamlResponse)
    | some response =>
      match response.namespaceUri with
      | none => .ok response
      | some uri =>
        if uri = protocolNamespace then .ok response
        else .error (.protocolViolation (.foreignSamlResponse uri))
  else .error (.protocolViolation (.notEnvelope envelope.name))

/-- The assertions of a response, once its envelope and status are accepted. -/
def assertions (envelope : Element) : Except Failure (List Element) := do
  let response ← response envelope
  checkStatus response
  match response.childrenNamed "Assertion" with
  | [] => .error (.protocolViolation .noSamlAssertion)
  | assertions => .ok assertions

def readRoot (tolerance : Span) (envelope : Element) (now : Instant) :
    Logged (Except Failure Reply) :=
  match assertions envelope with
  | .error failure => return .error failure
  | .ok candidates => do
    match ← firstUsable? tolerance now candidates with
    | none => return .error (.outsideTimeWindow now tolerance.toMillis)
    | some (source, window) =>
      let assertion ← readAssertion source window
      return assertion.map Reply.ofAssertion

def read (tolerance : Span) (body : String) (now : Instant) : Logged (Except Failure Reply) :=
  match Element.parse body with
  | .error fault => return .error (.ofMarkup fault)
  | .ok envelope => readRoot tolerance envelope now

end SignOn.Saml
