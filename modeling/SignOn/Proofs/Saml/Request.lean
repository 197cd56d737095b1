import SignOn.Dialect
import SignOn.Proofs.Markup.Writing

/-
This file shows that no ticket and no identifier changes the shape of a request.
-/

namespace SignOn.Saml

open SignOn.Markup SignOn.Text

/-- The ticket loses the spaces around it when a request is read. -/
def artifactElement (ticket : String) : Element where
  name := "AssertionArtifact"
  namespaceUri := some protocolNamespace
  attributes := []
  children := []
  characterData := String.ofList (strip isSpace ticket.toList)

/-- The tree of a request is the same for all tickets and identifiers. -/
def requestElement (identifier ticket : String) (now : Instant) : Element where
  name := "Envelope"
  namespaceUri := some envelopeNamespace
  attributes := []
  children := [
    ⟨"Header", some envelopeNamespace, [], [], ""⟩,
    ⟨"Body", some envelopeNamespace, [],
      [⟨"Request", some protocolNamespace,
        [("MajorVersion", "1"), ("MinorVersion", "1"), ("RequestID", identifier),
          ("IssueInstant", now.timestampMillis)],
        [artifactElement ticket], ""⟩], ""⟩]
  characterData := ""

/-- A request is written for its element. -/
theorem element?_requestNode (identifier ticket : String) (now : Instant) :
    (requestNode identifier ticket now).element? [] =
      some (requestElement identifier ticket now) := by
  have scope : Tag.scope ⟨"samlp:Request", [("xmlns:samlp", protocolNamespace),
      ("MajorVersion", "1"), ("MinorVersion", "1"), ("RequestID", identifier),
      ("IssueInstant", now.timestampMillis)]⟩ = [(some "samlp", protocolNamespace)] := by
    simp [Tag.scope, declaration?, splitName, splitFirst?]
  have attributes : Tag.plainAttributes ⟨"samlp:Request", [("xmlns:samlp", protocolNamespace),
      ("MajorVersion", "1"), ("MinorVersion", "1"), ("RequestID", identifier),
      ("IssueInstant", now.timestampMillis)]⟩ =
        [("MajorVersion", "1"), ("MinorVersion", "1"), ("RequestID", identifier),
          ("IssueInstant", now.timestampMillis)] := by
    simp [Tag.plainAttributes, declaration?, localName, splitName, splitFirst?]
  simp only [requestNode, Node.element?, Node.elements, Node.characterData, requestElement,
    artifactElement, List.nil_append, Tag.element, scope, attributes]
  rfl

/-- Every request can be written. -/
theorem isWritable_requestNode (identifier ticket : String) (now : Instant) :
    (requestNode identifier ticket now).IsWritable 0 := by
  have envelope : Tag.IsWritable ⟨"SOAP-ENV:Envelope", [("xmlns:SOAP-ENV", envelopeNamespace)]⟩ :=
    Tag.isWritable_of_keys ["xmlns:SOAP-ENV"] rfl (by decide) (by decide) (by decide)
  have request : Tag.IsWritable ⟨"samlp:Request",
      [("xmlns:samlp", protocolNamespace), ("MajorVersion", "1"), ("MinorVersion", "1"),
        ("RequestID", identifier), ("IssueInstant", now.timestampMillis)]⟩ :=
    Tag.isWritable_of_keys
      ["xmlns:samlp", "MajorVersion", "MinorVersion", "RequestID", "IssueInstant"] rfl (by decide)
      (by decide) (by decide)
  simp only [requestNode, Node.IsWritable, Node.AreWritable, and_true]
  exact ⟨by decide, envelope, ⟨by decide, Tag.isWritable_plain (by decide)⟩, by decide,
    Tag.isWritable_plain (by decide), by decide, request, by decide,
    Tag.isWritable_plain (by decide)⟩

/-- The body of a request is read back as its tree. -/
theorem parse_requestBody (identifier ticket : String) (now : Instant) :
    Element.parse (requestBody identifier ticket now) =
      .ok (requestElement identifier ticket now) :=
  Element.parse_write (isWritable_requestNode identifier ticket now)
    (element?_requestNode identifier ticket now)

/--
Whatever the ticket, the service and the identifier hold, a request is read as an envelope around
one artifact. The identifier is the value of one attribute, and the ticket is the text of the artifact.
-/
theorem request_reads_as_envelope (endpoint : Endpoint) (tolerance : Span)
    (identifiers : IdentifierSource) (randomBits : BitVec 128) (ticket service : String)
    (now : Instant) :
    ∃ body envelope header content request artifact,
      ((Dialect.saml11 endpoint tolerance identifiers).request randomBits ticket service now).body =
          some body ∧
        Element.parse body = .ok envelope ∧
        (envelope.name = "Envelope" ∧ envelope.attributes = [] ∧
          envelope.children = [header, content]) ∧
        (header.name = "Header" ∧ header.attributes = [] ∧ header.children = []) ∧
        (content.name = "Body" ∧ content.attributes = [] ∧ content.children = [request]) ∧
        (request.name = "Request" ∧
          request.namespaceUri = some "urn:oasis:names:tc:SAML:1.0:protocol" ∧
          request.attributes.map Prod.fst =
            ["MajorVersion", "MinorVersion", "RequestID", "IssueInstant"] ∧
          request.attribute? "RequestID" = some (identifiers.next randomBits) ∧
          request.children = [artifact]) ∧
        (artifact.name = "AssertionArtifact" ∧ artifact.attributes = [] ∧
          artifact.children = [] ∧ artifact.text = trim ticket) := by
  refine ⟨requestBody (identifiers.next randomBits) ticket now,
    requestElement (identifiers.next randomBits) ticket now, _, _, _, artifactElement ticket,
    rfl, parse_requestBody _ _ _, ⟨rfl, rfl, rfl⟩, ⟨rfl, rfl, rfl⟩, ⟨rfl, rfl, rfl⟩,
    ⟨rfl, rfl, rfl, rfl, rfl⟩, rfl, rfl, rfl, trim_strip_isSpace ticket⟩

end SignOn.Saml
