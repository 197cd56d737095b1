import SignOn.Dialect.Saml
import SignOn.Proofs.Markup.Writing

/-
This file writes answers that hold assertions and shows the trees that they are read as.
-/

namespace SignOn.Saml

open SignOn.Markup SignOn.Text

/--
What is written for an assertion: the bounds of its window, whom it authenticates and, for each of
its statements of attributes, whom it is about and what it releases.
-/
structure AssertionText where
  notBefore : String
  notOnOrAfter : String
  user : String
  statements : List (String × List (String × String))

def assertionNamespace : String := "urn:oasis:names:tc:SAML:1.0:assertion"

def subjectNode (user : String) : Node :=
  .element "Subject" [] [.element "NameIdentifier" [] [.text user]]

def attributeNode (pair : String × String) : Node :=
  .element "Attribute" [("AttributeName", pair.1)] [.element "AttributeValue" [] [.text pair.2]]

def statementNode (statement : String × List (String × String)) : Node :=
  .element "AttributeStatement" [] (subjectNode statement.1 :: statement.2.map attributeNode)

def conditionsNode (notBefore notOnOrAfter : String) : Node :=
  .standalone "Conditions" [("NotBefore", notBefore), ("NotOnOrAfter", notOnOrAfter)]

def authenticationNode (user : String) : Node :=
  .element "AuthenticationStatement" [] [subjectNode user]

def AssertionText.node (assertion : AssertionText) : Node :=
  .element "Assertion" [("xmlns", assertionNamespace)]
    (conditionsNode assertion.notBefore assertion.notOnOrAfter ::
      authenticationNode assertion.user :: assertion.statements.map statementNode)

def answerNode (assertions : List AssertionText) : Node :=
  .element "SOAP-ENV:Envelope" [("xmlns:SOAP-ENV", envelopeNamespace)] [
    .element "SOAP-ENV:Body" [] [
      .element "Response" [("xmlns", protocolNamespace)] (assertions.map AssertionText.node)]]

def answer (assertions : List AssertionText) : String :=
  String.ofList (answerNode assertions).write

/-- In an assertion most elements have neither attributes nor text. -/
def inAssertion (name : String) (children : List Element) : Element :=
  ⟨name, some assertionNamespace, [], children, ""⟩

def withText (name text : String) : Element :=
  ⟨name, some assertionNamespace, [], [], String.ofList (strip isSpace text.toList)⟩

def subjectElement (user : String) : Element :=
  inAssertion "Subject" [withText "NameIdentifier" user]

def attributeElement (pair : String × String) : Element :=
  ⟨"Attribute", some assertionNamespace, [("AttributeName", pair.1)],
    [withText "AttributeValue" pair.2], ""⟩

def statementElement (statement : String × List (String × String)) : Element :=
  inAssertion "AttributeStatement"
    (subjectElement statement.1 :: statement.2.map attributeElement)

def conditionsElement (notBefore notOnOrAfter : String) : Element :=
  ⟨"Conditions", some assertionNamespace,
    [("NotBefore", notBefore), ("NotOnOrAfter", notOnOrAfter)], [], ""⟩

def authenticationElement (user : String) : Element :=
  inAssertion "AuthenticationStatement" [subjectElement user]

def AssertionText.element (assertion : AssertionText) : Element :=
  inAssertion "Assertion"
    (conditionsElement assertion.notBefore assertion.notOnOrAfter ::
      authenticationElement assertion.user :: assertion.statements.map statementElement)

def responseElement (assertions : List Element) : Element :=
  ⟨"Response", some protocolNamespace, [], assertions, ""⟩

def answerElement (assertions : List Element) : Element :=
  ⟨"Envelope", some envelopeNamespace, [],
    [⟨"Body", some envelopeNamespace, [], [responseElement assertions], ""⟩], ""⟩

/-- The scope of an assertion around others. -/
def assertionScopes (outer : List Scope) : List Scope := [(none, assertionNamespace)] :: outer

/-- A subject is written for its element. -/
theorem element?_subjectNode (user : String) (outer : List Scope) :
    (subjectNode user).element? ([] :: assertionScopes outer) = some (subjectElement user) := by
  simp only [subjectNode, Node.element?, Node.elements, Node.characterData, subjectElement,
    inAssertion, withText, List.nil_append]
  rfl

/-- An attribute is written for its element. -/
theorem element?_attributeNode (pair : String × String) (outer : List Scope) :
    (attributeNode pair).element? ([] :: assertionScopes outer) = some (attributeElement pair) := by
  obtain ⟨scope, attributes⟩ := Tag.keeps_of_keys ⟨"Attribute", [("AttributeName", pair.1)]⟩
    ["AttributeName"] rfl (by decide)
  simp only [attributeNode, Node.element?, Node.elements, Node.characterData, attributeElement,
    withText, List.nil_append, Tag.element, scope, attributes]
  rfl

/-- The conditions are written for their element. -/
theorem element?_conditionsNode (notBefore notOnOrAfter : String) (outer : List Scope) :
    (conditionsNode notBefore notOnOrAfter).element? (assertionScopes outer) =
      some (conditionsElement notBefore notOnOrAfter) := by
  obtain ⟨scope, attributes⟩ := Tag.keeps_of_keys
    ⟨"Conditions", [("NotBefore", notBefore), ("NotOnOrAfter", notOnOrAfter)]⟩
    ["NotBefore", "NotOnOrAfter"] rfl (by decide)
  simp only [conditionsNode, Node.element?, Tag.element, scope, attributes]
  rfl

/-- A statement of authentication is written for its element. -/
theorem element?_authenticationNode (user : String) (outer : List Scope) :
    (authenticationNode user).element? (assertionScopes outer) =
      some (authenticationElement user) := by
  have subject := element?_subjectNode user outer
  have scope : Tag.scope ⟨"AuthenticationStatement", []⟩ = [] := rfl
  rw [authenticationNode, Node.element?, scope, Node.elements, subject, Node.elements,
    Node.characterData_of_element? subject, Node.characterData, authenticationElement]
  rfl

/-- A statement of attributes is written for its element. -/
theorem element?_statementNode (statement : String × List (String × String))
    (outer : List Scope) :
    (statementNode statement).element? (assertionScopes outer) =
      some (statementElement statement) := by
  have subject := element?_subjectNode statement.1 outer
  have attributes : ∀ pair ∈ statement.2, (attributeNode pair).element?
      ([] :: assertionScopes outer) = some (attributeElement pair) :=
    fun pair _ => element?_attributeNode pair outer
  have scope : Tag.scope ⟨"AttributeStatement", []⟩ = [] := rfl
  rw [statementNode, Node.element?, scope, Node.elements, subject, Node.elements_map attributes,
    Node.characterData_of_element? subject, Node.characterData_map attributes, statementElement]
  rfl

/-- An assertion is written for its element, whatever the scopes around it. -/
theorem AssertionText.element?_node (assertion : AssertionText) (outer : List Scope) :
    assertion.node.element? outer = some assertion.element := by
  have conditions :=
    element?_conditionsNode assertion.notBefore assertion.notOnOrAfter outer
  have authentication := element?_authenticationNode assertion.user outer
  have statements : ∀ statement ∈ assertion.statements, (statementNode statement).element?
      (assertionScopes outer) = some (statementElement statement) :=
    fun statement _ => element?_statementNode statement outer
  have scope : Tag.scope ⟨"Assertion", [("xmlns", assertionNamespace)]⟩ :: outer =
      assertionScopes outer := rfl
  rw [node, Node.element?, scope, Node.elements, conditions, Node.elements, authentication,
    Node.elements_map statements, Node.characterData_of_element? conditions,
    Node.characterData_of_element? authentication, Node.characterData_map statements, element]
  rfl

/-- An answer is written for its element, with the assertions in order. -/
theorem element?_answerNode (assertions : List AssertionText) :
    (answerNode assertions).element? [] =
      some (answerElement (assertions.map AssertionText.element)) := by
  have each (outer : List Scope) : ∀ assertion ∈ assertions,
      assertion.node.element? outer = some assertion.element :=
    fun assertion _ => assertion.element?_node outer
  simp only [answerNode, Node.element?, Node.elements, Node.elements_map (each _),
    Node.characterData_map (each []), Node.characterData, Option.toList_some, List.append_nil]
  rfl

theorem isWritable_subjectNode (user : String) {depth : Nat} (shallow : depth + 1 < depthLimit) :
    (subjectNode user).IsWritable depth := by
  simp only [subjectNode, Node.IsWritable, Node.AreWritable, and_true]
  exact ⟨by omega, Tag.isWritable_plain (by decide), shallow, Tag.isWritable_plain (by decide)⟩

theorem isWritable_attributeNode (pair : String × String) {depth : Nat}
    (shallow : depth + 1 < depthLimit) : (attributeNode pair).IsWritable depth := by
  have tag : Tag.IsWritable ⟨"Attribute", [("AttributeName", pair.1)]⟩ :=
    Tag.isWritable_of_keys ["AttributeName"] rfl (by decide) (by decide) (by decide)
  simp only [attributeNode, Node.IsWritable, Node.AreWritable, and_true]
  exact ⟨by omega, tag, shallow, Tag.isWritable_plain (by decide)⟩

/-- A statement of attributes can be written where two more levels fit. -/
theorem isWritable_statementNode (statement : String × List (String × String)) {depth : Nat}
    (shallow : depth + 2 < depthLimit) : (statementNode statement).IsWritable depth := by
  rw [statementNode, Node.IsWritable, Node.AreWritable]
  exact ⟨by omega, Tag.isWritable_plain (by decide), isWritable_subjectNode _ shallow,
    Node.areWritable_map fun pair _ => isWritable_attributeNode pair shallow⟩

/-- An assertion can be written where three more levels fit. -/
theorem AssertionText.isWritable_node (assertion : AssertionText) {depth : Nat}
    (shallow : depth + 3 < depthLimit) : assertion.node.IsWritable depth := by
  have tag : Tag.IsWritable ⟨"Assertion", [("xmlns", assertionNamespace)]⟩ :=
    Tag.isWritable_of_keys ["xmlns"] rfl (by decide) (by decide) (by decide)
  have conditions : Tag.IsWritable ⟨"Conditions",
      [("NotBefore", assertion.notBefore), ("NotOnOrAfter", assertion.notOnOrAfter)]⟩ :=
    Tag.isWritable_of_keys ["NotBefore", "NotOnOrAfter"] rfl (by decide) (by decide) (by decide)
  simp only [node, conditionsNode, authenticationNode, Node.IsWritable, Node.AreWritable, and_true]
  exact ⟨by omega, tag, ⟨by omega, conditions⟩,
    ⟨by omega, Tag.isWritable_plain (by decide), isWritable_subjectNode _ shallow⟩,
    Node.areWritable_map fun statement _ => isWritable_statementNode statement shallow⟩

/-- Every answer can be written. -/
theorem isWritable_answerNode (assertions : List AssertionText) :
    (answerNode assertions).IsWritable 0 := by
  have envelope : Tag.IsWritable ⟨"SOAP-ENV:Envelope", [("xmlns:SOAP-ENV", envelopeNamespace)]⟩ :=
    Tag.isWritable_of_keys ["xmlns:SOAP-ENV"] rfl (by decide) (by decide) (by decide)
  have response : Tag.IsWritable ⟨"Response", [("xmlns", protocolNamespace)]⟩ :=
    Tag.isWritable_of_keys ["xmlns"] rfl (by decide) (by decide) (by decide)
  simp only [answerNode, Node.IsWritable, Node.AreWritable, and_true]
  exact ⟨by decide, envelope, by decide, Tag.isWritable_plain (by decide), by decide, response,
    Node.areWritable_map fun assertion _ => assertion.isWritable_node (by decide)⟩

/-- An answer is read as the tree of its assertions. -/
theorem parse_answer (assertions : List AssertionText) :
    Element.parse (answer assertions) =
      .ok (answerElement (assertions.map AssertionText.element)) :=
  Element.parse_write (isWritable_answerNode assertions) (element?_answerNode assertions)

theorem head?_answer (assertions : List AssertionText) :
    (answer assertions).toList.head? = some '<' := by
  rw [answer, String.toList_ofList]
  rfl

end SignOn.Saml
