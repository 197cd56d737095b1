import Mathlib.Data.List.DropRight
import SignOn.Dialect
import SignOn.Proofs.Saml.Answer
import SignOn.Proofs.Saml.Outcome

/-
This file shows which status codes stop the reading of a response: those that do not end in the word for a
success.
-/

namespace SignOn.Saml

open SignOn.Markup

/-- The local part of a code stands behind its last colon, or is all of the code. -/
def localPart (code : String) : String :=
  String.ofList (code.toList.rtakeWhile (· != ':'))

def successWord : List Char := ['S', 'u', 'c', 'c', 'e', 's', 's']

/-- A word without colons ends a code exactly when it ends its local part. -/
theorem suffix_localPart_iff {word : List Char} (plain : ':' ∉ word) (code : String) :
    word <:+ (localPart code).toList ↔ word <:+ code.toList := by
  rw [localPart, String.toList_ofList]
  constructor
  · exact fun ends => ends.trans (List.rtakeWhile_suffix _ _)
  · rintro ⟨front, whole⟩
    have within : ∀ character ∈ word.reverse, (character != ':') = true :=
      fun character member => Text.bne_of_not_mem plain character (List.mem_reverse.1 member)
    rw [← whole, List.rtakeWhile, List.reverse_append, List.takeWhile_append_of_pos within,
      List.reverse_append, List.reverse_reverse]
    exact List.suffix_append _ _

/-- A code counts as success exactly when its local part ends in that word. -/
theorem isSuccessCode_iff {code : String} (nonempty : code ≠ "") :
    isSuccessCode code = true ↔ successWord <:+ (localPart code).toList := by
  have isWord : "Success".toList = successWord := by decide
  rw [suffix_localPart_iff (by decide), isSuccessCode, Bool.or_eq_true, String.isEmpty_iff, isWord,
    List.isSuffixOf_iff_suffix]
  exact or_iff_right nonempty

/-- A response with a status in which the first code has this value. -/
structure HasStatus (found status : Element) (code : String) : Prop where
  stated : found.child? "Status" = some status
  coded : ∃ element, status.child? "StatusCode" = some element ∧
    element.attribute? "Value" = some code

/-- The text that a status gives for its code. -/
def statusMessage (status : Element) : String :=
  ((status.child? "StatusMessage").map (·.text)).getD ""

/-- A response is rejected with its own code and text unless the code counts as success. -/
theorem HasStatus.checkStatus_eq {found status : Element} {code : String}
    (hasStatus : HasStatus found status code) :
    checkStatus found =
      if isSuccessCode code then .ok ()
      else .error (.serverRejected (some code) (statusMessage status)) := by
  obtain ⟨element, coded, valued⟩ := hasStatus.coded
  rw [checkStatus, hasStatus.stated]
  simp only [coded, Option.bind_some, valued, Option.getD_some]
  rfl

/-- What is read from an assertion is no rejection. -/
theorem readAssertion_ne_serverRejected (source : Element) (window : Window) (code : Option String)
    (detail : String) : (readAssertion source window).result ≠ .error (.serverRejected code detail) := by
  rw [readAssertion_result]
  split
  · exact nofun
  · split
    · exact nofun
    · exact nofun

/-- A response is rejected for its status and for nothing else. -/
theorem readRoot_eq_serverRejected_iff {envelope found : Element}
    (accepted : response envelope = .ok found) (tolerance : Span) (now : Instant)
    (code : Option String) (detail : String) :
    (readRoot tolerance envelope now).result = .error (.serverRejected code detail) ↔
      checkStatus found = .error (.serverRejected code detail) := by
  rw [readRoot_result, assertions_of_response accepted]
  cases checkStatus found with
  | error failure => simp
  | ok _ =>
      refine iff_of_false ?_ nofun
      dsimp only
      split
      · rename_i failure unlisted
        split at unlisted
        · cases unlisted
          exact nofun
        · cases unlisted
      · split
        · exact nofun
        · rename_i source window _
          have unrejected := readAssertion_ne_serverRejected source window code detail
          cases read : (readAssertion source window).result with
          | error failure =>
              rw [read] at unrejected
              intro rejected
              cases rejected
              exact unrejected rfl
          | ok assertion => exact nofun

/--
A status other than a success stops the reading with its code and message, whatever assertions there are,
exactly when its local part does not end in the word for a success. With that ending nothing is rejected.
-/
theorem status_rejects_iff {envelope found status : Element} {body code : String}
    (parsed : Element.parse body = .ok envelope) (accepted : response envelope = .ok found)
    (hasStatus : HasStatus found status code) (nonempty : code ≠ "") (endpoint : Endpoint)
    (tolerance : Span) (identifiers : IdentifierSource) (now : Instant) :
    let outcome := ((Dialect.saml11 endpoint tolerance identifiers).read body now).result
    (outcome = .error (.serverRejected (some code) (statusMessage status)) ↔
      ¬ successWord <:+ (localPart code).toList) ∧
    ((∃ code detail, outcome = .error (.serverRejected code detail)) ↔
      ¬ successWord <:+ (localPart code).toList) := by
  intro outcome
  have rejected (code : Option String) (detail : String) :
      outcome = .error (.serverRejected code detail) ↔
        checkStatus found = .error (.serverRejected code detail) := by
    rw [← readRoot_eq_serverRejected_iff accepted tolerance now, ← read_of_parse parsed]
    rfl
  simp only [rejected, hasStatus.checkStatus_eq, ← isSuccessCode_iff nonempty]
  by_cases success : isSuccessCode code = true
  · simp [success]
  · simp [success]

section Ruled

/-- An assertion about Alice that holds from the day before the epoch to the day after it. -/
def epochAssertion : AssertionText :=
  ⟨"1969-12-31T00:00:00Z", "1970-01-02T00:00:00Z", "alice", []⟩

/-- An answer that holds a status with a code and an assertion. -/
def ruledNode (code : String) : Node :=
  .element "Envelope" [] [.element "Body" [] [.element "Response" [] [
    .element "Status" [] [.standalone "StatusCode" [("Value", code)]], epochAssertion.node]]]

def ruledAnswer (code : String) : String := String.ofList (ruledNode code).write

def ruledStatus (code : String) : Element :=
  ⟨"Status", none, [], [⟨"StatusCode", none, [("Value", code)], [], ""⟩], ""⟩

def ruledResponse (code : String) : Element :=
  ⟨"Response", none, [], [ruledStatus code, epochAssertion.element], ""⟩

def ruledEnvelope (code : String) : Element :=
  ⟨"Envelope", none, [], [⟨"Body", none, [], [ruledResponse code], ""⟩], ""⟩

theorem element?_ruledNode (code : String) :
    (ruledNode code).element? [] = some (ruledEnvelope code) := by
  have assertion (outer : List Scope) := epochAssertion.element?_node outer
  obtain ⟨scope, attributes⟩ := Tag.keeps_of_keys ⟨"StatusCode", [("Value", code)]⟩ ["Value"] rfl
    (by decide)
  simp only [ruledNode, Node.element?, Node.elements, assertion,
    Node.characterData_of_element? (assertion []), Node.characterData, Option.toList_some,
    List.append_nil, ruledEnvelope, ruledResponse, ruledStatus, Tag.element, scope, attributes]
  rfl

theorem isWritable_ruledNode (code : String) : (ruledNode code).IsWritable 0 := by
  have tag : Tag.IsWritable ⟨"StatusCode", [("Value", code)]⟩ :=
    Tag.isWritable_of_keys ["Value"] rfl (by decide) (by decide) (by decide)
  simp only [ruledNode, Node.IsWritable, Node.AreWritable, and_true]
  exact ⟨by decide, Tag.isWritable_plain (by decide), by decide, Tag.isWritable_plain (by decide),
    by decide, Tag.isWritable_plain (by decide), ⟨by decide, Tag.isWritable_plain (by decide),
      by decide, tag⟩, epochAssertion.isWritable_node (by decide)⟩

/-- The answer is parsed as its envelope, whatever the code. -/
theorem parse_ruledAnswer (code : String) :
    Element.parse (ruledAnswer code) = .ok (ruledEnvelope code) :=
  Element.parse_write (isWritable_ruledNode code) (element?_ruledNode code)

theorem hasStatus_ruledResponse (code : String) :
    HasStatus (ruledResponse code) (ruledStatus code) code :=
  ⟨rfl, _, rfl, rfl⟩

/-- A responder that does not succeed stops the reading of an assertion that holds. -/
theorem status_rejects_iff_of_responder :
    Element.parse (ruledAnswer "samlp:Responder") = .ok (ruledEnvelope "samlp:Responder") ∧
      response (ruledEnvelope "samlp:Responder") = .ok (ruledResponse "samlp:Responder") ∧
      HasStatus (ruledResponse "samlp:Responder") (ruledStatus "samlp:Responder")
        "samlp:Responder" ∧
      "samlp:Responder" ≠ "" ∧
      ((Dialect.saml11 (Endpoint.ofServer "https://cas.example.com") ⟨0⟩ .drawn).read
        (ruledAnswer "samlp:Responder") default).result =
          .error (.serverRejected (some "samlp:Responder") "") := by
  have parsed := parse_ruledAnswer "samlp:Responder"
  have hasStatus := hasStatus_ruledResponse "samlp:Responder"
  exact ⟨parsed, rfl, hasStatus, by decide,
    (status_rejects_iff parsed rfl hasStatus (by decide) _ _ _ _).1.2 (by decide)⟩

/-- A code that only ends in the word for a success lets the assertion be read. -/
theorem unsuccessful_status_is_read :
    Element.parse (ruledAnswer "samlp:NotSuccess") = .ok (ruledEnvelope "samlp:NotSuccess") ∧
      response (ruledEnvelope "samlp:NotSuccess") = .ok (ruledResponse "samlp:NotSuccess") ∧
      HasStatus (ruledResponse "samlp:NotSuccess") (ruledStatus "samlp:NotSuccess")
        "samlp:NotSuccess" ∧
      "samlp:NotSuccess" ≠ "" ∧ localPart "samlp:NotSuccess" ≠ "Success" ∧
      ((Dialect.saml11 (Endpoint.ofServer "https://cas.example.com") ⟨0⟩ .drawn).read
        (ruledAnswer "samlp:NotSuccess") default).result.map (·.assertion.principal.name) =
          .ok "alice" := by
  refine ⟨parse_ruledAnswer _, rfl, hasStatus_ruledResponse _, by decide, by decide, ?_⟩
  change (Saml.read ⟨0⟩ (ruledAnswer "samlp:NotSuccess") default).result.map _ = _
  rw [read_of_parse (parse_ruledAnswer _)]
  decide +kernel

end Ruled

end SignOn.Saml
