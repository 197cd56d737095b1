import SignOn.Proofs.ServiceResponse.Reading

/-
This file shows that a failure anywhere in an answer counts before any success.
-/

namespace SignOn

open SignOn.Markup SignOn.ServiceResponse

namespace ServiceResponse

/-- A rejection is read from the first failure in an answer of the right kind, and from nothing else. -/
theorem readRoot_eq_serverRejected_iff (attributesOf : Element → AttributeBag) (root : Element)
    (now : Instant) (code : Option String) (detail : String) :
    readRoot attributesOf root now = .error (.serverRejected code detail) ↔
      root.name = "serviceResponse" ∧
        ∃ failure, Element.IsFirstNamed "authenticationFailure" root.descendants failure ∧
          failure.attribute? "code" = code ∧ failure.text = detail := by
  rw [readRoot]
  by_cases kind : root.name = "serviceResponse"
  · rw [if_pos kind]
    simp only [kind, true_and, ← Element.descendant?_eq_some_iff]
    cases root.descendant? "authenticationFailure" with
    | some failure => simp
    | none =>
        cases root.descendant? "authenticationSuccess" with
        | none => simp
        | some success =>
            simp only [readSuccess_eq]
            cases userOf? success <;> simp
  · rw [if_neg kind]
    simp [kind]

end ServiceResponse

namespace ProxyTicketIssuer

/-- A ticket is issued by the first success, in the first ticket that stands directly inside it. -/
def Issues (root : Element) (ticket : String) : Prop :=
  ∃ success element, Element.IsFirstNamed "proxySuccess" root.descendants success ∧
    Element.IsFirstNamed "proxyTicket" success.children element ∧
      element.text = ticket ∧ ticket ≠ ""

/-- A ticket is found exactly where one is issued. -/
theorem issuedTicket?_eq_some_iff {root : Element} {ticket : String} :
    issuedTicket? root = some ticket ↔ Issues root ticket := by
  simp only [Issues, ← Element.descendant?_eq_some_iff, ← Element.child?_eq_some_iff, issuedTicket?,
    Option.bind_eq_bind, Option.bind_eq_some_iff]
  constructor
  · rintro ⟨success, found, element, direct, spoken⟩
    split at spoken
    · cases spoken
    · rename_i nonempty
      obtain rfl := Option.some.inj spoken
      exact ⟨success, element, found, direct, rfl, nonempty⟩
  · rintro ⟨success, element, found, direct, rfl, nonempty⟩
    exact ⟨success, found, element, direct, if_neg nonempty⟩

/-- A failure anywhere in the answer comes before any ticket in it. -/
theorem readRoot_result (targetService : String) (root : Element) :
    (readRoot targetService root).result =
      if (root.descendant? "proxyFailure").isSome then .ok none
      else
        match issuedTicket? root with
        | some ticket => .ok (some ticket)
        | none => .error (.protocolViolation .noProxyOutcome) := by
  rw [readRoot]
  cases root.descendant? "proxyFailure" with
  | some failure => rfl
  | none =>
      cases issuedTicket? root with
      | some ticket => rfl
      | none => rfl

end ProxyTicketIssuer

/--
An answer about a ticket is a rejection exactly when it has a failure at any depth, and then it says what
the first one says, whatever else stands in the answer. An answer of another kind violates the protocol.
A refusal at any depth likewise means that there is no proxy ticket, and without one there is a ticket
where the first success holds one.
-/
theorem refusal_dominates {body : String} {root : Element} (parsed : Element.parse body = .ok root) :
    (∀ dialect : Dialect, dialect.protocol = .cas20 ∨ dialect.protocol = .cas30 → ∀ now,
      (root.name = "serviceResponse" →
        ((∃ element ∈ root.descendants, element.name = "authenticationFailure") →
          ∃ code detail, (dialect.read body now).result = .error (.serverRejected code detail)) ∧
        ∀ code detail, (dialect.read body now).result = .error (.serverRejected code detail) ↔
          ∃ failure, Element.IsFirstNamed "authenticationFailure" root.descendants failure ∧
            failure.attribute? "code" = code ∧ failure.text = detail) ∧
      (root.name ≠ "serviceResponse" →
        (dialect.read body now).result =
          .error (.protocolViolation (.notServiceResponse root.name)))) ∧
    ∀ targetService,
      ((ProxyTicketIssuer.read targetService body).result = .ok none ↔
        ∃ element ∈ root.descendants, element.name = "proxyFailure") ∧
      (∀ ticket, (ProxyTicketIssuer.read targetService body).result = .ok (some ticket) ↔
        (∀ element ∈ root.descendants, element.name ≠ "proxyFailure") ∧
          ProxyTicketIssuer.Issues root ticket) ∧
      ∀ failure, (ProxyTicketIssuer.read targetService body).result = .error failure →
        ∃ violation, failure = .protocolViolation violation := by
  constructor
  · intro dialect version now
    have supported : dialect.protocol.supportsProxying = true := by
      rcases version with same | same <;> rw [same] <;> rfl
    obtain ⟨attributesOf, reads⟩ := read_of_supportsProxying supported
    rw [reads, read_of_parse parsed]
    refine ⟨fun kind => ⟨fun failed => ?_, fun code detail => ?_⟩, fun kind => if_neg kind⟩
    · obtain ⟨failure, first⟩ := Element.exists_isFirstNamed_iff.2 failed
      exact ⟨_, _, (readRoot_eq_serverRejected_iff _ _ _ _ _).2
        ⟨kind, failure, first, rfl, rfl⟩⟩
    · rw [readRoot_eq_serverRejected_iff, and_iff_right kind]
  · intro targetService
    rw [ProxyTicketIssuer.read, parsed]
    simp only [ProxyTicketIssuer.readRoot_result, ← ProxyTicketIssuer.issuedTicket?_eq_some_iff,
      ← Element.exists_isFirstNamed_iff, ← Element.descendant?_eq_none_iff,
      ← Element.descendant?_eq_some_iff]
    cases root.descendant? "proxyFailure" with
    | some failure => simp
    | none =>
        cases ProxyTicketIssuer.issuedTicket? root with
        | some ticket => simp
        | none => simp

/-- An answer that holds both outcomes, the failures inside of the success. -/
def contradictoryAnswer : String :=
  answerWith ("<user>al</user><x><authenticationFailure code='C'> no </authenticationFailure></x>" ++
    "<proxyFailure/>")

def contradictoryRoot : Element :=
  ⟨"serviceResponse", none, [], [
    ⟨"authenticationSuccess", none, [], [letter "user" "al",
      ⟨"x", none, [], [⟨"authenticationFailure", none, [("code", "C")], [], "no"⟩], ""⟩,
      letter "proxyFailure" ""], ""⟩], ""⟩

/-- The failures inside the success decide over it, in both readers. -/
theorem refusal_dominates_contradiction :
    Element.parse contradictoryAnswer = .ok contradictoryRoot ∧
      contradictoryRoot.name = "serviceResponse" ∧
      ((Dialect.cas30 (Endpoint.ofServer "https://cas.example.com") false).read contradictoryAnswer
        default).result = .error (.serverRejected (some "C") "no") ∧
      (ProxyTicketIssuer.read "https://app" contradictoryAnswer).result = .ok none := by
  have parsed : Element.parse contradictoryAnswer = .ok contradictoryRoot := by
    rw [Element.parse, contradictoryAnswer, toList_answerWith]
    decide +kernel
  have found : contradictoryRoot.descendant? "authenticationFailure" =
      some ⟨"authenticationFailure", none, [("code", "C")], [], "no"⟩ := by decide +kernel
  have refused : contradictoryRoot.descendant? "proxyFailure" =
      some (letter "proxyFailure" "") := by decide +kernel
  obtain ⟨tickets, proxies⟩ := refusal_dominates parsed
  refine ⟨parsed, rfl, ?_, ?_⟩
  · exact (((tickets (.cas30 _ false) (Or.inr rfl) default).1 rfl).2 (some "C") "no").2
      ⟨_, Element.descendant?_eq_some_iff.1 found, rfl, by decide⟩
  · exact (proxies "https://app").1.2
      (Element.exists_isFirstNamed_iff.1 ⟨_, Element.descendant?_eq_some_iff.1 refused⟩)

end SignOn
