import SignOn.Proofs.AttributeBag
import SignOn.Proofs.PlainText
import SignOn.Proofs.Saml.Answer
import SignOn.Proofs.Saml.Outcome
import SignOn.Proofs.Time.Instant
import SignOn.Proofs.Time.Timestamp
import SignOn.Proofs.Validator.Workflow

/-
This file shows that every assertion that is handed out is well formed.
-/

namespace SignOn

open SignOn.Markup SignOn.Text

/-- A bare text is not empty and has no blanks around it. -/
def Text.IsBare (text : String) : Prop := text ≠ "" ∧ trim text = text

/-- What is listed has two values at least. -/
def AttributeValue.IsProper : AttributeValue → Prop
  | .single _ => True
  | .multiple values => 2 ≤ values.size

def AttributeBag.IsProper (bag : AttributeBag) : Prop :=
  ∀ entry ∈ bag.entries, entry.2.IsProper

namespace Assertion

/-- An assertion holds from now on. -/
structure HoldsFrom (assertion : Assertion) (now : Instant) : Prop where
  start : assertion.validFrom = now
  endless : assertion.validUntil = none
  holds_iff : ∀ instant, assertion.isValidAt instant = true ↔ now ≤ instant

/--
An assertion has a window that has not ended and that starts at most the tolerance from now, leap
seconds aside.
-/
structure HoldsWithin (assertion : Assertion) (tolerance : Span) (now : Instant) : Prop where
  bounded : ∃ validUntil, assertion.validUntil = some validUntil ∧
    assertion.validFrom ≤ validUntil ∧ now < validUntil
  tolerated : assertion.validFrom.inLeapSecond = false → now.inLeapSecond = false →
    assertion.validFrom.epochNanos ≤ now.epochNanos + tolerance.nanos
  holds_iff : assertion.isValidAt now = true ↔ assertion.validFrom ≤ now

/-- Only assertions of SAML come with a window of their own. -/
def IsTimely (assertion : Assertion) (dialect : Dialect) (now : Instant) : Prop :=
  match dialect with
  | .saml11 _ tolerance _ => assertion.HoldsWithin tolerance now
  | _ => assertion.HoldsFrom now

/-- A well-formed assertion names a principal, lists attributes properly, and holds in time. -/
structure IsWellFormed (assertion : Assertion) (dialect : Dialect) (now : Instant) : Prop where
  named : IsBare assertion.principal.name
  ofPrincipal : assertion.principal.attributes.IsProper
  ofStatement : assertion.attributes.IsProper
  timely : assertion.IsTimely dialect now

end Assertion

/--
A reply refers to a granting ticket and to proxies by bare texts, and only in the versions that have
them.
-/
structure Reply.IsWellFormed (reply : Reply) (dialect : Dialect) (now : Instant) : Prop where
  assertion : reply.assertion.IsWellFormed dialect now
  reference : ∀ iou, reply.grantingTicketIou = some iou → IsBare iou
  proxies : ∀ proxy ∈ reply.proxies, IsBare proxy
  direct : dialect.protocol = .cas10 ∨ dialect.protocol = .saml11 →
    reply.grantingTicketIou = none ∧ reply.proxies = []

namespace AttributeBag

theorem isProper_empty : AttributeBag.IsProper NameMap.empty := by
  intro entry member
  cases member

/-- What is gathered from pairs lists only what came twice at least. -/
theorem isProper_ofPairs (pairs : List (String × String)) : (ofPairs pairs).IsProper := by
  intro entry member
  have found := NameMap.get?_of_mem member
  rw [get?_ofPairs] at found
  cases held : valuesUnder pairs entry.1 with
  | nil =>
      rw [held] at found
      cases found
  | cons first others =>
      cases others with
      | nil =>
          rw [held] at found
          rw [← Option.some.inj found]
          trivial
      | cons second others =>
          rw [held] at found
          rw [← Option.some.inj found]
          change 2 ≤ (first :: second :: others).toArray.size
          rw [List.size_toArray, List.length_cons, List.length_cons]
          omega

end AttributeBag

theorem Assertion.holdsFrom_openEnded (principal : Principal) (now : Instant) :
    (openEnded principal now).HoldsFrom now where
  start := rfl
  endless := rfl
  holds_iff instant := by
    change (decide (now ≤ instant) && true) = true ↔ now ≤ instant
    rw [Bool.and_true, decide_eq_true_eq]

/-- What is read from plain text is well-formed. -/
theorem PlainText.isWellFormed_of_read {endpoint : Endpoint} {body : String} {now : Instant}
    {reply : Reply} (found : PlainText.read body now = .ok reply) :
    reply.IsWellFormed (.cas10 endpoint) now := by
  obtain ⟨rest, -, named, rfl⟩ := (read_eq_ok_iff body now reply).1 found
  refine ⟨⟨⟨named, trim_readName rest⟩, ?_, ?_, ?_⟩, ?_, ?_, ?_⟩
  · exact AttributeBag.isProper_empty
  · exact AttributeBag.isProper_empty
  · exact Assertion.holdsFrom_openEnded _ now
  · exact fun _ carried => by cases carried
  · exact fun _ listed => by cases listed
  · exact fun _ => ⟨rfl, rfl⟩

namespace ServiceResponse

/-- A block lists no attribute with fewer than two values. -/
theorem isProper_blockAttributes (success : Element) : (blockAttributes success).IsProper :=
  AttributeBag.isProper_ofPairs _

/-- Whichever form the attributes have, none is listed with fewer than two values. -/
theorem isProper_inlineOrBlockAttributes (success : Element) :
    (inlineOrBlockAttributes success).IsProper := by
  rw [inlineOrBlockAttributes]
  split
  · exact isProper_blockAttributes success
  · exact AttributeBag.isProper_ofPairs _

theorem isBare_of_nonemptyText? {element : Element} {text : String}
    (found : nonemptyText? element = some text) : IsBare text :=
  And.symm (trim_of_nonemptyText? found)

/-- The proxies of a chain are not blank and have no blanks around them. -/
theorem isBare_of_mem_proxyChain {success : Element} {proxy : String}
    (member : proxy ∈ proxyChain success) : IsBare proxy := by
  rw [proxyChain] at member
  split at member
  · cases member
  · obtain ⟨element, -, spoken⟩ := List.mem_filterMap.1 member
    exact isBare_of_nonemptyText? spoken

/-- All that depends on the version is where the attributes are read from. -/
theorem isWellFormed_of_read {attributesOf : Element → AttributeBag}
    (proper : ∀ success, (attributesOf success).IsProper) {dialect : Dialect}
    (proxying : dialect.protocol = .cas20 ∨ dialect.protocol = .cas30) {body : String}
    {now : Instant} {reply : Reply}
    (found : ServiceResponse.read attributesOf body now = .ok reply) :
    reply.IsWellFormed dialect now := by
  rw [ServiceResponse.read] at found
  split at found
  · cases found
  · obtain ⟨-, -, success, -, user, named, rfl⟩ := (readRoot_eq_ok_iff _ _ _ _).1 found
    obtain ⟨element, -, spoken⟩ := Option.bind_eq_some_iff.1 named
    refine ⟨⟨isBare_of_nonemptyText? spoken, proper success, AttributeBag.isProper_empty, ?timely⟩,
      ?reference, fun _ member => isBare_of_mem_proxyChain member, ?direct⟩
    case timely =>
      cases dialect with
      | saml11 endpoint tolerance identifiers => rcases proxying with other | other <;> cases other
      | cas10 endpoint => exact Assertion.holdsFrom_openEnded _ now
      | cas20 endpoint expectsProxies => exact Assertion.holdsFrom_openEnded _ now
      | cas30 endpoint expectsProxies => exact Assertion.holdsFrom_openEnded _ now
    case reference =>
      intro iou carried
      obtain ⟨reference, -, referring⟩ := Option.bind_eq_some_iff.1 carried
      exact isBare_of_nonemptyText? referring
    case direct =>
      rintro (other | other) <;> rcases proxying with same | same <;>
        cases same.symm.trans other

end ServiceResponse

namespace Saml

/-- The method of authentication is listed properly. -/
theorem isProper_methodAttributes (statement : Element) : (methodAttributes statement).IsProper := by
  rw [methodAttributes]
  split
  · exact AttributeBag.isProper_empty
  · exact AttributeBag.isProper_ofPairs _

/-- The start of a window is a timestamp. -/
theorem exists_read_of_window? {assertion : Element} {window : Window}
    (found : window? assertion = some window) :
    ∃ text, Timestamp.read? text = some window.notBefore := by
  rw [window?] at found
  simp only [Option.bind_eq_bind, Option.bind_eq_some_iff] at found
  obtain ⟨conditions, -, notBefore, ⟨text, -, read⟩, notOnOrAfter, -, made⟩ := found
  cases made
  exact ⟨text, read⟩

/-- What is stated about a usable assertion holds in its window. -/
theorem holdsWithin_stated {tolerance : Span} {now : Instant} {source : Element} {window : Window}
    (usable : usableWindow? tolerance now source = some window)
    (forward : window.notBefore ≤ window.notOnOrAfter) (name : String) (statement : Element) :
    (stated name source statement window).HoldsWithin tolerance now := by
  obtain ⟨windowed, started, ongoing⟩ := usableWindow?_eq_some_iff.1 usable
  refine ⟨⟨window.notOnOrAfter, rfl, forward, ongoing⟩, ?tolerated, ?holds_iff⟩
  case tolerated =>
    intro plain plainNow
    obtain ⟨text, read⟩ := exists_read_of_window? windowed
    exact Instant.epochNanos_le_of_backOrEarliest_le plain plainNow
      (Timestamp.second_lt_of_read? read) started
  case holds_iff =>
    change (decide (window.notBefore ≤ now) && decide (now < window.notOnOrAfter)) = true ↔
      window.notBefore ≤ now
    rw [decide_eq_true ongoing, Bool.and_true, decide_eq_true_eq]

/-- What is read from an answer of SAML is well-formed. -/
theorem isWellFormed_of_read {endpoint : Endpoint} {tolerance : Span}
    {identifiers : IdentifierSource} {body : String} {now : Instant} {reply : Reply}
    (found : (Saml.read tolerance body now).result = .ok reply) :
    reply.IsWellFormed (.saml11 endpoint tolerance identifiers) now := by
  obtain ⟨source, window, statement, name, usable, known, forward, rfl⟩ :=
    exists_stated_of_read found
  obtain ⟨spoken, nonempty⟩ := authenticatedName?_eq_some_iff.1 known
  refine ⟨⟨⟨nonempty, trim_of_subjectName? spoken⟩, ?_, ?_, ?_⟩, ?_, ?_, ?_⟩
  · exact AttributeBag.isProper_ofPairs _
  · exact isProper_methodAttributes statement
  · exact holdsWithin_stated usable forward name statement
  · exact fun _ carried => by cases carried
  · exact fun _ listed => by cases listed
  · exact fun _ => ⟨rfl, rfl⟩

end Saml

/-- Whatever the version of the protocol, a reply that is read is well formed. -/
theorem Dialect.isWellFormed_of_read {dialect : Dialect} {body : String} {now : Instant}
    {reply : Reply} (found : (dialect.read body now).result = .ok reply) :
    reply.IsWellFormed dialect now := by
  cases dialect with
  | cas10 endpoint => exact PlainText.isWellFormed_of_read found
  | cas20 endpoint expectsProxies =>
      exact ServiceResponse.isWellFormed_of_read ServiceResponse.isProper_blockAttributes
        (Or.inl rfl) found
  | cas30 endpoint expectsProxies =>
      exact ServiceResponse.isWellFormed_of_read ServiceResponse.isProper_inlineOrBlockAttributes
        (Or.inr rfl) found
  | saml11 endpoint tolerance identifiers => exact Saml.isWellFormed_of_read found

/-- An assertion keeps its form when its principal may get proxy tickets. -/
theorem Assertion.IsWellFormed.withCapability {assertion : Assertion} {dialect : Dialect}
    {now : Instant} (formed : assertion.IsWellFormed dialect now) (capability : ProxyCapability) :
    (assertion.withCapability capability).IsWellFormed dialect now := by
  refine ⟨formed.named, formed.ofPrincipal, formed.ofStatement, ?_⟩
  have timely := formed.timely
  cases dialect with
  | saml11 endpoint tolerance identifiers =>
      exact ⟨timely.bounded, timely.tolerated, timely.holds_iff⟩
  | _ => exact ⟨timely.start, timely.endless, timely.holds_iff⟩

namespace Validator

variable (validator : Validator) (uptime : Span) (store : Option GrantStore)

/-- A lookup gives the principal a capability and changes nothing else of the assertion. -/
theorem correlate_assertion (assertion : Assertion) (iou : String) :
    (validator.correlate uptime store assertion iou).result.1 = assertion ∨
      ∃ capability, (validator.correlate uptime store assertion iou).result.1 =
        assertion.withCapability capability := by
  unfold correlate
  split
  · rename_i store issuer _
    rw [Logged.bind_result]
    cases found : (store.retrieve uptime iou).result.1 with
    | some grantingTicket =>
        simp only [found]
        exact Or.inr ⟨⟨grantingTicket, issuer⟩, rfl⟩
    | none =>
        simp only [found]
        exact Or.inl rfl
  · exact Or.inl rfl

/-- Correlation leaves an assertion as it is, or adds a capability to it. -/
theorem correlateReply_assertion (reply : Reply) :
    (validator.correlateReply uptime store reply).result.1 = reply.assertion ∨
      ∃ capability, (validator.correlateReply uptime store reply).result.1 =
        reply.assertion.withCapability capability := by
  rw [correlateReply]
  split
  · exact Or.inl rfl
  · rename_i iou _
    exact validator.correlate_assertion uptime store reply.assertion iou

/-- What is read from a delivery is well formed. -/
theorem isWellFormed_of_replyOf {delivery : Delivery} {now : Instant} {reply : Reply}
    (held : validator.replyOf delivery now = .ok reply) :
    reply.IsWellFormed validator.dialect now := by
  rw [replyOf] at held
  split at held
  · cases held
  · exact Dialect.isWellFormed_of_read held

/-- A success without proxies and without a reference is handed out as it was read. -/
theorem validate_answering {text ticket service : String} {now : Instant} {assertion : Assertion}
    (charset : validator.charset = .utf8) (opens : text.toList.head? = some '<')
    (spokenTicket : isBlankText ticket = false) (spokenService : isBlankText service = false)
    (read : (validator.dialect.read text now).result = .ok (.ofAssertion assertion))
    (randomBits : BitVec 128) :
    (validator.validate (answering text) randomBits now uptime store ticket service).result.1 =
      .ok assertion := by
  rw [validate_result _ _ _ _ _ _ _ _ spokenTicket spokenService, exchange,
    validator.replyOf_answering now charset opens, read]
  simp only [settle, correlateReply, Reply.ofAssertion]
  rfl

/-- A validation that succeeds settles the reply that was read. -/
theorem exists_reply_of_validate {transport : Transport} {randomBits : BitVec 128} {now : Instant}
    {ticket service : String} {assertion : Assertion}
    (validated : (validator.validate transport randomBits now uptime store ticket service).result.1 =
      .ok assertion) :
    ∃ reply, validator.replyOf (validator.exchange transport randomBits now ticket service) now =
        .ok reply ∧ assertion = (validator.correlateReply uptime store reply).result.1 := by
  cases spokenTicket : isBlankText ticket with
  | true =>
      rw [validate_of_blankTicket _ _ _ _ _ _ _ _ spokenTicket] at validated
      cases validated
  | false =>
      cases spokenService : isBlankText service with
      | true =>
          rw [validate_of_blankService _ _ _ _ _ _ _ _ spokenTicket spokenService] at validated
          cases validated
      | false =>
          rw [validate_result _ _ _ _ _ _ _ _ spokenTicket spokenService] at validated
          split at validated
          · cases validated
          · rename_i reply held
            refine ⟨reply, held, ?_⟩
            rw [settle] at validated
            dsimp only at validated
            split at validated
            · exact (Except.ok.inj validated).symm
            · cases validated

end Validator

/--
Whatever is read from an answer is well formed, and so is what a validation hands out: the assertion
that was read, perhaps with a capability for its principal.
-/
theorem assertions_well_formed :
    (∀ (dialect : Dialect) (body : String) (now : Instant) (reply : Reply),
      (dialect.read body now).result = .ok reply → reply.IsWellFormed dialect now) ∧
    ∀ (validator : Validator) (transport : Transport) (randomBits : BitVec 128) (now : Instant)
      (uptime : Span) (store : Option GrantStore) (ticket service : String) (assertion : Assertion),
      (validator.validate transport randomBits now uptime store ticket service).result.1 =
          .ok assertion →
        assertion.IsWellFormed validator.dialect now ∧
          ∃ reply : Reply, reply.IsWellFormed validator.dialect now ∧
            validator.replyOf (validator.exchange transport randomBits now ticket service) now =
              .ok reply ∧
            (assertion = reply.assertion ∨
              ∃ capability, assertion = reply.assertion.withCapability capability) := by
  refine ⟨fun dialect body now reply found => dialect.isWellFormed_of_read found, ?_⟩
  intro validator transport randomBits now uptime store ticket service assertion validated
  obtain ⟨reply, held, rfl⟩ := validator.exists_reply_of_validate uptime store validated
  have formed := validator.isWellFormed_of_replyOf held
  have origin := validator.correlateReply_assertion uptime store reply
  refine ⟨?_, reply, formed, held, origin⟩
  rcases origin with same | ⟨capability, same⟩
  · rw [same]
    exact formed.assertion
  · rw [same]
    exact formed.assertion.withCapability capability

/-- An assertion that starts within the tolerance is handed out before it holds. -/
theorem assertions_well_formed_before_start :
    let dialect := Dialect.saml11 (Endpoint.ofServer "https://cas.example.com") ⟨1000000000⟩ .drawn
    let text := Saml.answer [⟨"1970-01-01T00:00:00.5Z", "1970-01-01T01:00:00Z", " alice ", []⟩]
    let assertion : Assertion := ⟨⟨"alice", NameMap.empty, none⟩, .ofEpochNanos 500000000,
      some (.ofEpochNanos 3600000000000), none, NameMap.empty⟩
    (dialect.read text default).result = .ok (.ofAssertion assertion) ∧
      (Reply.ofAssertion assertion).IsWellFormed dialect default ∧
        (((Validator.allowing []).withDialect dialect).validate (Validator.answering text) 0 default
            ⟨0⟩ none "ST-1" "https://app.example.com/").result.1 = .ok assertion ∧
          assertion.IsWellFormed dialect default ∧ assertion.isValidAt default = false := by
  intro dialect text assertion
  have read : (dialect.read text default).result = .ok (.ofAssertion assertion) := by
    change (Saml.read _ text default).result = _
    rw [Saml.read_of_parse (Saml.parse_answer _)]
    rfl
  have validated := ((Validator.allowing []).withDialect dialect).validate_answering ⟨0⟩ none rfl
    (Saml.head?_answer _) (by decide : isBlankText "ST-1" = false)
    (by decide : isBlankText "https://app.example.com/" = false) read 0
  have formed := assertions_well_formed.1 dialect text default _ read
  have validFormed := (assertions_well_formed.2 _ _ _ _ _ _ _ _ assertion validated).1
  exact ⟨read, formed, validated, validFormed, by decide +kernel⟩

end SignOn
