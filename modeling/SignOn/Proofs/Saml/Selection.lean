import Mathlib.Logic.Relation
import SignOn.Proofs.AttributeBag
import SignOn.Proofs.Saml.Answer
import SignOn.Proofs.Saml.Reading

/-
This file shows that one assertion decides what is read, and in it what is said about one subject.
-/

namespace SignOn

namespace Markup

/-- The first element of a name is changed. -/
def changeFirst (name : String) (change : Element → Element) : List Element → List Element
  | [] => []
  | element :: others =>
    if element.name = name then change element :: others
    else element :: changeFirst name change others

namespace Element

def changeChild (element : Element) (name : String) (change : Element → Element) : Element :=
  { element with children := changeFirst name change element.children }

/-- The tag of an element around other content. -/
def withContent (element : Element) (children : List Element) (characterData : String) : Element :=
  { element with children := children, characterData := characterData }

/-- The first child of a name is the one that was changed. -/
theorem child?_changeChild {name : String} {change : Element → Element}
    (renamed : ∀ element, (change element).name = element.name) (element : Element) :
    (element.changeChild name change).child? name = (element.child? name).map change := by
  rw [child?, child?, changeChild]
  induction element.children with
  | nil => rfl
  | cons child others inductionHypothesis =>
      rw [changeFirst]
      by_cases same : child.name = name
      · rw [if_pos same, List.find?_cons_of_pos (by simp [renamed, same]),
          List.find?_cons_of_pos (by simp [same])]
        rfl
      · rw [if_neg same, List.find?_cons_of_neg (by simp [same]), inductionHypothesis,
          List.find?_cons_of_neg (by simp [same])]

end Element

end Markup

namespace Saml

open Markup Text

/-- The envelope with other content in its response. -/
def withResponse (envelope : Element) (children : List Element) (characterData : String) :
    Element :=
  envelope.changeChild "Body" (·.changeChild "Response" (·.withContent children characterData))

/-- What is not an assertion stays. -/
def withoutAssertions (children : List Element) : List Element :=
  children.filter (·.name != "Assertion")

theorem ne_of_mem_withoutAssertions {children : List Element} {element : Element}
    (member : element ∈ withoutAssertions children) : element.name ≠ "Assertion" :=
  bne_iff_ne.1 (List.mem_filter.1 member).2

theorem withoutAssertions_withoutAssertions (children : List Element) :
    withoutAssertions (withoutAssertions children) = withoutAssertions children := by
  rw [withoutAssertions, withoutAssertions, List.filter_filter]
  simp only [Bool.and_self]

/-- The status stays when assertions are left out. -/
theorem find?_withoutAssertions (children : List Element) :
    (withoutAssertions children).find? (·.name == "Status") =
      children.find? (·.name == "Status") := by
  rw [withoutAssertions, List.find?_filter]
  congr 1
  funext element
  by_cases status : element.name = "Status" <;> simp [status]

/--
A statement of an assertion does not count when it releases attributes about another subject or
about none, or when another statement of authentication stands before it.
-/
def IsIdle (subject : Option String) (before : List Element) (statement : Element) : Prop :=
  (statement.name = "AttributeStatement" ∧
      (subjectName? statement = none ∨ subjectName? statement ≠ subject)) ∨
    (statement.name = "AuthenticationStatement" ∧
      ∃ earlier ∈ before, earlier.name = "AuthenticationStatement")

/-- Idle statements are added, altered or deleted at one place of an assertion. -/
inductive Edit (assertion : Element) : Element → Prop
  | replace {before removed after : List Element}
      (listed : assertion.children = before ++ removed ++ after)
      (wereIdle : ∀ statement ∈ removed, IsIdle (subject? assertion) before statement)
      {added : List Element}
      (areIdle : ∀ statement ∈ added, IsIdle (subject? assertion) before statement)
      (characterData : String) :
      Edit assertion (assertion.withContent (before ++ added ++ after) characterData)

/-- Two assertions with the same conditions, authentication and attributes of the subject. -/
structure ReadsAlike (first second : Element) : Prop where
  name : first.name = second.name
  conditions : first.child? "Conditions" = second.child? "Conditions"
  authentication :
    first.child? "AuthenticationStatement" = second.child? "AuthenticationStatement"
  released : ∀ name, subject? first = some name →
    attributePairs name first = attributePairs name second

namespace ReadsAlike

theorem refl (assertion : Element) : ReadsAlike assertion assertion :=
  ⟨rfl, rfl, rfl, fun _ _ => rfl⟩

variable {first second third : Element}

/-- Assertions that read alike have one subject. -/
theorem subject (alike : ReadsAlike first second) : subject? first = subject? second := by
  rw [subject?, subject?, alike.authentication]

theorem trans (alike : ReadsAlike first second) (onward : ReadsAlike second third) :
    ReadsAlike first third where
  name := alike.name.trans onward.name
  conditions := alike.conditions.trans onward.conditions
  authentication := alike.authentication.trans onward.authentication
  released name named :=
    (alike.released name named).trans (onward.released name (alike.subject ▸ named))

/-- Assertions that read alike can be used at the same times. -/
theorem usableWindow? (alike : ReadsAlike first second) (tolerance : Span) (now : Instant) :
    usableWindow? tolerance now first = usableWindow? tolerance now second := by
  rw [Saml.usableWindow?, Saml.usableWindow?, window?, window?, alike.conditions]

/-- Assertions that read alike say the same. -/
theorem readAssertion_result (alike : ReadsAlike first second) (window : Window) :
    (readAssertion first window).result = (readAssertion second window).result := by
  rw [Saml.readAssertion_result, Saml.readAssertion_result, ← alike.authentication]
  cases authenticated : first.child? "AuthenticationStatement" with
  | none => rfl
  | some statement =>
      cases named : authenticatedName? statement with
      | none => simp only [Option.bind_some, named, Option.map_none]
      | some name =>
          have subject : subject? first = some name := by
            rw [subject?, authenticated]
            exact (authenticatedName?_eq_some_iff.1 named).1
          simp only [Option.bind_some, named, Option.map_some, stated,
            alike.released name subject]

end ReadsAlike

/-- A search does not change with elements that are no hits or come behind an earlier hit. -/
theorem find?_append_append {isHit : Element → Bool} {before middle : List Element}
    (covered : ∀ element ∈ middle, isHit element = true → ∃ earlier ∈ before, isHit earlier = true)
    (after : List Element) :
    (before ++ middle ++ after).find? isHit = (before ++ after).find? isHit := by
  rw [List.append_assoc, List.find?_append, List.find?_append, List.find?_append]
  cases found : before.find? isHit with
  | some earlier => rfl
  | none =>
      -- Without an earlier hit no element in the middle can be one either.
      have missed : middle.find? isHit = none := by
        rw [List.find?_eq_none]
        intro element member hit
        obtain ⟨earlier, among, earlierHit⟩ := covered element member hit
        exact List.find?_eq_none.1 found earlier among earlierHit
      rw [missed, Option.none_or]

section Idle

variable {subject : Option String} {before middle : List Element}

/-- Idle statements do not hide the conditions. -/
theorem conditions_of_isIdle (idle : ∀ statement ∈ middle, IsIdle subject before statement)
    (after : List Element) :
    (before ++ middle ++ after).find? (·.name == "Conditions") =
      (before ++ after).find? (·.name == "Conditions") := by
  apply find?_append_append
  intro statement member hit
  rcases idle statement member with ⟨named, -⟩ | ⟨named, -⟩ <;> simp [named] at hit

/-- Idle statements do not come before the first statement of authentication. -/
theorem authentication_of_isIdle (idle : ∀ statement ∈ middle, IsIdle subject before statement)
    (after : List Element) :
    (before ++ middle ++ after).find? (·.name == "AuthenticationStatement") =
      (before ++ after).find? (·.name == "AuthenticationStatement") := by
  apply find?_append_append
  intro statement member hit
  rcases idle statement member with ⟨named, -⟩ | ⟨-, first, among, named⟩
  · simp [named] at hit
  · exact ⟨first, among, by simp [named]⟩

/-- No idle statement is among those that release attributes about the subject. -/
theorem released_of_isIdle {name : String}
    (idle : ∀ statement ∈ middle, IsIdle (some name) before statement) (after : List Element) :
    ((before ++ middle ++ after).filter (·.name == "AttributeStatement")).filter (isAbout name) =
      ((before ++ after).filter (·.name == "AttributeStatement")).filter (isAbout name) := by
  have foreign : (middle.filter (·.name == "AttributeStatement")).filter (isAbout name) = [] := by
    rw [List.filter_filter, List.filter_eq_nil_iff]
    intro statement member hit
    rw [Bool.and_eq_true, isAbout, beq_iff_eq, beq_iff_eq] at hit
    rcases idle statement member with ⟨-, missing | different⟩ | ⟨named, -⟩
    · rw [missing] at hit
      cases hit.1
    · exact different hit.1
    · rw [named] at hit
      exact absurd hit.2 (by decide)
  simp only [List.filter_append, foreign, List.append_nil]

end Idle

/-- One edit of idle statements changes nothing that is read. -/
theorem Edit.readsAlike {first second : Element} (edit : Edit first second) :
    ReadsAlike first second := by
  cases edit with
  | @replace before removed after listed wereIdle added areIdle characterData =>
      refine ⟨rfl, ?_, ?_, ?_⟩
      · rw [Element.child?, listed, conditions_of_isIdle wereIdle]
        exact (conditions_of_isIdle areIdle after).symm
      · rw [Element.child?, listed, authentication_of_isIdle wereIdle]
        exact (authentication_of_isIdle areIdle after).symm
      · -- Idle is meant for the subject that the first authentication names, before and after.
        intro name named
        rw [named] at wereIdle areIdle
        rw [attributePairs, attributePairs, Element.childrenNamed, listed,
          released_of_isIdle wereIdle, ← released_of_isIdle areIdle]
        rfl

/-- No series of such edits changes what is read. -/
theorem readsAlike_of_edits {first second : Element}
    (edits : Relation.ReflTransGen Edit first second) : ReadsAlike first second := by
  -- The subject that later edits refer to is the old one, since each edit keeps it.
  induction edits with
  | refl => exact ReadsAlike.refl first
  | tail _ edit inductionHypothesis => exact inductionHypothesis.trans edit.readsAlike

/-- The response that is found has the other content. -/
theorem response_withResponse {envelope found : Element} (accepted : response envelope = .ok found)
    (children : List Element) (characterData : String) :
    response (withResponse envelope children characterData) =
      .ok (found.withContent children characterData) := by
  obtain ⟨kind, located, namespaceUri⟩ := response_eq_ok_iff.1 accepted
  obtain ⟨body, inEnvelope, inBody⟩ := Option.bind_eq_some_iff.1 located
  refine response_eq_ok_iff.2 ⟨kind, ?_, namespaceUri⟩
  have renamed (element : Element) :
      (element.changeChild "Response" (·.withContent children characterData)).name =
        element.name := rfl
  have retained (element : Element) :
      (element.withContent children characterData).name = element.name := rfl
  rw [withResponse, Element.child?_changeChild renamed, inEnvelope, Option.map_some,
    Option.bind_some, Element.child?_changeChild retained, inBody, Option.map_some]

/-- A statement about the subject gives a value in an attribute of the name. -/
def Releases (assertion : Element) (subject name text : String) : Prop :=
  ∃ statement ∈ assertion.childrenNamed "AttributeStatement",
    subjectName? statement = some subject ∧
      ∃ entry ∈ statement.childrenNamed "Attribute",
        entry.attribute? "AttributeName" = some name ∧
          ∃ value ∈ entry.childrenNamed "AttributeValue", value.text = text

/-- Every pair of an assertion is released by a statement about the subject. -/
theorem releases_of_mem_attributePairs {assertion : Element} {subject name text : String}
    (member : (name, text) ∈ attributePairs subject assertion) :
    Releases assertion subject name text := by
  obtain ⟨statement, among, given⟩ := List.mem_flatMap.1 member
  obtain ⟨listed, about⟩ := List.mem_filter.1 among
  obtain ⟨entry, entries, given⟩ := List.mem_flatMap.1 given
  refine ⟨statement, listed, eq_of_beq about, entry, entries, ?_⟩
  cases named : entry.attribute? "AttributeName" with
  | none => simp [named] at given
  | some key =>
      simp only [named] at given
      obtain ⟨value, values, same⟩ := List.mem_map.1 given
      obtain ⟨rfl, rfl⟩ := Prod.mk.inj same
      exact ⟨rfl, value, values, rfl⟩

/-- What is read from an assertion is about its subject and released by it. -/
theorem releases_of_readAssertion {source : Element} {window : Window} {assertion : Assertion}
    (made : (readAssertion source window).result = .ok assertion) :
    subject? source = some assertion.principal.name ∧
      ∀ name value, assertion.principal.attributes.get? name = some value →
        ∀ text ∈ value.values, Releases source assertion.principal.name name text := by
  rw [readAssertion_result] at made
  cases authenticated : source.child? "AuthenticationStatement" with
  | none =>
      rw [authenticated] at made
      cases made
  | some statement =>
      cases named : authenticatedName? statement with
      | none =>
          simp only [authenticated, Option.bind_some, named, Option.map_none] at made
          cases made
      | some subject =>
          simp only [authenticated, Option.bind_some, named, Option.map_some] at made
          split at made
          · cases made
          · obtain rfl := Except.ok.inj made
            constructor
            · rw [subject?, authenticated]
              exact (authenticatedName?_eq_some_iff.1 named).1
            · intro name value found text member
              exact releases_of_mem_attributePairs (AttributeBag.mem_of_get?_ofPairs found member)

/-- The first assertion that holds now in the response that is found in an envelope. -/
structure IsChosen (tolerance : Span) (now : Instant) (envelope found : Element)
    (before : List Element) (chosen : Element) (after : List Element) : Prop where
  accepted : response envelope = .ok found
  succeeded : checkStatus found = .ok ()
  listed : found.children = before ++ chosen :: after
  isAssertion : chosen.name = "Assertion"
  holds : HoldsNow tolerance now chosen
  isFirst : ∀ earlier ∈ before, earlier.name = "Assertion" → ¬ HoldsNow tolerance now earlier

namespace IsChosen

variable {tolerance : Span} {now : Instant} {envelope found chosen : Element}
  {before after : List Element}

theorem exists_usableWindow? (isChosen : IsChosen tolerance now envelope found before chosen after) :
    ∃ window, usableWindow? tolerance now chosen = some window :=
  Option.isSome_iff_exists.1 ((isSome_usableWindow?_iff tolerance now chosen).2 isChosen.holds)

/-- No assertion before the chosen one holds now. -/
theorem unusable (isChosen : IsChosen tolerance now envelope found before chosen after) :
    ∀ earlier ∈ before.filter (·.name == "Assertion"), ¬ HoldsNow tolerance now earlier := by
  intro earlier member
  obtain ⟨among, named⟩ := List.mem_filter.1 member
  exact isChosen.isFirst earlier among (eq_of_beq named)

/-- The outcome of an answer is that of the chosen assertion. -/
theorem readRoot_result (isChosen : IsChosen tolerance now envelope found before chosen after)
    {window : Window} (usable : usableWindow? tolerance now chosen = some window) :
    (readRoot tolerance envelope now).result =
      (readAssertion chosen window).result.map Reply.ofAssertion := by
  have candidates : found.childrenNamed "Assertion" =
      before.filter (·.name == "Assertion") ++ chosen :: after.filter (·.name == "Assertion") := by
    rw [Element.childrenNamed, isChosen.listed, List.filter_append,
      List.filter_cons_of_pos (by simp [isChosen.isAssertion])]
  exact readRoot_result_of_first isChosen.accepted isChosen.succeeded candidates isChosen.unusable
    usable

/-- Around an assertion that reads alike the others may change as long as none holds earlier. -/
theorem withResponse (isChosen : IsChosen tolerance now envelope found before chosen after)
    {before' after' : List Element} {chosen' : Element} (alike : ReadsAlike chosen chosen')
    (sameBefore : withoutAssertions before' = withoutAssertions before)
    (sameAfter : withoutAssertions after' = withoutAssertions after)
    (isFirst : ∀ earlier ∈ before', earlier.name = "Assertion" →
      ¬ HoldsNow tolerance now earlier) (characterData : String) :
    IsChosen tolerance now
      (Saml.withResponse envelope (before' ++ chosen' :: after') characterData)
      (found.withContent (before' ++ chosen' :: after') characterData) before' chosen' after' where
  accepted := response_withResponse isChosen.accepted _ characterData
  succeeded := by
    have isAssertion : chosen'.name = "Assertion" := alike.name ▸ isChosen.isAssertion
    have sameStatus : (before' ++ chosen' :: after').find? (·.name == "Status") =
        found.child? "Status" := by
      rw [Element.child?, isChosen.listed, List.find?_append, List.find?_append,
        List.find?_cons_of_neg (by simp [isAssertion]),
        List.find?_cons_of_neg (by simp [isChosen.isAssertion]), ← find?_withoutAssertions before',
        ← find?_withoutAssertions after', sameBefore, sameAfter, find?_withoutAssertions,
        find?_withoutAssertions]
    rw [← isChosen.succeeded, checkStatus, checkStatus, ← sameStatus]
    rfl
  listed := rfl
  isAssertion := alike.name ▸ isChosen.isAssertion
  holds := by
    rw [← isSome_usableWindow?_iff, ← alike.usableWindow?, isSome_usableWindow?_iff]
    exact isChosen.holds
  isFirst := isFirst

/-- Two envelopes are read alike when their chosen assertions are. -/
theorem readRoot_result_eq (isChosen : IsChosen tolerance now envelope found before chosen after)
    {envelope' found' chosen' : Element} {before' after' : List Element}
    (isChosen' : IsChosen tolerance now envelope' found' before' chosen' after')
    (alike : ReadsAlike chosen chosen') :
    (readRoot tolerance envelope' now).result = (readRoot tolerance envelope now).result := by
  obtain ⟨window, usable⟩ := isChosen.exists_usableWindow?
  rw [isChosen.readRoot_result usable, alike.readAssertion_result]
  exact isChosen'.readRoot_result (alike.usableWindow? tolerance now ▸ usable)

end IsChosen

/-- A list with a hit has a first one. -/
theorem exists_first {Item : Type} (isHit : Item → Prop) [DecidablePred isHit] {items : List Item}
    {item : Item} (among : item ∈ items) (hit : isHit item) :
    ∃ before first after, items = before ++ first :: after ∧ isHit first ∧
      ∀ earlier ∈ before, ¬ isHit earlier := by
  cases search : items.find? fun candidate => decide (isHit candidate) with
  | none => exact absurd (decide_eq_true hit) (List.find?_eq_none.1 search item among)
  | some first =>
      obtain ⟨found, before, after, listed, missed⟩ := List.find?_eq_some_iff_append.1 search
      refine ⟨before, first, after, listed, of_decide_eq_true found, ?_⟩
      intro earlier member earlierHit
      have notHit := missed earlier member
      rw [decide_eq_true earlierHit] at notHit
      cases notHit

/-- An accepted response with an assertion that holds now has a first one. -/
theorem exists_isChosen {tolerance : Span} {now : Instant} {envelope found assertion : Element}
    (accepted : response envelope = .ok found) (succeeded : checkStatus found = .ok ())
    (among : assertion ∈ found.childrenNamed "Assertion")
    (holds : HoldsNow tolerance now assertion) :
    ∃ before chosen after, IsChosen tolerance now envelope found before chosen after := by
  obtain ⟨member, named⟩ := List.mem_filter.1 among
  obtain ⟨before, chosen, after, listed, ⟨isAssertion, chosenHolds⟩, isFirst⟩ :=
    exists_first (fun element => element.name = "Assertion" ∧ HoldsNow tolerance now element) member ⟨eq_of_beq named, holds⟩
  refine ⟨before, chosen, after, accepted, succeeded, listed, isAssertion, chosenHolds, ?_⟩
  intro earlier earlierMember earlierNamed earlierHolds
  exact isFirst earlier earlierMember ⟨earlierNamed, earlierHolds⟩

/--
The first assertion that holds now decides what is read. It is read as if no other were there, and
the statements in it that are not about its subject or follow its first authentication do not count.
It is read whenever its subject has a name and its window runs forward. Whoever is named then is its
subject, and every value comes from its statements about the subject.
-/
theorem read_follows_first_assertion (endpoint : Endpoint) (tolerance : Span)
    (identifiers : IdentifierSource) (now : Instant) {body : String}
    {envelope found chosen : Element} {before after : List Element}
    (parsed : Element.parse body = .ok envelope)
    (isChosen : IsChosen tolerance now envelope found before chosen after) :
    (∀ reduced characterData,
      Element.parse reduced = .ok (withResponse envelope
        (withoutAssertions before ++ chosen :: withoutAssertions after) characterData) →
      ((Dialect.saml11 endpoint tolerance identifiers).read reduced now).result =
        ((Dialect.saml11 endpoint tolerance identifiers).read body now).result) ∧
    (∀ altered, Relation.ReflTransGen Edit chosen altered → ∀ edited characterData,
      Element.parse edited = .ok (withResponse envelope (before ++ altered :: after)
        characterData) →
      ((Dialect.saml11 endpoint tolerance identifiers).read edited now).result =
        ((Dialect.saml11 endpoint tolerance identifiers).read body now).result) ∧
    (∀ name window, subject? chosen = some name → name ≠ "" → window? chosen = some window →
      window.notBefore ≤ window.notOnOrAfter → ∃ reply,
        ((Dialect.saml11 endpoint tolerance identifiers).read body now).result = .ok reply ∧
          reply.assertion.principal =
            ⟨name, AttributeBag.ofPairs (attributePairs name chosen), none⟩) ∧
    ∀ reply, ((Dialect.saml11 endpoint tolerance identifiers).read body now).result = .ok reply →
      subject? chosen = some reply.assertion.principal.name ∧
        ∀ name value, reply.assertion.principal.attributes.get? name = some value →
          ∀ text ∈ value.values, Releases chosen reply.assertion.principal.name name text := by
  simp only [Dialect.read]
  rw [read_of_parse parsed]
  refine ⟨?_, ?_, ?_, ?_⟩
  · intro reduced characterData parsedReduced
    rw [read_of_parse parsedReduced]
    have noneEarlier : ∀ earlier ∈ withoutAssertions before, earlier.name = "Assertion" →
        ¬ HoldsNow tolerance now earlier := by
      intro earlier member named
      exact absurd named (ne_of_mem_withoutAssertions member)
    have alike := ReadsAlike.refl chosen
    exact isChosen.readRoot_result_eq (isChosen.withResponse alike
      (withoutAssertions_withoutAssertions before) (withoutAssertions_withoutAssertions after)
      noneEarlier characterData) alike
  · intro altered edits edited characterData parsedEdited
    rw [read_of_parse parsedEdited]
    have alike := readsAlike_of_edits edits
    exact isChosen.readRoot_result_eq
      (isChosen.withResponse alike rfl rfl isChosen.isFirst characterData) alike
  · intro name window subject nonempty bounds forward
    obtain ⟨window', usable⟩ := isChosen.exists_usableWindow?
    obtain rfl := Option.some.inj (bounds.symm.trans (usableWindow?_eq_some_iff.1 usable).1)
    obtain ⟨assertion, made, principal⟩ := readAssertion_of_subject? subject nonempty forward
    refine ⟨Reply.ofAssertion assertion, ?_, principal⟩
    rw [isChosen.readRoot_result usable, made]
    rfl
  · intro reply replied
    obtain ⟨window, usable⟩ := isChosen.exists_usableWindow?
    rw [isChosen.readRoot_result usable] at replied
    cases made : (readAssertion chosen window).result with
    | error failure =>
        rw [made] at replied
        cases replied
    | ok assertion =>
        rw [made] at replied
        obtain rfl := Except.ok.inj replied
        exact releases_of_readAssertion made

/-- Mallory was authenticated for a day of 1969. -/
def pastAssertion : AssertionText where
  notBefore := "1969-12-01T00:00:00Z"
  notOnOrAfter := "1969-12-02T00:00:00Z"
  user := "mallory"
  statements := [("mallory", [("role", "admin")])]

/-- Alice is authenticated over the turn of the year, by an assertion that is about both. -/
def presentAssertion : AssertionText where
  notBefore := "1969-12-31T00:00:00Z"
  notOnOrAfter := "1970-01-02T00:00:00Z"
  user := "alice"
  statements := [("mallory", [("role", "admin")]), ("alice", [("role", "staff")])]

/-- An assertion that no longer holds can be taken away from before the one that does. -/
theorem read_follows_first_assertion_behind_past :
    Element.parse (answer [pastAssertion, presentAssertion]) =
        .ok (answerElement [pastAssertion.element, presentAssertion.element]) ∧
      IsChosen ⟨0⟩ default (answerElement [pastAssertion.element, presentAssertion.element])
        (responseElement [pastAssertion.element, presentAssertion.element])
        [pastAssertion.element] presentAssertion.element [] ∧
      ((Dialect.saml11 (Endpoint.ofServer "https://cas.example.com") ⟨0⟩ .drawn).read
          (answer [presentAssertion]) default).result =
        ((Dialect.saml11 (Endpoint.ofServer "https://cas.example.com") ⟨0⟩ .drawn).read
          (answer [pastAssertion, presentAssertion]) default).result := by
  have parsed := parse_answer [pastAssertion, presentAssertion]
  have isChosen : IsChosen ⟨0⟩ default
      (answerElement [pastAssertion.element, presentAssertion.element])
      (responseElement [pastAssertion.element, presentAssertion.element])
      [pastAssertion.element] presentAssertion.element [] := by
    refine ⟨rfl, rfl, rfl, rfl, by decide +kernel, ?_⟩
    intro earlier member _
    obtain rfl := List.mem_singleton.1 member
    decide +kernel
  exact ⟨parsed, isChosen, (read_follows_first_assertion _ _ _ _ parsed isChosen).1 _ ""
    (parse_answer [presentAssertion])⟩

end Saml

end SignOn
