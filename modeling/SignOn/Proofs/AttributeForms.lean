import SignOn.Proofs.AttributeBag
import SignOn.Proofs.Saml.Answer
import SignOn.Proofs.Saml.Reading
import SignOn.Proofs.ServiceResponse.Answer

/-
This file shows that attributes are read alike from all forms in which they can be released.
-/

namespace SignOn

open Markup Text

namespace Saml

/--
Two timestamps bound a window, which does not end before it starts, and now lies in it, its start
moved back by the tolerance.
-/
def InWindow (tolerance : Span) (now : Instant) (notBefore notOnOrAfter : String) : Prop :=
  ∃ window : Window, Timestamp.read? notBefore = some window.notBefore ∧
    Timestamp.read? notOnOrAfter = some window.notOnOrAfter ∧
      window.notBefore ≤ window.notOnOrAfter ∧
        window.notBefore.backOrEarliest tolerance ≤ now ∧ now < window.notOnOrAfter

/-- One assertion releases attributes in one statement about its subject. -/
def releasingText (notBefore notOnOrAfter user : String) (pairs : List (String × String)) :
    AssertionText :=
  ⟨notBefore, notOnOrAfter, user, [(user, pairs)]⟩

theorem subjectName?_subjectElement (name user : String) (others : List Element) :
    subjectName? (inAssertion name (subjectElement user :: others)) = some (trim user) :=
  congrArg some (trim_strip_isSpace user)

/-- An assertion that releases attributes about its own subject gives just these, in order. -/
theorem attributePairs_releasingText (notBefore notOnOrAfter user : String)
    {pairs : List (String × String)} (released : ∀ pair ∈ pairs, IsReleasable pair) :
    attributePairs (trim user) (releasingText notBefore notOnOrAfter user pairs).element = pairs := by
  have statements : (releasingText notBefore notOnOrAfter user pairs).element.childrenNamed
      "AttributeStatement" = [statementElement (user, pairs)] := rfl
  have about : isAbout (trim user) (statementElement (user, pairs)) = true := by
    rw [isAbout, statementElement, subjectName?_subjectElement]
    exact beq_self_eq_true _
  have name (pair : String × String) : (attributeElement pair).name = "Attribute" := rfl
  have entries : (statementElement (user, pairs)).childrenNamed "Attribute" =
      pairs.map attributeElement :=
    (Element.filter_map_of_name name pairs "Attribute").trans (if_pos rfl)
  rw [attributePairs, statements, List.filter_cons_of_pos about, List.filter_nil,
    List.flatMap_singleton, statementPairs, entries, List.flatMap_map]
  refine (List.flatMap_congr fun pair member => ?_).trans (List.flatMap_singleton' pairs)
  have text : (withText "AttributeValue" pair.2).text = pair.2 :=
    (trim_strip_isSpace pair.2).trans (released pair member).trimmed
  change [(pair.1, (withText "AttributeValue" pair.2).text)] = [pair]
  rw [text]

/-- An assertion that is written with a window around now can be used. -/
theorem usableWindow?_element {tolerance : Span} {now : Instant} (assertion : AssertionText)
    (inWindow : InWindow tolerance now assertion.notBefore assertion.notOnOrAfter) :
    ∃ window, usableWindow? tolerance now assertion.element = some window ∧
      window.notBefore ≤ window.notOnOrAfter := by
  obtain ⟨window, startRead, endRead, forward, started, ongoing⟩ := inWindow
  refine ⟨window, usableWindow?_eq_some_iff.2 ⟨?_, started, ongoing⟩, forward⟩
  have conditions : assertion.element.child? "Conditions" =
      some (conditionsElement assertion.notBefore assertion.notOnOrAfter) := rfl
  have start : (conditionsElement assertion.notBefore assertion.notOnOrAfter).attribute?
      "NotBefore" = some assertion.notBefore := rfl
  have stop : (conditionsElement assertion.notBefore assertion.notOnOrAfter).attribute?
      "NotOnOrAfter" = some assertion.notOnOrAfter := rfl
  simp only [window?, Option.bind_eq_bind, conditions, Option.bind_some, start, stop, startRead,
    endRead]
  rfl

/-- What an assertion releases about its subject is read as the attributes of its subject. -/
theorem readRoot_releasingText {tolerance : Span} {now : Instant}
    {notBefore notOnOrAfter user : String} (named : trim user ≠ "")
    {pairs : List (String × String)} (released : ∀ pair ∈ pairs, IsReleasable pair)
    (inWindow : InWindow tolerance now notBefore notOnOrAfter) :
    ∃ reply, (readRoot tolerance
          (answerElement [(releasingText notBefore notOnOrAfter user pairs).element]) now).result =
        .ok reply ∧
      reply.assertion.principal = ⟨trim user, AttributeBag.ofPairs pairs, none⟩ := by
  let source := (releasingText notBefore notOnOrAfter user pairs).element
  obtain ⟨window, usable, forward⟩ :=
    usableWindow?_element (releasingText notBefore notOnOrAfter user pairs) inWindow
  have subject : subject? source = some (trim user) :=
    subjectName?_subjectElement "AuthenticationStatement" user []
  obtain ⟨assertion, made, principal⟩ := readAssertion_of_subject? subject named forward
  have accepted : response (answerElement [source]) = .ok (responseElement [source]) := rfl
  have chosen : (responseElement [source]).childrenNamed "Assertion" = [] ++ source :: [] := rfl
  have read := readRoot_result_of_first accepted rfl chosen (by simp) usable
  rw [made] at read
  rw [attributePairs_releasingText notBefore notOnOrAfter user released] at principal
  exact ⟨Reply.ofAssertion assertion, read, principal⟩

end Saml

/-- An answer is read as a success that names a user and releases a bag of attributes. -/
def Dialect.Releases (dialect : Dialect) (body : String) (now : Instant) (user : String)
    (bag : AttributeBag) : Prop :=
  ∃ reply, (dialect.read body now).result = .ok reply ∧
    reply.assertion.principal = ⟨trim user, bag, none⟩

namespace ServiceResponse

variable (attributesOf : Element → AttributeBag) (version : String) (now : Instant) {user : String}

/-- What is read from an answer, once its document is known. -/
theorem read_answer {Item : Type} {node : Item → Node} {element : Item → Element}
    {items : List Item} (named : trim user ≠ "")
    (stands : ∀ item ∈ items, (node item).element? [[], rootScope version] = some (element item))
    (writable : ∀ item ∈ items, (node item).IsWritable 2)
    (noFailure : ∀ below ∈ Element.withDescendants (items.map element),
      below.name ≠ "authenticationFailure") :
    ∃ reply, read attributesOf (answer version user (items.map node)) now = .ok reply ∧
      reply.assertion.principal =
        ⟨trim user, attributesOf (successElement user (items.map element)), none⟩ := by
  rw [read_of_parse (parse_answer version user stands writable)]
  exact readRoot_answerElement attributesOf named noFailure now

/-- Attributes in a block are released with the user. -/
theorem read_block (named : trim user ≠ "") {pairs : List (String × String)}
    (released : ∀ pair ∈ pairs, IsReleasable pair) :
    ∃ reply, read attributesOf (answer version user [blockNode pairs]) now = .ok reply ∧
      reply.assertion.principal =
        ⟨trim user, attributesOf (successElement user [blockElement pairs]), none⟩ := by
  -- The block is the only item, so that its document is one of those that are read already.
  have stands : ∀ block ∈ [pairs], (blockNode block).element? [[], rootScope version] =
      some (blockElement block) := fun block _ => element?_blockNode version block
  have writable : ∀ block ∈ [pairs], (blockNode block).IsWritable 2 := by
    intro block member
    rw [List.mem_singleton.1 member]
    exact isWritable_blockNode released
  have noFailure : ∀ below ∈ Element.withDescendants ([pairs].map blockElement),
      below.name ≠ "authenticationFailure" := by
    intro below member
    rw [List.map_singleton, withDescendants_blockElement] at member
    rcases List.mem_cons.1 member with rfl | member
    · exact show "attributes" ≠ "authenticationFailure" by decide
    obtain ⟨pair, among, rfl⟩ := List.mem_map.1 member
    exact (released pair among).notFailure
  have read := read_answer attributesOf version now named stands writable noFailure
  rw [List.map_singleton, List.map_singleton] at read
  exact read

/-- Flattened attributes are released with the user. -/
theorem read_flattened (named : trim user ≠ "")
    (pairs : List (String × String)) :
    ∃ reply, read attributesOf (answer version user (pairs.map flattenedNode)) now = .ok reply ∧
      reply.assertion.principal =
        ⟨trim user, attributesOf (successElement user (pairs.map flattenedElement)), none⟩ := by
  refine read_answer attributesOf version now named (fun pair _ => element?_flattenedNode version pair)
    (fun pair _ => isWritable_flattenedNode pair) ?_
  intro below member
  rw [withDescendants_flattenedElement] at member
  obtain ⟨pair, -, rfl⟩ := List.mem_map.1 member
  exact show "attribute" ≠ "authenticationFailure" by decide

/-- Qualified attributes are released with the user, whichever key they have. -/
theorem read_qualified (named : trim user ≠ "") {key : String}
    (isKey : key = "AttributeName" ∨ key = "Name") (pairs : List (String × String)) :
    ∃ reply, read attributesOf (answer version user (pairs.map (qualifiedNode key))) now =
        .ok reply ∧
      reply.assertion.principal = ⟨trim user,
        attributesOf (successElement user (pairs.map (qualifiedElement version key))), none⟩ := by
  refine read_answer attributesOf version now named
    (fun pair _ => element?_qualifiedNode version isKey pair)
    (fun pair _ => isWritable_qualifiedNode isKey pair) ?_
  intro below member
  rw [withDescendants_qualifiedElement] at member
  obtain ⟨pair, -, member⟩ := List.mem_flatMap.1 member
  rcases List.mem_cons.1 member with rfl | member
  · exact show "Attribute" ≠ "authenticationFailure" by decide
  · obtain rfl := List.mem_singleton.1 member
    exact show "AttributeValue" ≠ "authenticationFailure" by decide

end ServiceResponse

namespace AttributeBag

theorem valuesUnder_eq_nil {pairs : List (String × String)} {name : String}
    (absent : name ∉ pairs.map Prod.fst) : valuesUnder pairs name = [] := by
  rw [valuesUnder, List.map_eq_nil_iff, List.filter_eq_nil_iff]
  rintro pair member same
  exact absent (eq_of_beq same ▸ List.mem_map_of_mem member)

end AttributeBag

/--
Attributes are read alike from all forms in which they can be released. A name that does not come
is absent, one that comes once has its value, and one that comes more often has the list of its
values in order.
-/
theorem attributes_read_alike (endpoint : Endpoint) (expectsProxies : Bool) (tolerance : Span)
    (identifiers : IdentifierSource) (now : Instant) {pairs : List (String × String)}
    (released : ∀ pair ∈ pairs, IsReleasable pair) {user : String} (named : trim user ≠ "")
    (version : String) {key : String} (isKey : key = "AttributeName" ∨ key = "Name")
    {notBefore notOnOrAfter : String}
    (inWindow : Saml.InWindow tolerance now notBefore notOnOrAfter) :
    ∃ bag : AttributeBag,
      ((Dialect.cas20 endpoint expectsProxies).Releases
          (ServiceResponse.answer version user [ServiceResponse.blockNode pairs]) now user bag ∧
        (Dialect.cas30 endpoint expectsProxies).Releases
          (ServiceResponse.answer version user [ServiceResponse.blockNode pairs]) now user bag ∧
        (Dialect.cas30 endpoint expectsProxies).Releases
          (ServiceResponse.answer version user (pairs.map ServiceResponse.flattenedNode)) now user bag ∧
        (Dialect.cas30 endpoint expectsProxies).Releases
          (ServiceResponse.answer version user (pairs.map (ServiceResponse.qualifiedNode key)))
          now user bag ∧
        (Dialect.saml11 endpoint tolerance identifiers).Releases
          (Saml.answer [Saml.releasingText notBefore notOnOrAfter user pairs]) now user bag) ∧
      ∀ name,
        (name ∉ pairs.map Prod.fst → bag.get? name = none) ∧
        (∀ value, AttributeBag.valuesUnder pairs name = [value] →
          bag.get? name = some (.single value)) ∧
        (2 ≤ (AttributeBag.valuesUnder pairs name).length →
          bag.get? name = some (.multiple (AttributeBag.valuesUnder pairs name).toArray)) := by
  refine ⟨AttributeBag.ofPairs pairs, ⟨?_, ?_, ?_, ?_, ?_⟩, fun name => ⟨?_, ?_, ?_⟩⟩
  -- Each form is read as the bag that its own reader makes, and all of them make the same one.
  · rw [← ServiceResponse.blockAttributes_blockElement user released]
    exact ServiceResponse.read_block _ version now named released
  · rw [← ServiceResponse.inlineOrBlockAttributes_blockElement user released]
    exact ServiceResponse.read_block _ version now named released
  · rw [← ServiceResponse.inlineOrBlockAttributes_flattenedElement user pairs]
    exact ServiceResponse.read_flattened _ version now named pairs
  · rw [← ServiceResponse.inlineOrBlockAttributes_qualifiedElement user version isKey released]
    exact ServiceResponse.read_qualified _ version now named isKey pairs
  · change ∃ reply, (Saml.read tolerance _ now).result = .ok reply ∧ _
    rw [Saml.read_of_parse (Saml.parse_answer _)]
    exact Saml.readRoot_releasingText named released inWindow
  · intro absent
    rw [AttributeBag.get?_ofPairs, AttributeBag.valuesUnder_eq_nil absent]
    rfl
  · intro value alone
    rw [AttributeBag.get?_ofPairs, alone]
    rfl
  · intro several
    rw [AttributeBag.get?_ofPairs]
    -- Two values at least are listed, which the length alone decides.
    match AttributeBag.valuesUnder pairs name, several with
    | first :: second :: others, _ => rfl

/-- Values with characters of the markup in them are read back too, and repeated names are joined. -/
theorem attributes_read_alike_with_repeats :
    let pairs := [("role", "a<b"), ("mail", "\"al\" & co"), ("role", "c")]
    (∀ pair ∈ pairs, IsReleasable pair) ∧ trim "alice" ≠ "" ∧
      ("Name" = "AttributeName" ∨ "Name" = "Name") ∧
      Saml.InWindow ⟨0⟩ default "1969-12-31T00:00:00Z" "1970-01-02T00:00:00Z" ∧
      ∃ bag : AttributeBag,
        (Dialect.cas30 (Endpoint.ofServer "https://cas.example.com") false).Releases
            (ServiceResponse.answer "2.0:assertion" "alice"
              (pairs.map (ServiceResponse.qualifiedNode "Name"))) default "alice" bag ∧
          (Dialect.saml11 (Endpoint.ofServer "https://cas.example.com") ⟨0⟩ .drawn).Releases
            (Saml.answer [Saml.releasingText "1969-12-31T00:00:00Z" "1970-01-02T00:00:00Z" "alice"
              pairs]) default "alice" bag ∧
          bag.get? "role" = some (.multiple #["a<b", "c"]) ∧
          bag.get? "mail" = some (.single "\"al\" & co") ∧ bag.get? "uid" = none := by
  intro pairs
  have released : ∀ pair ∈ pairs, IsReleasable pair := by decide +kernel
  have named : trim "alice" ≠ "" := by decide +kernel
  have inWindow : Saml.InWindow ⟨0⟩ default "1969-12-31T00:00:00Z" "1970-01-02T00:00:00Z" :=
    ⟨⟨⟨-86400, 0, by omega⟩, ⟨86400, 0, by omega⟩⟩, by decide +kernel⟩
  obtain ⟨bag, ⟨-, -, -, qualified, saml⟩, law⟩ :=
    attributes_read_alike (Endpoint.ofServer "https://cas.example.com") false ⟨0⟩ .drawn default
      released named "2.0:assertion" (Or.inr rfl) inWindow
  exact ⟨released, named, Or.inr rfl, inWindow, bag, qualified, saml,
    (law "role").2.2 (by decide), (law "mail").2.1 _ rfl, (law "uid").1 (by decide)⟩

end SignOn
