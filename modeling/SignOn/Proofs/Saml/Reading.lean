import SignOn.Proofs.ServiceResponse.Reading

/-
This file shows what is read from a response, which is the first assertion that can be used now.
-/

namespace SignOn.Saml

open SignOn.Markup SignOn.Text

/-- An assertion holds now when both its bounds are there and now lies between them. -/
def HoldsNow (tolerance : Span) (now : Instant) (assertion : Element) : Prop :=
  ∃ window, window? assertion = some window ∧
    window.notBefore.backOrEarliest tolerance ≤ now ∧ now < window.notOnOrAfter

/-- The subject is the one that the first statement of authentication names. -/
def subject? (assertion : Element) : Option String :=
  (assertion.child? "AuthenticationStatement").bind subjectName?

/-- A window can be used when it has begun, up to the tolerance, and has not ended. -/
theorem usableWindow?_eq_some_iff {tolerance : Span} {now : Instant} {assertion : Element}
    {window : Window} :
    usableWindow? tolerance now assertion = some window ↔
      window? assertion = some window ∧ window.notBefore.backOrEarliest tolerance ≤ now ∧
        now < window.notOnOrAfter := by
  rw [usableWindow?, Option.filter_eq_some_iff, Window.contains, Bool.and_eq_true,
    decide_eq_true_eq, decide_eq_true_eq]

/-- An assertion has a window that can be used exactly when it holds now. -/
theorem isSome_usableWindow?_iff (tolerance : Span) (now : Instant) (assertion : Element) :
    (usableWindow? tolerance now assertion).isSome = true ↔ HoldsNow tolerance now assertion := by
  rw [Option.isSome_iff_exists]
  exact exists_congr fun _ => usableWindow?_eq_some_iff

instance (tolerance : Span) (now : Instant) (assertion : Element) :
    Decidable (HoldsNow tolerance now assertion) :=
  decidable_of_iff _ (isSome_usableWindow?_iff tolerance now assertion)

theorem usableWindow?_of_not_holdsNow {tolerance : Span} {now : Instant} {assertion : Element}
    (unusable : ¬ HoldsNow tolerance now assertion) :
    usableWindow? tolerance now assertion = none := by
  rw [← Option.not_isSome_iff_eq_none, isSome_usableWindow?_iff]
  exact unusable

/-- The search for a usable assertion ends at the first one. -/
theorem firstUsable?_append {tolerance : Span} {now : Instant} {before : List Element}
    (unusable : ∀ earlier ∈ before, ¬ HoldsNow tolerance now earlier) {chosen : Element}
    {window : Window} (usable : usableWindow? tolerance now chosen = some window)
    (after : List Element) :
    (firstUsable? tolerance now (before ++ chosen :: after)).result = some (chosen, window) := by
  induction before with
  | nil =>
      rw [List.nil_append, firstUsable?, usable]
      rfl
  | cons earlier others inductionHypothesis =>
      have skipped := usableWindow?_of_not_holdsNow (unusable earlier List.mem_cons_self)
      rw [List.cons_append, firstUsable?, skipped]
      exact inductionHypothesis fun other member =>
        unusable other (List.mem_cons_of_mem earlier member)

/-- The name of a subject has lost the blanks around it. -/
theorem trim_of_subjectName? {statement : Element} {name : String}
    (named : subjectName? statement = some name) : trim name = name := by
  rw [subjectName?] at named
  simp only [Option.bind_eq_bind, Option.bind_eq_some_iff] at named
  obtain ⟨subject, -, identifier, -, text⟩ := named
  obtain rfl := Option.some.inj text
  exact trim_trim _

/-- A statement authenticates the subject that it names, unless the name is empty. -/
theorem authenticatedName?_eq_some_iff {statement : Element} {name : String} :
    authenticatedName? statement = some name ↔ subjectName? statement = some name ∧ name ≠ "" := by
  rw [authenticatedName?, Option.filter_eq_some_iff, decide_eq_true_eq]

/-- What an assertion says about its subject, unless its window ends before it starts. -/
def stated (name : String) (source statement : Element) (window : Window) : Assertion where
  principal := ⟨name, AttributeBag.ofPairs (attributePairs name source), none⟩
  validFrom := window.notBefore
  validUntil := some window.notOnOrAfter
  issuedAt := (statement.attribute? "AuthenticationInstant").bind Timestamp.read?
  attributes := methodAttributes statement

theorem boundedBy_openEnded (principal : Principal) (validFrom validUntil : Instant) :
    (Assertion.openEnded principal validFrom).boundedBy validUntil =
      if validUntil < validFrom then
        .error (.invalidArgument (.windowInverted validUntil validFrom))
      else .ok ⟨principal, validFrom, some validUntil, none, NameMap.empty⟩ := rfl

/-- An assertion about a name is refused only for a window that ends before it starts. -/
theorem makeAssertion_eq {name : String} (trimmed : trim name = name) (nonempty : name ≠ "")
    (source statement : Element) (window : Window) :
    makeAssertion name source statement window =
      if window.notOnOrAfter < window.notBefore then .error (.protocolViolation .windowInverted)
      else .ok (stated name source statement window) := by
  rw [makeAssertion, Principal.create_of_trimmed trimmed nonempty]
  simp only [boundedBy_openEnded]
  by_cases inverted : window.notOnOrAfter < window.notBefore
  · simp only [if_pos inverted]
    rfl
  · simp only [if_neg inverted]
    rfl

/-- An assertion is read when its first statement of authentication names a subject. -/
theorem readAssertion_result (source : Element) (window : Window) :
    (readAssertion source window).result =
      match (source.child? "AuthenticationStatement").bind fun statement =>
        (authenticatedName? statement).map (statement, ·) with
      | none => .error .noPrincipal
      | some (statement, name) =>
        if window.notOnOrAfter < window.notBefore then .error (.protocolViolation .windowInverted)
        else .ok (stated name source statement window) := by
  rw [readAssertion]
  cases source.child? "AuthenticationStatement" with
  | none => rfl
  | some statement =>
      cases named : authenticatedName? statement with
      | none => simp only [Option.bind_some, named, Option.map_none, Logged.pure_result]
      | some name =>
          obtain ⟨subject, nonempty⟩ := authenticatedName?_eq_some_iff.1 named
          have made := makeAssertion_eq (trim_of_subjectName? subject) nonempty source statement window
          simp only [Option.bind_some, named, Option.map_some, Logged.bind_result,
            Logged.pure_result, made]

/-- An assertion whose window runs forward is read when its subject has a name. -/
theorem readAssertion_of_subject? {source : Element} {name : String}
    (subject : subject? source = some name) (nonempty : name ≠ "") {window : Window}
    (forward : window.notBefore ≤ window.notOnOrAfter) :
    ∃ assertion, (readAssertion source window).result = .ok assertion ∧
      assertion.principal = ⟨name, AttributeBag.ofPairs (attributePairs name source), none⟩ := by
  obtain ⟨statement, authenticated, stated⟩ := Option.bind_eq_some_iff.1 subject
  have named := authenticatedName?_eq_some_iff.2 ⟨stated, nonempty⟩
  have read := readAssertion_result source window
  rw [authenticated, Option.bind_some, named, Option.map_some] at read
  simp only [if_neg forward] at read
  exact ⟨_, read, rfl⟩

/-- An accepted response is the first one in the first body, in its own namespace or in none. -/
theorem response_eq_ok_iff {envelope found : Element} :
    response envelope = .ok found ↔
      envelope.name = "Envelope" ∧
        (envelope.child? "Body").bind (·.child? "Response") = some found ∧
          (found.namespaceUri = none ∨ found.namespaceUri = some protocolNamespace) := by
  rw [response]
  by_cases kind : envelope.name = "Envelope"
  · rw [if_pos kind]
    cases search : (envelope.child? "Body").bind (·.child? "Response") with
    | none => simp
    | some candidate =>
        simp only [kind, true_and, Option.some.injEq]
        cases namespaceUri : candidate.namespaceUri with
        | none =>
            rw [Except.ok.injEq]
            exact ⟨fun same => ⟨same, same ▸ .inl namespaceUri⟩, And.left⟩
        | some uri =>
            by_cases own : uri = protocolNamespace
            · simp only [if_pos own, Except.ok.injEq]
              exact ⟨fun same => ⟨same, same ▸ .inr (own ▸ namespaceUri)⟩, And.left⟩
            · simp only [if_neg own]
              constructor
              · intro accepted
                cases accepted
              · rintro ⟨rfl, missing | foreign⟩
                · rw [namespaceUri] at missing
                  cases missing
                · exact absurd (Option.some.inj (namespaceUri.symm.trans foreign)) own
  · rw [if_neg kind]
    simp [kind]

/-- An accepted response gives its assertions when its status is a success and there are any. -/
theorem assertions_of_response {envelope found : Element} (accepted : response envelope = .ok found) :
    assertions envelope =
      match checkStatus found with
      | .error failure => .error failure
      | .ok _ =>
        match found.childrenNamed "Assertion" with
        | [] => .error (.protocolViolation .noSamlAssertion)
        | assertions => .ok assertions := by
  rw [assertions, accepted]
  change (checkStatus found >>= fun _ => _) = _
  cases checkStatus found <;> rfl

/-- What is read from an accepted response is what is read from its first usable assertion. -/
theorem readRoot_result_of_first {tolerance : Span} {now : Instant} {envelope found : Element}
    (accepted : response envelope = .ok found) (succeeded : checkStatus found = .ok ())
    {before after : List Element} {chosen : Element}
    (listed : found.childrenNamed "Assertion" = before ++ chosen :: after)
    (unusable : ∀ earlier ∈ before, ¬ HoldsNow tolerance now earlier) {window : Window}
    (usable : usableWindow? tolerance now chosen = some window) :
    (readRoot tolerance envelope now).result =
      (readAssertion chosen window).result.map Reply.ofAssertion := by
  have candidates : assertions envelope = .ok (before ++ chosen :: after) := by
    rw [assertions_of_response accepted, succeeded, listed]
    cases before <;> rfl
  rw [readRoot, candidates]
  simp only [Logged.bind_result, firstUsable?_append unusable usable, Logged.pure_result]

theorem read_of_parse {tolerance : Span} {body : String} {envelope : Element}
    (parsed : Element.parse body = .ok envelope) (now : Instant) :
    Saml.read tolerance body now = readRoot tolerance envelope now := by
  rw [Saml.read, parsed]

end SignOn.Saml
