import SignOn.Proofs.Saml.Reading

/-
This file shows which assertion a reply is read from, and which failures an answer can lead to.
-/

namespace SignOn.Saml

open SignOn.Markup SignOn.Text

/-- The search stops at the first assertion that can be used now. -/
theorem firstUsable?_result (tolerance : Span) (now : Instant) (candidates : List Element) :
    (firstUsable? tolerance now candidates).result =
      candidates.findSome? fun assertion =>
        (usableWindow? tolerance now assertion).map (assertion, ·) := by
  induction candidates with
  | nil => rfl
  | cons assertion others inductionHypothesis =>
      rw [firstUsable?, List.findSome?_cons]
      cases usableWindow? tolerance now assertion with
      | some window => rfl
      | none => exact inductionHypothesis

/-- What the search finds can be used now. -/
theorem usable_of_firstUsable? {tolerance : Span} {now : Instant} {candidates : List Element}
    {source : Element} {window : Window}
    (found : (firstUsable? tolerance now candidates).result = some (source, window)) :
    usableWindow? tolerance now source = some window := by
  rw [firstUsable?_result] at found
  obtain ⟨candidate, -, usable⟩ := List.exists_of_findSome?_eq_some found
  obtain ⟨held, windowed, same⟩ := Option.map_eq_some_iff.1 usable
  cases same
  exact windowed

/-- The first assertion that can be used decides, and without one the failure tells the time. -/
theorem readRoot_result (tolerance : Span) (envelope : Element) (now : Instant) :
    (readRoot tolerance envelope now).result =
      match assertions envelope with
      | .error failure => .error failure
      | .ok candidates =>
        match (firstUsable? tolerance now candidates).result with
        | none => .error (.outsideTimeWindow now tolerance.toMillis)
        | some (source, window) =>
          (readAssertion source window).result.map Reply.ofAssertion := by
  rw [readRoot]
  cases assertions envelope with
  | error failure => rfl
  | ok candidates =>
      simp only [Logged.bind_result]
      cases (firstUsable? tolerance now candidates).result with
      | none => rfl
      | some found => rfl

/-- An assertion that is read states what its subject and window say. -/
theorem exists_stated_of_readAssertion {source : Element} {window : Window} {assertion : Assertion}
    (read : (readAssertion source window).result = .ok assertion) :
    ∃ statement name, authenticatedName? statement = some name ∧
      window.notBefore ≤ window.notOnOrAfter ∧
        assertion = stated name source statement window := by
  rw [readAssertion_result] at read
  split at read
  · cases read
  · rename_i statement name named
    obtain ⟨held, -, authenticated⟩ := Option.bind_eq_some_iff.1 named
    obtain ⟨spoken, known, same⟩ := Option.map_eq_some_iff.1 authenticated
    cases same
    split at read
    · cases read
    · rename_i forward
      cases read
      exact ⟨statement, name, known, forward, rfl⟩

/-- A reply is read from an assertion that can be used now, and says what that one states. -/
theorem exists_stated_of_read {tolerance : Span} {body : String} {now : Instant} {reply : Reply}
    (found : (Saml.read tolerance body now).result = .ok reply) :
    ∃ source window statement name, usableWindow? tolerance now source = some window ∧
      authenticatedName? statement = some name ∧ window.notBefore ≤ window.notOnOrAfter ∧
        reply = .ofAssertion (stated name source statement window) := by
  cases parsed : Element.parse body with
  | error fault =>
      rw [Saml.read, parsed] at found
      cases found
  | ok envelope =>
      rw [read_of_parse parsed, readRoot_result] at found
      split at found
      · cases found
      · split at found
        · cases found
        · rename_i source window search
          cases read : (readAssertion source window).result with
          | error failure =>
              rw [read] at found
              cases found
          | ok assertion =>
              rw [read] at found
              cases found
              obtain ⟨statement, name, named, forward, rfl⟩ := exists_stated_of_readAssertion read
              exact ⟨source, window, statement, name, usable_of_firstUsable? search, named,
                forward, rfl⟩

end SignOn.Saml
