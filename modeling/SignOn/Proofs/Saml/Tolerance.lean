import SignOn.Dialect
import SignOn.Proofs.Saml.Outcome
import SignOn.Proofs.Saml.Selection
import SignOn.Proofs.Time.Instant
import SignOn.Proofs.Time.Timestamp

/-
This file shows that the window of an assertion is exact, and that a tolerance only widens it.
-/

namespace SignOn.Saml

open SignOn.Markup SignOn.Text

/--
An assertion can be used when its first conditions have two bounds that are timestamps, the first of
which has come, up to the tolerance, and the second of which has not.
-/
def IsUsable (tolerance : Span) (now : Instant) (assertion : Element) : Prop :=
  ∃ conditions opening closing notBefore notOnOrAfter start,
    assertion.child? "Conditions" = some conditions ∧
      conditions.attribute? "NotBefore" = some opening ∧ Timestamp.read? opening = some notBefore ∧
      conditions.attribute? "NotOnOrAfter" = some closing ∧
      Timestamp.read? closing = some notOnOrAfter ∧
      notBefore.EndsAt tolerance start ∧ start ≤ now ∧ now < notOnOrAfter

/-- A window has both of its bounds in the first conditions, and they are timestamps. -/
theorem window?_eq_some_iff {assertion : Element} {window : Window} :
    window? assertion = some window ↔
      ∃ conditions opening closing, assertion.child? "Conditions" = some conditions ∧
        conditions.attribute? "NotBefore" = some opening ∧
        Timestamp.read? opening = some window.notBefore ∧
        conditions.attribute? "NotOnOrAfter" = some closing ∧
        Timestamp.read? closing = some window.notOnOrAfter := by
  simp only [window?, Option.bind_eq_bind, Option.bind_eq_some_iff]
  constructor
  · rintro ⟨conditions, inAssertion, notBefore, ⟨opening, written, first⟩, notOnOrAfter,
      ⟨closing, writtenToo, second⟩, made⟩
    obtain rfl := Option.some.inj made
    exact ⟨conditions, opening, closing, inAssertion, written, first, writtenToo, second⟩
  · rintro ⟨conditions, opening, closing, inAssertion, written, first, writtenToo, second⟩
    exact ⟨conditions, inAssertion, _, ⟨opening, written, first⟩, _,
      ⟨closing, writtenToo, second⟩, rfl⟩

/-- The search takes an assertion exactly when it can be used. -/
theorem holdsNow_iff_isUsable (tolerance : Span) (now : Instant) (assertion : Element) :
    HoldsNow tolerance now assertion ↔ IsUsable tolerance now assertion := by
  constructor
  · rintro ⟨window, bounds, begun, notEnded⟩
    obtain ⟨conditions, opening, closing, inAssertion, written, first, writtenToo, second⟩ :=
      window?_eq_some_iff.1 bounds
    exact ⟨conditions, opening, closing, _, _, _, inAssertion, written, first, writtenToo, second,
      (Instant.endsAt_iff _ _ _).2 rfl, begun, notEnded⟩
  · rintro ⟨conditions, opening, closing, notBefore, notOnOrAfter, start, inAssertion, written,
      first, writtenToo, second, ends, begun, notEnded⟩
    obtain rfl := (Instant.endsAt_iff _ _ _).1 ends
    exact ⟨⟨notBefore, notOnOrAfter⟩, window?_eq_some_iff.2 ⟨conditions, opening, closing,
      inAssertion, written, first, writtenToo, second⟩, begun, notEnded⟩

/-- The start of a window is bounded, as the years of timestamps have four digits. -/
theorem second_lt_of_window? {assertion : Element} {window : Window}
    (bounds : window? assertion = some window) : window.notBefore.second < 1000000000000 := by
  obtain ⟨-, opening, -, -, -, read, -⟩ := window?_eq_some_iff.1 bounds
  exact Timestamp.second_lt_of_read? read

/-- Away from leap seconds, whole numbers of nanoseconds tell whether an assertion can be used. -/
theorem holdsNow_iff_of_plain {assertion : Element} {window : Window} {tolerance : Span}
    {now : Instant} (bounds : window? assertion = some window)
    (plainStart : window.notBefore.inLeapSecond = false)
    (plainEnd : window.notOnOrAfter.inLeapSecond = false) (plainNow : now.inLeapSecond = false)
    (inCalendar : Instant.earliest ≤ now) :
    HoldsNow tolerance now assertion ↔
      window.notBefore.epochNanos - tolerance.nanos ≤ now.epochNanos ∧
        now.epochNanos < window.notOnOrAfter.epochNanos := by
  have near := second_lt_of_window? bounds
  have start := @Instant.backOrEarliest_le_iff window.notBefore now tolerance plainStart plainNow near
    inCalendar
  have ending : now < window.notOnOrAfter ↔
      now.epochNanos < window.notOnOrAfter.epochNanos := by
    have reached := Instant.le_iff_epochNanos_le plainEnd plainNow
    rw [← Int.not_le, ← reached]
    exact Decidable.not_not.symm
  rw [← start, ← ending]
  constructor
  · rintro ⟨_, boundsToo, holds⟩
    obtain rfl := Option.some.inj (bounds.symm.trans boundsToo)
    exact holds
  · intro holds
    exact ⟨window, bounds, holds⟩

/-- What can be used under a tolerance can be used under a wider one. -/
theorem IsUsable.widen {tolerance wider : Span} {now : Instant} {assertion : Element}
    (longer : tolerance.nanos ≤ wider.nanos) (usable : IsUsable tolerance now assertion) :
    IsUsable wider now assertion := by
  rw [← holdsNow_iff_isUsable] at usable ⊢
  obtain ⟨window, bounds, begun, notEnded⟩ := usable
  have earlier := window.notBefore.backOrEarliest_antitone longer
  refine ⟨window, bounds, ?_, notEnded⟩
  rw [Instant.le_iff] at earlier begun ⊢
  omega

instance (tolerance : Span) (now : Instant) (assertion : Element) :
    Decidable (IsUsable tolerance now assertion) :=
  decidable_of_iff _ (holdsNow_iff_isUsable tolerance now assertion)

/-- The first of the candidates that can be used stands between those before it and those after. -/
structure IsFirstUsable (tolerance : Span) (now : Instant) (candidates before : List Element)
    (chosen : Element) (after : List Element) : Prop where
  listed : candidates = before ++ chosen :: after
  usable : IsUsable tolerance now chosen
  isFirst : ∀ earlier ∈ before, ¬ IsUsable tolerance now earlier

/-- Among candidates of which one can be used there is a first such one. -/
theorem exists_isFirstUsable {tolerance : Span} {now : Instant} {candidates : List Element}
    {assertion : Element} (among : assertion ∈ candidates)
    (usable : IsUsable tolerance now assertion) :
    ∃ before chosen after, IsFirstUsable tolerance now candidates before chosen after := by
  obtain ⟨before, chosen, after, listed, usable, isFirst⟩ := exists_first (IsUsable tolerance now) among usable
  exact ⟨before, chosen, after, listed, usable, isFirst⟩

namespace IsFirstUsable

variable {tolerance wider : Span} {now : Instant} {candidates before after : List Element}
  {chosen : Element}

/-- Under a wider tolerance the first one stands no later. -/
theorem widen (isFirst : IsFirstUsable tolerance now candidates before chosen after)
    (longer : tolerance.nanos ≤ wider.nanos) :
    ∃ before' chosen' after', IsFirstUsable wider now candidates before' chosen' after' ∧
      before' <+: before := by
  have usable := isFirst.usable.widen longer
  have among : chosen ∈ candidates := by simp [isFirst.listed]
  obtain ⟨before', chosen', after', isFirstToo⟩ := exists_isFirstUsable among usable
  refine ⟨before', chosen', after', isFirstToo, ?_⟩
  -- Were it to stand later, the one that was chosen before would be an earlier hit.
  rcases List.append_eq_append_iff.1 (isFirst.listed.symm.trans isFirstToo.listed) with
    ⟨between, rfl, rest⟩ | ⟨between, rfl, -⟩
  · cases between with
    | nil => rw [List.append_nil]
    | cons next others =>
        obtain ⟨rfl, -⟩ := List.cons.inj rest
        exact absurd usable (isFirstToo.isFirst chosen (by simp))
  · exact List.prefix_append _ _

/-- What is read is read from the first one. -/
theorem exists_readRoot_result {envelope found : Element} (accepted : response envelope = .ok found)
    (succeeded : checkStatus found = .ok ())
    (isFirst : IsFirstUsable tolerance now (found.childrenNamed "Assertion") before chosen after) :
    ∃ window, window? chosen = some window ∧ (readRoot tolerance envelope now).result =
      (readAssertion chosen window).result.map Reply.ofAssertion := by
  have holds := (holdsNow_iff_isUsable tolerance now chosen).2 isFirst.usable
  obtain ⟨window, usable⟩ :=
    Option.isSome_iff_exists.1 ((isSome_usableWindow?_iff tolerance now chosen).2 holds)
  refine ⟨window, (usableWindow?_eq_some_iff.1 usable).1, ?_⟩
  apply readRoot_result_of_first accepted succeeded isFirst.listed ?_ usable
  intro earlier member holdsEarlier
  exact isFirst.isFirst earlier member ((holdsNow_iff_isUsable _ _ _).1 holdsEarlier)

end IsFirstUsable

/-- Reading fails for want of time exactly when no assertion can be used. -/
theorem readRoot_outsideTimeWindow_iff {tolerance : Span} {now : Instant} {envelope found : Element}
    (accepted : response envelope = .ok found) (succeeded : checkStatus found = .ok ())
    (listed : found.childrenNamed "Assertion" ≠ []) (time : Instant) (millis : Nat) :
    (readRoot tolerance envelope now).result = .error (.outsideTimeWindow time millis) ↔
      time = now ∧ millis = tolerance.toMillis ∧
        ∀ assertion ∈ found.childrenNamed "Assertion", ¬ IsUsable tolerance now assertion := by
  by_cases usable : ∃ assertion ∈ found.childrenNamed "Assertion", IsUsable tolerance now assertion
  · obtain ⟨assertion, among, usable⟩ := usable
    have holds := (holdsNow_iff_isUsable tolerance now assertion).2 usable
    obtain ⟨before, chosen, after, isChosen⟩ := exists_isChosen accepted succeeded among holds
    obtain ⟨window, inTime⟩ := isChosen.exists_usableWindow?
    rw [isChosen.readRoot_result inTime, readAssertion_result]
    constructor
    · intro failed
      split at failed
      · cases failed
      · split at failed <;> cases failed
    · rintro ⟨-, -, none⟩
      exact absurd usable (none assertion among)
  · have none : ∀ assertion ∈ found.childrenNamed "Assertion",
        ¬ IsUsable tolerance now assertion :=
      fun assertion among usableToo => usable ⟨assertion, among, usableToo⟩
    have candidates : assertions envelope = .ok (found.childrenNamed "Assertion") := by
      rw [assertions_of_response accepted, succeeded]
      cases children : found.childrenNamed "Assertion" with
      | nil => exact absurd children listed
      | cons first others => rfl
    have search : (firstUsable? tolerance now (found.childrenNamed "Assertion")).result = .none := by
      rw [firstUsable?_result, List.findSome?_eq_none_iff]
      intro assertion among
      have unusable : ¬ HoldsNow tolerance now assertion :=
        fun holds => none assertion among ((holdsNow_iff_isUsable _ _ _).1 holds)
      rw [usableWindow?_of_not_holdsNow unusable]
      rfl
    rw [readRoot_result, candidates]
    simp only [search]
    constructor
    · intro failed
      cases failed
      exact ⟨rfl, rfl, none⟩
    · rintro ⟨rfl, rfl, -⟩
      rfl

/--
An assertion can be used while now lies between its bounds, the first of which is stepped back by the
tolerance; away from leap seconds this is arithmetic in nanoseconds. Reading fails for want of time
exactly when no assertion can be used, and else it reads the first one that can. A wider tolerance
takes none of them away, so that the first one stands no later and no such failure is new.
-/
theorem window_exact_and_widened (endpoint : Endpoint) (tolerance : Span)
    (identifiers : IdentifierSource) (now : Instant) {body : String} {envelope found : Element}
    (parsed : Element.parse body = .ok envelope) (accepted : response envelope = .ok found)
    (succeeded : checkStatus found = .ok ()) (listed : found.childrenNamed "Assertion" ≠ []) :
    (∀ assertion, (usableWindow? tolerance now assertion).isSome = true ↔
      IsUsable tolerance now assertion) ∧
    (∀ assertion window, window? assertion = some window →
      window.notBefore.inLeapSecond = false → window.notOnOrAfter.inLeapSecond = false →
      now.inLeapSecond = false → Instant.earliest ≤ now →
      (IsUsable tolerance now assertion ↔
        window.notBefore.epochNanos - tolerance.nanos ≤ now.epochNanos ∧
          now.epochNanos < window.notOnOrAfter.epochNanos)) ∧
    (∀ time millis, ((Dialect.saml11 endpoint tolerance identifiers).read body now).result =
        .error (.outsideTimeWindow time millis) ↔
      time = now ∧ millis = tolerance.toMillis ∧
        ∀ assertion ∈ found.childrenNamed "Assertion", ¬ IsUsable tolerance now assertion) ∧
    (∀ before chosen after,
      IsFirstUsable tolerance now (found.childrenNamed "Assertion") before chosen after →
      ∃ window, window? chosen = some window ∧
        ((Dialect.saml11 endpoint tolerance identifiers).read body now).result =
          (readAssertion chosen window).result.map Reply.ofAssertion) ∧
    ∀ wider : Span, tolerance.nanos ≤ wider.nanos →
      (∀ assertion, IsUsable tolerance now assertion → IsUsable wider now assertion) ∧
      (∀ before chosen after,
        IsFirstUsable tolerance now (found.childrenNamed "Assertion") before chosen after →
        ∃ before' chosen' after', before' <+: before ∧
          IsFirstUsable wider now (found.childrenNamed "Assertion") before' chosen' after') ∧
      (((Dialect.saml11 endpoint wider identifiers).read body now).result =
          .error (.outsideTimeWindow now wider.toMillis) →
        ((Dialect.saml11 endpoint tolerance identifiers).read body now).result =
          .error (.outsideTimeWindow now tolerance.toMillis)) := by
  simp only [Dialect.read]
  rw [read_of_parse parsed]
  have outside (span : Span) := @readRoot_outsideTimeWindow_iff span now envelope found accepted
    succeeded listed
  refine ⟨?_, ?_, outside tolerance, ?_, ?_⟩
  · intro assertion
    rw [isSome_usableWindow?_iff, holdsNow_iff_isUsable]
  · intro assertion window bounds plainStart plainEnd plainNow inCalendar
    rw [← holdsNow_iff_isUsable]
    exact holdsNow_iff_of_plain bounds plainStart plainEnd plainNow inCalendar
  · intro before chosen after isFirst
    exact isFirst.exists_readRoot_result accepted succeeded
  · intro wider longer
    refine ⟨fun assertion => IsUsable.widen longer, ?_, ?_⟩
    · intro before chosen after isFirst
      obtain ⟨before', chosen', after', isFirstToo, earlier⟩ := isFirst.widen longer
      exact ⟨before', chosen', after', earlier, isFirstToo⟩
    · intro failed
      rw [read_of_parse parsed] at failed
      obtain ⟨-, -, none⟩ := (outside wider _ _).1 failed
      refine (outside tolerance _ _).2 ⟨rfl, rfl, ?_⟩
      intro assertion among usable
      exact none assertion among (usable.widen longer)

/-- Alice is authenticated from the middle of a leap second on. -/
def leapAssertion : AssertionText where
  notBefore := "2016-12-31T23:59:60.5Z"
  notOnOrAfter := "2017-01-01T00:05:00Z"
  user := "alice"
  statements := []

/-- Bob is authenticated for the last day of the year and five minutes more. -/
def newYearAssertion : AssertionText where
  notBefore := "2016-12-31T00:00:00+00:00"
  notOnOrAfter := "2017-01-01T00:05:00Z"
  user := "bob"
  statements := []

/-- Two tenths into a leap second, a tolerance of four tenths reaches into it and one of two does not. -/
theorem window_exact_and_widened_in_leap_second :
    let now : Instant := ⟨1483228799, 1200000000, by decide⟩
    let leap := leapAssertion.element
    let newYear := newYearAssertion.element
    Element.parse (answer [leapAssertion, newYearAssertion]) = .ok (answerElement [leap, newYear]) ∧
      response (answerElement [leap, newYear]) = .ok (responseElement [leap, newYear]) ∧
      checkStatus (responseElement [leap, newYear]) = .ok () ∧
      (responseElement [leap, newYear]).childrenNamed "Assertion" = [leap, newYear] ∧
      IsFirstUsable (.ofMillis 200) now [leap, newYear] [leap] newYear [] ∧
      IsUsable (.ofMillis 400) now leap ∧
      ∃ before' chosen' after', before' <+: [leap] ∧
        IsFirstUsable (.ofMillis 400) now [leap, newYear] before' chosen' after' := by
  intro now leap newYear
  have parsed := parse_answer [leapAssertion, newYearAssertion]
  have isFirst : IsFirstUsable (.ofMillis 200) now [leap, newYear] [leap] newYear [] := by
    refine ⟨rfl, by decide +kernel, ?_⟩
    intro earlier member
    obtain rfl := List.mem_singleton.1 member
    decide +kernel
  obtain ⟨-, -, -, -, widened⟩ := window_exact_and_widened
    (Endpoint.ofServer "https://cas.example.com") (.ofMillis 200) .drawn now parsed rfl rfl
    (by exact List.cons_ne_nil _ _)
  exact ⟨parsed, rfl, rfl, rfl, isFirst, by decide +kernel,
    (widened (.ofMillis 400) (by decide)).2.1 _ _ _ isFirst⟩

end SignOn.Saml
