import SignOn.Time.Instant

/-
This file shows how the order of instants and a step back agree with the count of nanoseconds, and
that a longer step back never ends later.
-/

namespace SignOn.Instant

theorem lt_iff (left right : Instant) :
    left < right ↔
      left.second < right.second ∨ left.second = right.second ∧ left.nanos < right.nanos :=
  Iff.rfl

theorem le_iff (left right : Instant) :
    left ≤ right ↔
      left.second < right.second ∨ left.second = right.second ∧ left.nanos ≤ right.nanos := by
  change ¬ right < left ↔ _
  rw [lt_iff]
  omega

/-- Outside leap seconds a second has no more nanoseconds than usual. -/
theorem nanos_lt_of_not_inLeapSecond {instant : Instant}
    (plain : instant.inLeapSecond = false) : instant.nanos < 1000000000 := by
  rw [inLeapSecond, decide_eq_false_iff_not] at plain
  omega

/-- Outside of leap seconds the count of nanoseconds tells which instant is earlier. -/
theorem le_iff_epochNanos_le {left right : Instant} (plainLeft : left.inLeapSecond = false)
    (plainRight : right.inLeapSecond = false) :
    left ≤ right ↔ left.epochNanos ≤ right.epochNanos := by
  have leftPart := nanos_lt_of_not_inLeapSecond plainLeft
  have rightPart := nanos_lt_of_not_inLeapSecond plainRight
  rw [le_iff, epochNanos, epochNanos]
  omega

/-- A count of nanoseconds never lies in a leap second. -/
theorem inLeapSecond_ofEpochNanos (nanos : Int) : (ofEpochNanos nanos).inLeapSecond = false := by
  rw [inLeapSecond, decide_eq_false_iff_not]
  change ¬ 1000000000 ≤ (nanos % 1000000000).toNat
  omega

/-- The instant of a count of nanoseconds has that count. -/
theorem epochNanos_ofEpochNanos (nanos : Int) : (ofEpochNanos nanos).epochNanos = nanos := by
  change nanos / 1000000000 * 1000000000 + ((nanos % 1000000000).toNat : Int) = nanos
  omega

/-- Outside of leap seconds a step back takes its length from the count of nanoseconds. -/
theorem back_of_not_inLeapSecond {instant : Instant} (plain : instant.inLeapSecond = false)
    (span : Span) : instant.back span = ofEpochNanos (instant.epochNanos - span.nanos) := by
  rw [back, if_neg]
  simp [plain]

theorem longestStep_nanos : longestStep.nanos = 9223372036854775807000000 := by decide

theorem epochNanos_earliest : earliest.epochNanos = -8334601228800000000000 := by decide +kernel

theorem inLeapSecond_earliest : earliest.inLeapSecond = false := by decide +kernel

/--
Where a step back reaches an instant, the step is at least as long as the way. A step that is too
long to be taken covers the whole calendar, as far as years of four digits go.
-/
theorem epochNanos_le_of_backOrEarliest_le {instant now : Instant} {span : Span}
    (plain : instant.inLeapSecond = false) (plainNow : now.inLeapSecond = false)
    (near : instant.second < 1000000000000) (reached : instant.backOrEarliest span ≤ now) :
    instant.epochNanos ≤ now.epochNanos + span.nanos := by
  have part := nanos_lt_of_not_inLeapSecond plain
  rw [backOrEarliest] at reached
  by_cases tooLong : longestStep.nanos < span.nanos
  · -- From the earliest instant on, the span goes beyond the last year of four digits.
    rw [if_pos tooLong, le_iff_epochNanos_le inLeapSecond_earliest plainNow,
      epochNanos_earliest] at reached
    rw [longestStep_nanos] at tooLong
    have bound : instant.epochNanos < 1000000000001 * 1000000000 := by
      rw [epochNanos]
      omega
    omega
  · rw [if_neg tooLong, back_of_not_inLeapSecond plain] at reached
    dsimp only at reached
    split at reached
    · rename_i beforeCalendar
      -- The step leaves the calendar, and everything in it comes later.
      have later := (le_iff_epochNanos_le inLeapSecond_earliest plainNow).1 reached
      have moved : (instant.epochNanos - span.nanos) / 1000000000 < firstSecond := beforeCalendar
      have start : earliest.epochNanos = firstSecond * 1000000000 := by
        rw [epochNanos]
        exact Int.add_zero _
      omega
    · have counted := (le_iff_epochNanos_le (inLeapSecond_ofEpochNanos _) plainNow).1 reached
      rw [epochNanos_ofEpochNanos] at counted
      omega

theorem inLeapSecond_iff (instant : Instant) :
    instant.inLeapSecond = true ↔ 1000000000 ≤ instant.nanos := by
  rw [inLeapSecond, decide_eq_true_eq]

/-- A part of a second is taken from within a leap second. -/
def StaysInside (instant : Instant) (span : Span) : Prop :=
  instant.inLeapSecond = true ∧ span.nanos < 1000000000

instance (instant : Instant) (span : Span) : Decidable (instant.StaysInside span) :=
  inferInstanceAs (Decidable (_ ∧ _))

/--
One instant lies a span before another when the counts of nanoseconds differ by the span. Less than
a second is taken in the second of a leap second, and otherwise no leap second is reached.
-/
structure IsBack (instant : Instant) (span : Span) (moved : Instant) : Prop where
  counted : moved.epochNanos + span.nanos = instant.epochNanos
  inside : instant.StaysInside span → moved.second = instant.second
  outside : ¬ instant.StaysInside span → moved.inLeapSecond = false

/-- A step back leads to the instant that lies the span before. -/
theorem isBack_back (instant : Instant) (span : Span) : instant.IsBack span (instant.back span) := by
  unfold back
  by_cases inside : instant.StaysInside span
  · have counted := (inLeapSecond_iff instant).1 inside.1
    have short := inside.2
    rw [if_pos (show _ ∧ _ from inside)]
    refine ⟨?_, fun _ => rfl, fun outside => absurd inside outside⟩
    rw [epochNanos, epochNanos]
    show instant.second * 1000000000 + ((instant.nanos - span.nanos : Nat) : Int) + span.nanos =
      instant.second * 1000000000 + instant.nanos
    omega
  · rw [if_neg (show ¬ (_ ∧ _) from inside)]
    refine ⟨?_, fun within => absurd within inside, fun _ => inLeapSecond_ofEpochNanos _⟩
    rw [epochNanos_ofEpochNanos]
    omega

/-- The count of nanoseconds tells where a step back leads. -/
theorem IsBack.unique {instant moved other : Instant} {span : Span}
    (isBack : instant.IsBack span moved) (isBackToo : instant.IsBack span other) :
    moved = other := by
  have counted := isBack.counted.trans isBackToo.counted.symm
  rw [epochNanos, epochNanos] at counted
  have same : moved.second = other.second ∧ moved.nanos = other.nanos := by
    by_cases inside : instant.StaysInside span
    · have first := isBack.inside inside
      have second := isBackToo.inside inside
      omega
    · have first := nanos_lt_of_not_inLeapSecond (isBack.outside inside)
      have second := nanos_lt_of_not_inLeapSecond (isBackToo.outside inside)
      omega
  obtain ⟨second, nanos⟩ := same
  cases moved
  cases other
  subst second nanos
  rfl

/-- A longer step back leads no further ahead, across the end of a leap second too. -/
theorem back_antitone (instant : Instant) {span wider : Span} (longer : span.nanos ≤ wider.nanos) :
    instant.back wider ≤ instant.back span := by
  have near := isBack_back instant span
  have far := isBack_back instant wider
  have nearCount := near.counted
  have farCount := far.counted
  rw [epochNanos, epochNanos] at nearCount farCount
  rw [le_iff]
  by_cases farInside : instant.StaysInside wider
  · have nearInside : instant.StaysInside span := ⟨farInside.1, by have := farInside.2; omega⟩
    have nearSecond := near.inside nearInside
    have farSecond := far.inside farInside
    omega
  · have farPlain := nanos_lt_of_not_inLeapSecond (far.outside farInside)
    by_cases nearInside : instant.StaysInside span
    · -- The longer step leaves the leap second and so comes before the end of the second it is in.
      have nearSecond := near.inside nearInside
      have long : 1000000000 ≤ wider.nanos :=
        Nat.not_lt.1 fun short => farInside ⟨nearInside.1, short⟩
      have bound := instant.nanos_lt
      omega
    · have nearPlain := nanos_lt_of_not_inLeapSecond (near.outside nearInside)
      omega

/-- Nothing in the calendar comes before the earliest instant. -/
theorem earliest_le_of_firstSecond_le {instant : Instant} (inCalendar : firstSecond ≤ instant.second) :
    earliest ≤ instant := by
  rw [le_iff]
  show firstSecond < instant.second ∨ firstSecond = instant.second ∧ 0 ≤ instant.nanos
  omega

/-- No step back leads out of the calendar. -/
theorem earliest_le_backOrEarliest (instant : Instant) (span : Span) :
    earliest ≤ instant.backOrEarliest span := by
  rw [backOrEarliest]
  by_cases tooLong : longestStep.nanos < span.nanos
  · rw [if_pos tooLong]
    exact earliest_le_of_firstSecond_le (Int.le_refl _)
  · rw [if_neg tooLong]
    dsimp only
    split
    · exact earliest_le_of_firstSecond_le (Int.le_refl _)
    · apply earliest_le_of_firstSecond_le
      omega

/-- A longer step leads no further ahead when it leaves the calendar either. -/
theorem backOrEarliest_antitone (instant : Instant) {span wider : Span}
    (longer : span.nanos ≤ wider.nanos) :
    instant.backOrEarliest wider ≤ instant.backOrEarliest span := by
  have start := earliest_le_backOrEarliest instant span
  have ordered := back_antitone instant longer
  by_cases tooLong : longestStep.nanos < wider.nanos
  · rw [backOrEarliest, if_pos tooLong]
    exact start
  · have short : ¬ longestStep.nanos < span.nanos := by omega
    rw [backOrEarliest, if_neg tooLong]
    dsimp only
    split
    · exact start
    · rename_i inCalendar
      have inCalendarToo : ¬ (instant.back span).second < firstSecond := by
        rw [le_iff] at ordered
        omega
      rw [backOrEarliest, if_neg short]
      dsimp only
      rw [if_neg inCalendarToo]
      exact ordered

/--
A step back can end at the instant that lies the span before. It ends at the earliest instant when
the span has more than 9223372036854775807 milliseconds or the calendar does not go back as far.
-/
inductive EndsAt (instant : Instant) (span : Span) : Instant → Prop
  | back {moved : Instant} (short : span.nanos ≤ 9223372036854775807 * 1000000)
      (isBack : instant.IsBack span moved) (inCalendar : firstSecond ≤ moved.second) :
      EndsAt instant span moved
  | tooLong (long : 9223372036854775807 * 1000000 < span.nanos) : EndsAt instant span earliest
  | outside {moved : Instant} (isBack : instant.IsBack span moved)
      (before : moved.second < firstSecond) : EndsAt instant span earliest

/-- A step back ends where it should and nowhere else. -/
theorem endsAt_iff (instant : Instant) (span : Span) (moved : Instant) :
    instant.EndsAt span moved ↔ instant.backOrEarliest span = moved := by
  have isBack := isBack_back instant span
  have limit := longestStep_nanos
  constructor
  · intro ends
    cases ends with
    | back short isBackToo inCalendar =>
        obtain rfl := isBack.unique isBackToo
        rw [backOrEarliest, if_neg (by omega)]
        exact if_neg (by omega)
    | tooLong long => rw [backOrEarliest, if_pos (by omega)]
    | outside isBackToo before =>
        obtain rfl := isBack.unique isBackToo
        rw [backOrEarliest]
        split
        · rfl
        · exact if_pos before
  · rintro rfl
    rw [backOrEarliest]
    by_cases tooLong : longestStep.nanos < span.nanos
    · rw [if_pos tooLong]
      exact .tooLong (by omega)
    · rw [if_neg tooLong]
      dsimp only
      by_cases before : (instant.back span).second < firstSecond
      · rw [if_pos before]
        exact .outside isBack before
      · rw [if_neg before]
        exact .back (by omega) isBack (by omega)

/--
Away from leap seconds, a step back reaches an instant exactly when whole numbers of nanoseconds
say so.
-/
theorem backOrEarliest_le_iff {instant now : Instant} {span : Span}
    (plain : instant.inLeapSecond = false) (plainNow : now.inLeapSecond = false)
    (near : instant.second < 1000000000000) (inCalendar : earliest ≤ now) :
    instant.backOrEarliest span ≤ now ↔ instant.epochNanos - span.nanos ≤ now.epochNanos := by
  constructor
  · intro reached
    have counted := epochNanos_le_of_backOrEarliest_le plain plainNow near reached
    omega
  · intro counted
    have isBack := isBack_back instant span
    have outside : ¬ instant.StaysInside span := by
      rintro ⟨inside, -⟩
      rw [plain] at inside
      cases inside
    rw [backOrEarliest]
    split
    · exact inCalendar
    · dsimp only
      split
      · exact inCalendar
      · rw [le_iff_epochNanos_le (isBack.outside outside) plainNow]
        have moved := isBack.counted
        omega

end SignOn.Instant
