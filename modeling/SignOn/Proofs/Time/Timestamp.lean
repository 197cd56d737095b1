import Mathlib.Algebra.Group.Nat.Defs
import SignOn.Time.Timestamp

/-
This file bounds the instants that a timestamp can name.
-/

namespace SignOn

open SignOn.Text

/-- The value of a digit is below the base. -/
theorem Text.lt_of_digitValue? {base : Nat} {character : Char} {digit : Nat}
    (valued : digitValue? base character = some digit) : digit < base := by
  rw [digitValue?] at valued
  have small := (Option.filter_eq_some_iff.1 valued).2
  exact of_decide_eq_true small

/-- A valid date has a month and a day of the calendar. -/
theorem Date.day_le_of_isValid {date : Date} (valid : date.isValid = true) :
    1 ≤ date.month ∧ date.month ≤ 12 ∧ 1 ≤ date.day ∧ date.day ≤ 31 := by
  simp only [isValid, Bool.and_eq_true, decide_eq_true_eq] at valid
  obtain ⟨⟨⟨fromMonth, toMonth⟩, fromDay⟩, toDay⟩ := valid
  have longest : daysInMonth date.year date.month ≤ 31 := by
    rw [daysInMonth]
    split
    · split <;> decide
    · split <;> decide
  exact ⟨fromMonth, toMonth, fromDay, Nat.le_trans toDay longest⟩

/-- The years of four digits have fewer than four million days. -/
theorem Date.toDayNumber_lt {date : Date} (valid : date.isValid = true)
    (near : date.year < 10000) : date.toDayNumber < 4000000 := by
  obtain ⟨fromMonth, toMonth, fromDay, toDay⟩ := day_le_of_isValid valid
  rw [toDayNumber]
  split <;> omega

namespace Timestamp

/-- So many digits name a number below the same power of ten. -/
theorem lt_of_digits? {count value : Nat} {characters : List Char} {number : Nat}
    {rest : List Char} (read : digits? count value characters = some (number, rest)) :
    number < (value + 1) * 10 ^ count := by
  induction count generalizing value characters with
  | zero =>
      rw [digits?] at read
      cases read
      omega
  | succ count inductionHypothesis =>
      cases characters with
      | nil => cases read
      | cons character others =>
          rw [digits?] at read
          cases valued : digitValue? 10 character with
          | none =>
              rw [valued] at read
              cases read
          | some digit =>
              rw [valued] at read
              have small := lt_of_digitValue? valued
              have further := inductionHypothesis read
              have grown : value * 10 + digit + 1 ≤ (value + 1) * 10 := by omega
              calc number < (value * 10 + digit + 1) * 10 ^ count := further
                _ ≤ (value + 1) * 10 * 10 ^ count := Nat.mul_le_mul_right _ grown
                _ = (value + 1) * 10 ^ (count + 1) := by rw [Nat.pow_succ', Nat.mul_assoc]

/-- Hours and minutes on a clock make less than a day. -/
theorem abs_lt_of_clock? {direction minutes : Int} (signed : direction = 1 ∨ direction = -1)
    {characters : List Char}
    (read : ((some direction).bind fun direction => (digits? 2 0 characters).bind fun hours =>
      (expect? (fun character => character == ':') hours.2).bind fun rest =>
        (digits? 2 0 rest).bind fun parts =>
          if parts.2.isEmpty = true ∧ hours.1 ≤ 23 ∧ parts.1 ≤ 59 then
            some (direction * ((hours.1 * 60 + parts.1 : Nat) : Int))
          else none) = some minutes) : -1440 < minutes ∧ minutes < 1440 := by
  simp only [Option.bind_some, Option.bind_eq_some_iff, Option.ite_none_right_eq_some,
    Option.some.injEq] at read
  obtain ⟨⟨hours, _⟩, -, _, -, ⟨parts, _⟩, -, ⟨-, hourBound, partBound⟩, rfl⟩ := read
  rcases signed with rfl | rfl <;> omega

/-- A clock is less than a day ahead or behind. -/
theorem abs_lt_of_offset? {characters : List Char} {minutes : Int}
    (read : offset? characters = some minutes) : -1440 < minutes ∧ minutes < 1440 := by
  unfold offset? at read
  split at read
  · cases read
    omega
  · cases read
    omega
  · rename_i sign rest _ _
    simp only [Option.bind_eq_bind] at read
    split at read
    · exact abs_lt_of_clock? (Or.inl rfl) read
    · split at read
      · exact abs_lt_of_clock? (Or.inr rfl) read
      · cases read
  · cases read

/-- A year of four digits bounds the instants that are made in it. -/
theorem second_lt_of_instant? {date : Date} {hour minute second nanos : Nat} {offset : Int}
    {instant : Instant} (near : date.year < 10000) (ahead : -1440 < offset)
    (made : instant? date hour minute second nanos offset = some instant) :
    instant.second < 1000000000000 := by
  rw [instant?] at made
  by_cases valid : date.isValid ∧ hour ≤ 23 ∧ minute ≤ 59 ∧ second ≤ 60
  · rw [if_pos valid] at made
    dsimp only at made
    by_cases bounded : nanos + (if second = 60 then 1000000000 else 0) < 2000000000
    · rw [dif_pos bounded] at made
      have days := Date.toDayNumber_lt valid.1 near
      have clock : hour * 3600 + minute * 60 + (if second = 60 then 59 else second) < 86400 := by
        split <;> omega
      have placed := congrArg Instant.second (Option.some.inj made)
      dsimp only at placed
      omega
    · rw [dif_neg bounded] at made
      cases made
  · rw [if_neg valid] at made
    cases made

/-- A timestamp has a year of four digits and so names no instant far ahead. -/
theorem second_lt_of_read? {text : String} {instant : Instant}
    (read : read? text = some instant) : instant.second < 1000000000000 := by
  rw [read?, readCharacters?] at read
  simp only [Option.bind_eq_bind, Option.bind_eq_some_iff] at read
  obtain ⟨⟨year, _⟩, yearRead, _, -, ⟨month, _⟩, -, _, -, ⟨day, _⟩, -, _, -, ⟨hour, _⟩, -, _, -,
    ⟨minute, _⟩, -, _, -, ⟨second, _⟩, -, ⟨nanos, _⟩, -, offset, offsetRead, made⟩ := read
  have four : year < (0 + 1) * 10 ^ 4 := lt_of_digits? yearRead
  have near : (Date.mk year month day).year < 10000 := by
    dsimp only
    omega
  have ahead := (abs_lt_of_offset? offsetRead).1
  exact second_lt_of_instant? near ahead made

end Timestamp

end SignOn
