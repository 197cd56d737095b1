import SignOn.Proofs.Text.Blank
import SignOn.Text.Number

/-
This file shows which numbers are read, and that a number is read back from its decimal digits.
-/

namespace SignOn.Text

/-- A number is written in digits. -/
theorem isDigit_of_mem_toString {number : Nat} {character : Char}
    (member : character ∈ (toString number).toList) : character.isDigit = true := by
  rw [Nat.toString_eq_ofList_toDigits, String.toList_ofList] at member
  exact Nat.isDigit_of_mem_toDigits (by decide) (by decide) member

/-- No digit is blank. -/
theorem not_isBlank_of_isDigit {character : Char} (digit : character.isDigit = true) :
    isBlank character = false := by
  rw [Char.isDigit_iff_toNat] at digit
  change 0x30 ≤ character.toNat ∧ character.toNat ≤ 0x39 at digit
  simp only [isBlank, Bool.or_eq_false_iff, Bool.and_eq_false_iff, decide_eq_false_iff_not,
    beq_eq_false_iff_ne]
  omega

/-- A number has no blanks around it. -/
theorem trim_toString (number : Nat) : trim (toString number) = toString number := by
  refine trim_of_unbroken fun character member => ?_
  exact not_isBlank_of_isDigit (isDigit_of_mem_toString member)

/-- A numeral is one decimal digit or more, and they make its value. -/
structure IsNumeral (digits : List Char) (number : Nat) : Prop where
  nonempty : digits ≠ []
  digital : ∀ character ∈ digits, character.isDigit = true
  value : Nat.ofDigitChars 10 digits 0 = number

/-- A text spells a number when it is a numeral with at most one plus sign before it. -/
def SpellsNumber (text : List Char) (number : Nat) : Prop :=
  IsNumeral text number ∨ ∃ digits, text = '+' :: digits ∧ IsNumeral digits number

/-- A decimal digit has its distance from zero as its value. -/
theorem digitValue?_eq_some_iff (character : Char) (digit : Nat) :
    digitValue? 10 character = some digit ↔
      character.isDigit = true ∧ digit = character.toNat - '0'.toNat := by
  rw [Char.isDigit_iff_toNat, digitValue?, Option.filter_eq_some_iff]
  have zero : '0'.toNat = 0x30 := rfl
  have nine : '9'.toNat = 0x39 := rfl
  split_ifs <;> simp <;> omega

theorem le_ofDigitChars (digits : List Char) (value : Nat) :
    value ≤ Nat.ofDigitChars 10 digits value := by
  induction digits generalizing value with
  | nil => exact le_rfl
  | cons character others inductionHypothesis =>
      rw [Nat.ofDigitChars_cons]
      have longer := inductionHypothesis (10 * value + (character.toNat - '0'.toNat))
      omega

/-- Digits that make a number below the limit are read, and nothing else is. -/
theorem readDigits_eq_ok_iff {limit : Nat} (digits : List Char) {value : Nat} (below : value < limit)
    (number : Nat) :
    readDigits limit value digits = .ok number ↔
      (∀ character ∈ digits, character.isDigit = true) ∧
        Nat.ofDigitChars 10 digits value = number ∧ number < limit := by
  induction digits generalizing value with
  | nil =>
      rw [readDigits, Nat.ofDigitChars_nil, Except.ok.injEq]
      constructor
      · rintro rfl
        exact ⟨nofun, rfl, below⟩
      · exact fun read => read.2.1
  | cons character others inductionHypothesis =>
      rw [readDigits, Nat.ofDigitChars_cons, List.forall_mem_cons]
      cases read : digitValue? 10 character with
      | none =>
          have undigital : ¬ character.isDigit = true := fun digital => by
            rw [(digitValue?_eq_some_iff character _).2 ⟨digital, rfl⟩] at read
            cases read
          simp [undigital]
      | some digit =>
          obtain ⟨digital, rfl⟩ := (digitValue?_eq_some_iff character digit).1 read
          by_cases fits : value * 10 + (character.toNat - '0'.toNat) < limit
          · simp only [if_pos fits]
            rw [inductionHypothesis fits, Nat.mul_comm value 10]
            simp [digital]
          · -- A number only grows with the digits behind it.
            simp only [if_neg fits]
            have grown := le_ofDigitChars others (10 * value + (character.toNat - '0'.toNat))
            refine iff_of_false nofun fun read => ?_
            omega

theorem not_isNumeral_nil (number : Nat) : ¬ IsNumeral [] number := fun numeral => numeral.nonempty rfl

/-- A plus sign does not change a numeral. -/
theorem spellsNumber_plus_iff (digits : List Char) (number : Nat) :
    SpellsNumber ('+' :: digits) number ↔ IsNumeral digits number := by
  constructor
  · rintro (numeral | ⟨_, same, numeral⟩)
    · exact absurd (numeral.digital '+' List.mem_cons_self) (by decide)
    · cases same
      exact numeral
  · exact fun numeral => Or.inr ⟨digits, rfl, numeral⟩

/-- Without a plus sign a number is spelled as a numeral. -/
theorem spellsNumber_iff_of_unsigned {text : List Char} (unsigned : ∀ digits, text ≠ '+' :: digits)
    (number : Nat) : SpellsNumber text number ↔ IsNumeral text number :=
  ⟨fun spells => spells.resolve_right fun ⟨digits, same, _⟩ => unsigned digits same, Or.inl⟩

/-- The numbers that are read are the ones that are spelled and below the limit. -/
theorem readNumber_eq_ok_iff {limit : Nat} (positive : 0 < limit) (text : List Char) (number : Nat) :
    readNumber limit text = .ok number ↔ SpellsNumber text number ∧ number < limit := by
  have read {digits : List Char} (nonempty : digits ≠ []) :
      readDigits limit 0 digits = .ok number ↔ IsNumeral digits number ∧ number < limit := by
    rw [readDigits_eq_ok_iff digits positive number]
    exact ⟨fun found => ⟨⟨nonempty, found.1, found.2.1⟩, found.2.2⟩,
      fun found => ⟨found.1.digital, found.1.value, found.2⟩⟩
  rw [readNumber.eq_def]
  split
  · rw [spellsNumber_iff_of_unsigned fun digits => (List.cons_ne_nil '+' digits).symm]
    simp [not_isNumeral_nil]
  · rw [spellsNumber_plus_iff]
    simp [not_isNumeral_nil]
  · rename_i digits single
    rw [spellsNumber_plus_iff, read single]
  · rename_i nonempty _ unsigned
    rw [spellsNumber_iff_of_unsigned unsigned, read nonempty]

/-- A text spells one number at most. -/
theorem SpellsNumber.unique {text : List Char} {first second : Nat} (spells : SpellsNumber text first)
    (spellsToo : SpellsNumber text second) : first = second := by
  have read := (readNumber_eq_ok_iff (show 0 < first + second + 1 by omega) text first).2
    ⟨spells, by omega⟩
  have readToo := (readNumber_eq_ok_iff (show 0 < first + second + 1 by omega) text second).2
    ⟨spellsToo, by omega⟩
  exact Except.ok.inj (read.symm.trans readToo)

/-- A number is read back from its decimal spelling. -/
theorem readNumber_toString {limit number : Nat} (fits : number < limit) :
    readNumber limit (toString number).toList = .ok number := by
  have spelled : (toString number).toList = Nat.toDigits 10 number := by
    rw [Nat.toString_eq_ofList_toDigits, String.toList_ofList]
  refine (readNumber_eq_ok_iff (by omega) _ number).2 ⟨Or.inl ⟨?_, ?_, ?_⟩, fits⟩
  · rw [spelled]
    exact Nat.toDigits_ne_nil
  · exact fun character member => isDigit_of_mem_toString member
  · rw [spelled, Nat.ofDigitChars_ten_toDigits]

end SignOn.Text
