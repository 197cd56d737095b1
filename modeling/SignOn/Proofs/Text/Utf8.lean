import SignOn.Text.Utf8

/-
This file shows that text which is written as UTF-8 is read back unchanged, and that any bytes are
decoded apart from those behind an ASCII byte.
-/

namespace SignOn.Text.Utf8

namespace Reading

variable (reading : Reading)

/-- A lead byte of this range starts a character of two bytes. -/
theorem lead_of_two {upper : Nat} (atLeast : 2 ≤ upper) (below : upper < 32) :
    reading.lead (upper + 0xC0) = reading.await ⟨upper, 1, 0x80, 0xBF⟩ := by
  rw [lead, if_neg (by omega), if_neg (by omega), if_pos (by omega), Nat.add_sub_cancel]

/-- Two lead bytes of this range leave out codes of two bytes and halves of pairs. -/
theorem lead_of_three {upper : Nat} (below : upper < 16) :
    reading.lead (upper + 0xE0) = reading.await
      ⟨upper, 2, if upper = 0 then 0xA0 else 0x80, if upper = 0xD then 0x9F else 0xBF⟩ := by
  rw [lead, if_neg (by omega), if_neg (by omega), if_neg (by omega)]
  by_cases first : upper = 0
  · subst first
    rfl
  by_cases halves : upper = 0xD
  · subst halves
    rfl
  rw [if_neg (by omega), if_neg (by omega), if_pos (by omega), if_neg first, if_neg halves,
    Nat.add_sub_cancel]

/-- Two lead bytes of this range leave out codes of three bytes and codes that are too large. -/
theorem lead_of_four {upper : Nat} (atMost : upper ≤ 4) :
    reading.lead (upper + 0xF0) = reading.await
      ⟨upper, 3, if upper = 0 then 0x90 else 0x80, if upper = 4 then 0x8F else 0xBF⟩ := by
  rw [lead, if_neg (by omega), if_neg (by omega), if_neg (by omega), if_neg (by omega),
    if_neg (by omega), if_neg (by omega)]
  by_cases first : upper = 0
  · subst first
    rfl
  by_cases last : upper = 4
  · subst last
    rfl
  rw [if_neg (by omega), if_pos (by omega), if_neg first, if_neg last, Nat.add_sub_cancel]

/-- An awaited byte adds six bits to the character. -/
theorem step_of_awaited {unfinished : Unfinished} {lower : Nat} (below : lower < 64)
    (lowest : unfinished.lowest ≤ lower + 0x80) (highest : lower + 0x80 ≤ unfinished.highest) :
    (reading.await unfinished).step (UInt8.ofNat (lower + 0x80)) =
      if unfinished.remaining ≤ 1 then
        reading.push (Char.ofNat (unfinished.codePoint * 64 + lower))
      else reading.await
        ⟨unfinished.codePoint * 64 + lower, unfinished.remaining - 1, 0x80, 0xBF⟩ := by
  have value : (UInt8.ofNat (lower + 0x80)).toNat = lower + 0x80 :=
    UInt8.toNat_ofNat_of_lt' (show lower + 0x80 < 256 by omega)
  simp only [step, await, value, Nat.add_sub_cancel]
  rw [if_pos ⟨lowest, highest⟩]
  rfl

/-- Between characters the next byte is a lead byte. -/
theorem step_of_idle (idle : reading.unfinished = none) {byte : Nat} (fits : byte < 256) :
    reading.step (UInt8.ofNat byte) = reading.lead byte := by
  rw [step, idle, UInt8.toNat_ofNat_of_lt' (show byte < 256 from fits)]

/-- The bytes of a character are read as that character. -/
theorem foldl_step_encodeChar (idle : reading.unfinished = none) (character : Char) :
    (String.utf8EncodeChar character).foldl step reading = reading.push character := by
  have valid : character.val.toNat < 0xD800 ∨
      0xDFFF < character.val.toNat ∧ character.val.toNat < 0x110000 := character.valid
  have recovered : Char.ofNat character.val.toNat = character := Char.ofNat_toNat character
  simp only [String.utf8EncodeChar]
  generalize character.val.toNat = code at valid recovered ⊢
  by_cases one : code ≤ 0x7F
  · rw [if_pos one, List.foldl_cons, List.foldl_nil, reading.step_of_idle idle (by omega), lead,
      if_pos (by omega), recovered]
  by_cases two : code ≤ 0x7FF
  · rw [if_neg one, if_pos two, List.foldl_cons, reading.step_of_idle idle (by omega),
      reading.lead_of_two (by omega) (by omega), List.foldl_cons, List.foldl_nil,
      reading.step_of_awaited (by omega) (by simp) (by simp; omega), if_pos (by simp),
      show code / 64 % 32 * 64 + code % 64 = code by omega, recovered]
  by_cases three : code ≤ 0xFFFF
  · rw [if_neg one, if_neg two, if_pos three, List.foldl_cons,
      reading.step_of_idle idle (by omega), reading.lead_of_three (by omega), List.foldl_cons,
      reading.step_of_awaited (by omega) (by simp; split <;> omega) (by simp; split <;> omega),
      if_neg (by simp), List.foldl_cons, List.foldl_nil,
      reading.step_of_awaited (by omega) (by simp) (by simp; omega), if_pos (by simp),
      show (code / 4096 % 16 * 64 + code / 64 % 64) * 64 + code % 64 = code by omega, recovered]
  · rw [if_neg one, if_neg two, if_neg three, List.foldl_cons,
      reading.step_of_idle idle (by omega), reading.lead_of_four (by omega), List.foldl_cons,
      reading.step_of_awaited (by omega) (by simp; split <;> omega) (by simp; split <;> omega),
      if_neg (by simp), List.foldl_cons,
      reading.step_of_awaited (by omega) (by simp) (by simp; omega), if_neg (by simp),
      List.foldl_cons, List.foldl_nil,
      reading.step_of_awaited (by omega) (by simp) (by simp; omega), if_pos (by simp),
      show ((code / 262144 % 8 * 64 + code / 4096 % 64) * 64 + code / 64 % 64) * 64 + code % 64 =
        code by omega, recovered]

end Reading

theorem encode_append (first second : List Char) :
    encode (first ++ second) = encode first ++ encode second := by
  rw [encode, encode, encode, List.flatMap_append]

theorem encode_cons (character : Char) (others : List Char) :
    encode (character :: others) = String.utf8EncodeChar character ++ encode others := by
  rw [encode, encode, List.flatMap_cons]

/-- An ASCII character is a byte of its own. -/
theorem encodeChar_of_ascii {character : Char} (ascii : character.toNat < 128) :
    String.utf8EncodeChar character = [UInt8.ofNat character.toNat] :=
  if_pos (Nat.le_of_lt_succ ascii)

/-- Reading goes on where a character ends. -/
theorem foldl_step_encode (characters : List Char) (reading : Reading)
    (idle : reading.unfinished = none) :
    (encode characters).foldl Reading.step reading =
      { reading with newestFirst := characters.reverse ++ reading.newestFirst } := by
  induction characters generalizing reading with
  | nil => rfl
  | cons character others inductionHypothesis =>
      rw [encode_cons, List.foldl_append, reading.foldl_step_encodeChar idle,
        inductionHypothesis (reading.push character) rfl, List.reverse_cons, List.append_assoc]
      cases reading with
      | mk newestFirst replaced unfinished =>
          cases idle
          rfl

/-- All characters of an encoded text are read, and none is left unfinished. -/
theorem read_encode (characters : List Char) :
    read (encode characters) = ⟨characters.reverse, false, none⟩ := by
  rw [read, foldl_step_encode characters Reading.start rfl, Reading.start, List.append_nil]
  rfl

/-- Written text is read back. -/
theorem decode_encode (characters : List Char) : decode (encode characters) = characters := by
  rw [decode, read_encode, Reading.characters, List.reverse_reverse]

namespace Reading

/-- All that a byte can do where a character may begin, whatever was read before it. -/
theorem lead_cases (byte : Nat) :
    (∃ character, ∀ reading : Reading, reading.lead byte = reading.push character) ∨
    (∀ reading : Reading, reading.lead byte = reading.pushReplacement) ∨
    ∃ unfinished : Unfinished, 0x80 ≤ unfinished.lowest ∧
      ∀ reading : Reading, reading.lead byte = reading.await unfinished := by
  by_cases ascii : byte < 0x80
  · exact Or.inl ⟨_, fun reading => by rw [lead, if_pos ascii]⟩
  by_cases stray : byte < 0xC2
  · exact Or.inr (Or.inl fun reading => by rw [lead, if_neg ascii, if_pos stray])
  refine Or.inr ?_
  by_cases two : byte < 0xE0
  · exact Or.inr ⟨_, Nat.le_refl _, fun reading => by
      rw [lead, if_neg ascii, if_neg stray, if_pos two]⟩
  by_cases firstOfThree : byte = 0xE0
  · exact Or.inr ⟨⟨0, 2, 0xA0, 0xBF⟩, by decide, fun reading => by rw [firstOfThree]; rfl⟩
  by_cases beforeHalves : byte = 0xED
  · exact Or.inr ⟨⟨0xD, 2, 0x80, 0x9F⟩, by decide, fun reading => by rw [beforeHalves]; rfl⟩
  by_cases three : byte < 0xF0
  · exact Or.inr ⟨_, Nat.le_refl _, fun reading => by
      rw [lead, if_neg ascii, if_neg stray, if_neg two, if_neg firstOfThree, if_neg beforeHalves,
        if_pos three]⟩
  by_cases firstOfFour : byte = 0xF0
  · exact Or.inr ⟨⟨0, 3, 0x90, 0xBF⟩, by decide, fun reading => by rw [firstOfFour]; rfl⟩
  by_cases four : byte < 0xF4
  · exact Or.inr ⟨_, Nat.le_refl _, fun reading => by
      rw [lead, if_neg ascii, if_neg stray, if_neg two, if_neg firstOfThree, if_neg beforeHalves,
        if_neg three, if_neg firstOfFour, if_pos four]⟩
  by_cases last : byte = 0xF4
  · exact Or.inr ⟨⟨4, 3, 0x80, 0x8F⟩, by decide, fun reading => by rw [last]; rfl⟩
  · exact Or.inl fun reading => by
      rw [lead, if_neg ascii, if_neg stray, if_neg two, if_neg firstOfThree, if_neg beforeHalves,
        if_neg three, if_neg firstOfFour, if_neg four, if_neg last]

/-- No byte that could begin a character is awaited inside of one. -/
def AwaitsNoLead (reading : Reading) : Prop :=
  ∀ unfinished ∈ reading.unfinished, 0x80 ≤ unfinished.lowest

/-- A reading continues another one when more was read before it. -/
structure Continues (earlier : List Char) (other reading : Reading) : Prop where
  newestFirst : reading.newestFirst = other.newestFirst ++ earlier
  unfinished : reading.unfinished = other.unfinished

theorem awaitsNoLead_await (reading : Reading) {unfinished : Unfinished}
    (bounded : 0x80 ≤ unfinished.lowest) : (reading.await unfinished).AwaitsNoLead := by
  rintro awaited isAwaited
  cases isAwaited
  exact bounded

/-- A lead byte is followed by bytes that could not begin a character. -/
theorem awaitsNoLead_lead (reading : Reading) (byte : Nat) : (reading.lead byte).AwaitsNoLead := by
  rcases lead_cases byte with ⟨character, same⟩ | same | ⟨unfinished, bounded, same⟩
  · rw [same]
    exact nofun
  · rw [same]
    exact nofun
  · rw [same]
    exact reading.awaitsNoLead_await bounded

/-- After any byte no byte is awaited that could begin a character. -/
theorem awaitsNoLead_step (reading : Reading) (byte : UInt8) :
    (reading.step byte).AwaitsNoLead := by
  cases waiting : reading.unfinished with
  | none =>
      rw [step, waiting]
      exact reading.awaitsNoLead_lead _
  | some unfinished =>
      rw [step, waiting]
      dsimp only
      split
      · split
        · exact nofun
        · exact reading.awaitsNoLead_await (Nat.le_of_eq rfl)
      · exact awaitsNoLead_lead _ _

/-- Reading on awaits no byte that could begin a character. -/
theorem awaitsNoLead_foldl {reading : Reading} (sound : reading.AwaitsNoLead) (bytes : List UInt8) :
    (bytes.foldl step reading).AwaitsNoLead := by
  induction bytes generalizing reading with
  | nil => exact sound
  | cons byte others inductionHypothesis => exact inductionHypothesis (reading.awaitsNoLead_step byte)

/-- An ASCII byte ends what is unfinished and is a character of its own. -/
theorem step_of_ascii {reading : Reading} (sound : reading.AwaitsNoLead) {byte : UInt8}
    (ascii : byte.toNat < 0x80) :
    reading.step byte = reading.finish.push (Char.ofNat byte.toNat) := by
  cases waiting : reading.unfinished with
  | none => rw [step, waiting, finish, waiting, lead, if_pos ascii]
  | some unfinished =>
      have bounded := sound unfinished waiting
      have outside : ¬ (unfinished.lowest ≤ byte.toNat ∧ byte.toNat ≤ unfinished.highest) := by omega
      rw [step, waiting, finish, waiting]
      dsimp only
      rw [if_neg outside, lead, if_pos ascii]

namespace Continues

variable {earlier : List Char} {other reading : Reading}

theorem lead (continues : Continues earlier other reading) (byte : Nat) :
    Continues earlier (other.lead byte) (reading.lead byte) := by
  have appended := continues.newestFirst
  rcases lead_cases byte with ⟨character, same⟩ | same | ⟨unfinished, -, same⟩
  · rw [same, same]
    exact ⟨by rw [push, push, appended, List.cons_append], rfl⟩
  · rw [same, same]
    exact ⟨by rw [pushReplacement, pushReplacement, appended, List.cons_append], rfl⟩
  · rw [same, same]
    exact ⟨appended, rfl⟩

/-- A byte is read in the same way when more was read before. -/
theorem step (continues : Continues earlier other reading) (byte : UInt8) :
    Continues earlier (other.step byte) (reading.step byte) := by
  have appended := continues.newestFirst
  rw [Reading.step, Reading.step, continues.unfinished]
  cases other.unfinished with
  | none => exact continues.lead _
  | some unfinished =>
      dsimp only
      split
      · split
        · exact ⟨by rw [push, push, appended, List.cons_append], rfl⟩
        · exact ⟨appended, rfl⟩
      · have replaced : Continues earlier other.pushReplacement reading.pushReplacement :=
          ⟨by rw [pushReplacement, pushReplacement, appended, List.cons_append], rfl⟩
        exact replaced.lead _

/-- Bytes are read in the same way when more was read before. -/
theorem foldl (continues : Continues earlier other reading) (bytes : List UInt8) :
    Continues earlier (bytes.foldl Reading.step other) (bytes.foldl Reading.step reading) := by
  induction bytes generalizing other reading with
  | nil => exact continues
  | cons byte others inductionHypothesis => exact inductionHypothesis (continues.step byte)

/-- A reading ends in the same way when more was read before. -/
theorem finish (continues : Continues earlier other reading) :
    Continues earlier other.finish reading.finish := by
  have appended := continues.newestFirst
  rw [Reading.finish, Reading.finish, continues.unfinished]
  cases waiting : other.unfinished with
  | none => exact continues
  | some unfinished =>
      exact ⟨by rw [pushReplacement, pushReplacement, appended, List.cons_append], rfl⟩

end Continues

end Reading

/-- What stands before an ASCII byte and what stands behind it are decoded apart from each other. -/
theorem decode_append_cons (before behind : List UInt8) {byte : UInt8} (ascii : byte.toNat < 0x80) :
    decode (before ++ byte :: behind) =
      decode before ++ Char.ofNat byte.toNat :: decode behind := by
  have started : Reading.start.AwaitsNoLead := nofun
  have sound := Reading.awaitsNoLead_foldl started before
  have continues : Reading.Continues
      (Char.ofNat byte.toNat :: (before.foldl Reading.step .start).finish.newestFirst) .start
      ((before.foldl Reading.step .start).finish.push (Char.ofNat byte.toNat)) := ⟨rfl, rfl⟩
  have together := ((continues.foldl behind).finish).newestFirst
  rw [decode, read, List.foldl_append, List.foldl_cons, Reading.step_of_ascii sound ascii,
    Reading.characters, together]
  simp [decode, read, Reading.characters]

end SignOn.Text.Utf8
