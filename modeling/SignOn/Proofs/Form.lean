import SignOn.Form
import SignOn.Proofs.Text.Cutting
import SignOn.Proofs.Text.Utf8

/-
This file shows that a list of names and values is read back from its form encoding unchanged.
-/

namespace SignOn.Form

open SignOn.Text

/-- The characters that an encoded name or value is made of. -/
def isWritten (character : Char) : Bool :=
  isPlain character || character == '+' || character == '%'

/-- Only ASCII characters are left as they are. -/
theorem toNat_lt_of_isPlain {character : Char} (plain : isPlain character = true) :
    character.toNat < 128 := by
  delta isPlain Char.isAlphanum Char.isAlpha Char.isUpper Char.isLower Char.isDigit at plain
  simp only [Bool.or_eq_true, Bool.and_eq_true, decide_eq_true_eq, beq_iff_eq, ge_iff_le,
    UInt32.le_iff_toNat_le] at plain
  change ((((((65 ≤ character.toNat ∧ character.toNat ≤ 90) ∨
    (97 ≤ character.toNat ∧ character.toNat ≤ 122)) ∨
    (48 ≤ character.toNat ∧ character.toNat ≤ 57)) ∨ character = '*') ∨ character = '-') ∨
    character = '.') ∨ character = '_' at plain
  rcases plain with (((((upper | lower) | digit) | rfl) | rfl) | rfl) | rfl
  · omega
  · omega
  · omega
  · decide
  · decide
  · decide
  · decide

/-- Different ASCII characters have different bytes. -/
theorem byte_ne_of_ne {character : Char} (ascii : character.toNat < 128) (other : Char)
    (otherAscii : other.toNat < 128) (different : character ≠ other) :
    UInt8.ofNat character.toNat ≠ UInt8.ofNat other.toNat := by
  intro same
  have numbers := congrArg UInt8.toNat same
  rw [UInt8.toNat_ofNat_of_lt' (show character.toNat < 256 by omega),
    UInt8.toNat_ofNat_of_lt' (show other.toNat < 256 by omega)] at numbers
  exact different (by rw [← Char.ofNat_toNat character, numbers, Char.ofNat_toNat])

/-- Every byte is written as a percent sign and two digits. -/
theorem isWritten_of_escapedByte {byte : UInt8} {character : Char}
    (member : character ∈ escapedByte byte) : isWritten character = true := by
  have digits : ∀ value < 16, isWritten (upperHexDigit value) = true := by decide
  have upper : byte.toNat / 16 < 16 := by
    have := byte.toNat_lt
    omega
  have lower : byte.toNat % 16 < 16 := Nat.mod_lt _ (by decide)
  simp only [escapedByte, List.mem_cons, List.not_mem_nil, or_false] at member
  rcases member with rfl | rfl | rfl
  · decide
  · exact digits _ upper
  · exact digits _ lower

/-- An encoded text is made of the characters that encoding writes. -/
theorem isWritten_of_encodeText {text : String} {character : Char}
    (member : character ∈ encodeText text) : isWritten character = true := by
  obtain ⟨source, _, written⟩ := List.mem_flatMap.1 member
  rw [encodeCharacter] at written
  by_cases plain : isPlain source = true
  · rw [if_pos plain, List.mem_singleton] at written
    rw [written, isWritten, plain]
    rfl
  by_cases space : source = ' '
  · rw [if_neg plain, if_pos space, List.mem_singleton] at written
    rw [written]
    decide
  · rw [if_neg plain, if_neg space] at written
    obtain ⟨byte, _, escaped⟩ := List.mem_flatMap.1 written
    exact isWritten_of_escapedByte escaped

/-- A byte other than a percent sign stands for itself. -/
theorem unescape_cons_of_ne {byte : UInt8} (other : byte ≠ 0x25) (newestFirst rest : List UInt8) :
    unescape newestFirst (byte :: rest) = unescape (byte :: newestFirst) rest := by
  rw [unescape]
  rintro high low rest rfl
  exact absurd rfl other

/-- A digit is written and read back with its value. -/
theorem hexDigit_roundTrip : ∀ value < 16,
    (String.utf8EncodeChar (upperHexDigit value)).map unplus =
        [UInt8.ofNat (upperHexDigit value).toNat] ∧
      digitValue? 16 (Char.ofNat (UInt8.ofNat (upperHexDigit value).toNat).toNat) =
        some value := by
  decide

/-- A percent sign and two digits stand for the byte that they name. -/
theorem unescape_escapedByte (byte : UInt8) (newestFirst rest : List UInt8) :
    unescape newestFirst ((Utf8.encode (escapedByte byte)).map unplus ++ rest) =
      unescape (byte :: newestFirst) rest := by
  have bounded : byte.toNat < 256 := byte.toNat_lt
  obtain ⟨upperWritten, upperRead⟩ := hexDigit_roundTrip (byte.toNat / 16) (by omega)
  obtain ⟨lowerWritten, lowerRead⟩ := hexDigit_roundTrip (byte.toNat % 16) (by omega)
  have percent : (String.utf8EncodeChar '%').map unplus = [0x25] := by decide
  have value : byte.toNat / 16 * 16 + byte.toNat % 16 = byte.toNat := by omega
  rw [escapedByte, Utf8.encode_cons, Utf8.encode_cons, Utf8.encode_cons, List.map_append,
    List.map_append, List.map_append, percent, upperWritten, lowerWritten]
  simp only [List.cons_append, List.nil_append]
  rw [unescape, hexByte?, upperRead, lowerRead]
  simp only [value, UInt8.ofNat_toNat]
  rfl

/-- Escaped bytes come back from their escapes. -/
theorem unescape_escapedBytes (bytes newestFirst rest : List UInt8) :
    unescape newestFirst ((Utf8.encode (bytes.flatMap escapedByte)).map unplus ++ rest) =
      unescape (bytes.reverse ++ newestFirst) rest := by
  induction bytes generalizing newestFirst with
  | nil => rfl
  | cons byte others inductionHypothesis =>
      rw [List.flatMap_cons, Utf8.encode_append, List.map_append, List.append_assoc,
        unescape_escapedByte, inductionHypothesis, List.reverse_cons, List.append_assoc,
        List.singleton_append]

/-- What is written for a character stands for the bytes of that character. -/
theorem unescape_encodeCharacter (character : Char) (newestFirst rest : List UInt8) :
    unescape newestFirst ((Utf8.encode (encodeCharacter character)).map unplus ++ rest) =
      unescape ((String.utf8EncodeChar character).reverse ++ newestFirst) rest := by
  rw [encodeCharacter]
  by_cases plain : isPlain character = true
  · have ascii := toNat_lt_of_isPlain plain
    have notPlus : UInt8.ofNat character.toNat ≠ 0x2B :=
      byte_ne_of_ne ascii '+' (by decide) (by rintro rfl; exact absurd plain (by decide))
    have notPercent : UInt8.ofNat character.toNat ≠ 0x25 :=
      byte_ne_of_ne ascii '%' (by decide) (by rintro rfl; exact absurd plain (by decide))
    have kept : unplus (UInt8.ofNat character.toNat) = UInt8.ofNat character.toNat :=
      if_neg notPlus
    rw [if_pos plain, Utf8.encode_cons, Utf8.encodeChar_of_ascii ascii]
    simp only [Utf8.encode, List.flatMap_nil, List.append_nil, List.map_cons, List.map_nil, kept,
      List.reverse_singleton, List.singleton_append]
    exact unescape_cons_of_ne notPercent newestFirst rest
  by_cases space : character = ' '
  · rw [if_neg plain, if_pos space, space]
    exact unescape_cons_of_ne (by decide) newestFirst rest
  · rw [if_neg plain, if_neg space]
    exact unescape_escapedBytes _ newestFirst rest

/-- The bytes of a text come back from its encoding. -/
theorem unescape_encodeText (characters : List Char) (newestFirst : List UInt8) :
    unescape newestFirst ((Utf8.encode (characters.flatMap encodeCharacter)).map unplus) =
      newestFirst.reverse ++ Utf8.encode characters := by
  induction characters generalizing newestFirst with
  | nil =>
      rw [List.flatMap_nil, Utf8.encode, List.flatMap_nil, List.map_nil, unescape, List.append_nil]
  | cons character others inductionHypothesis =>
      rw [List.flatMap_cons, Utf8.encode_append, List.map_append, unescape_encodeCharacter,
        inductionHypothesis, List.reverse_append, List.reverse_reverse, List.append_assoc,
        Utf8.encode_cons]

/-- A text is read back from its encoding. -/
theorem decodeText_encodeText (text : String) : decodeText (encodeText text) = text := by
  rw [decodeText, encodeText, unescape_encodeText, List.reverse_nil, List.nil_append,
    Utf8.decode_encode, String.ofList_toList]

/-- A pair is read back from its encoding. -/
theorem decodePair_encodePair (pair : String × String) : decodePair (encodePair pair) = pair := by
  have absent : '=' ∉ encodeText pair.1 := fun member =>
    absurd (isWritten_of_encodeText member) (by decide)
  rw [decodePair, encodePair, splitFirst?_append absent]
  simp only [decodeText_encodeText]

/-- Between the pairs there are ampersands, and inside of them there are none. -/
theorem ampersand_not_mem_encodePair (pair : String × String) : '&' ∉ encodePair pair := by
  intro member
  rcases List.mem_append.1 member with inName | rest
  · exact absurd (isWritten_of_encodeText inName) (by decide)
  · rcases List.mem_cons.1 rest with equals | inValue
    · exact absurd equals (by decide)
    · exact absurd (isWritten_of_encodeText inValue) (by decide)

/-- All pairs are read back in order. -/
theorem decode_encode (pairs : List (String × String)) : decode (encode pairs) = pairs := by
  cases pairs with
  | nil => rfl
  | cons first others =>
      have cut : pieces (· == '&') (encode (first :: others)).toList =
          (first :: others).map encodePair := by
        rw [encode, String.toList_ofList, pieces, ← List.splitOn_eq_splitOnP]
        refine List.splitOn_intercalate '&' ?_ (by simp)
        intro piece member
        obtain ⟨pair, _, rfl⟩ := List.mem_map.1 member
        exact ampersand_not_mem_encodePair pair
      have nonempty : ((first :: others).map encodePair).filter (fun piece => !piece.isEmpty) =
          (first :: others).map encodePair := by
        refine List.filter_eq_self.2 fun piece member => ?_
        obtain ⟨pair, _, rfl⟩ := List.mem_map.1 member
        simp [encodePair]
      rw [decode, cut, nonempty, List.map_map]
      calc (first :: others).map (decodePair ∘ encodePair)
          = (first :: others).map id := List.map_congr_left fun pair _ => decodePair_encodePair pair
        _ = first :: others := List.map_id _

/-- Encoded pairs hold what names and values are made of, ampersands and equals signs. -/
theorem forall_mem_encode (pairs : List (String × String)) :
    ∀ character ∈ (encode pairs).toList,
      isWritten character = true ∨ character = '&' ∨ character = '=' := by
  rw [encode, String.toList_ofList]
  refine forall_mem_intercalate ?_ _ ?_
  · intro separator inSeparator
    exact Or.inr (Or.inl (List.mem_singleton.1 inSeparator))
  · intro piece pieceMember character inPiece
    obtain ⟨pair, _, rfl⟩ := List.mem_map.1 pieceMember
    rcases List.mem_append.1 inPiece with inName | rest
    · exact Or.inl (isWritten_of_encodeText inName)
    · rcases List.mem_cons.1 rest with equals | inValue
      · exact Or.inr (Or.inr equals)
      · exact Or.inl (isWritten_of_encodeText inValue)

/-- The query of an address is what comes after its last question mark. -/
def query (address : String) : String := String.ofList (address.toList.rtakeWhile (· != '?'))

/-- The location in an address is what comes before its last question mark. -/
def location (address : String) : String :=
  String.ofList (address.toList.rdropWhile (· != '?')).dropLast

/-- An encoded list holds no question mark, so that it ends up in the query whole. -/
theorem question_not_mem_encode (pairs : List (String × String)) :
    '?' ∉ (encode pairs).toList := by
  intro member
  rcases forall_mem_encode pairs _ member with written | ampersand | equals
  · exact absurd written (by decide)
  · exact absurd ampersand (by decide)
  · exact absurd equals (by decide)

/-- An address is cut at the question mark that no other one follows. -/
theorem location_query_append (path : String) {parameters : String}
    (unasked : '?' ∉ parameters.toList) :
    location (path ++ "?" ++ parameters) = path ∧ query (path ++ "?" ++ parameters) = parameters := by
  have unequal : ∀ character ∈ parameters.toList.reverse, (character != '?') = true :=
    bne_of_not_mem fun member => unasked (List.mem_reverse.1 member)
  have split : (path ++ "?" ++ parameters).toList.reverse =
      parameters.toList.reverse ++ '?' :: path.toList.reverse := by
    rw [String.toList_append, String.toList_append, List.reverse_append, List.reverse_append]
    rfl
  constructor
  · rw [location, List.rdropWhile, split, List.dropWhile_append_of_pos unequal]
    simp
  · rw [query, List.rtakeWhile, split, List.takeWhile_append_of_pos unequal]
    simp

/-- Encoded pairs that are put after a question mark are the query. -/
theorem query_append_encode (path : String) (pairs : List (String × String)) :
    query (path ++ "?" ++ encode pairs) = encode pairs :=
  (location_query_append path (question_not_mem_encode pairs)).2

/-- What stands before an encoded query is the location. -/
theorem location_append_encode (path : String) (pairs : List (String × String)) :
    location (path ++ "?" ++ encode pairs) = path :=
  (location_query_append path (question_not_mem_encode pairs)).1

end SignOn.Form
