import SignOn.Proofs.Form

/-
This file shows what becomes of encoded pairs when a text that was not encoded stands in front of them.
-/

namespace SignOn.Form

open SignOn.Text

/-- A byte stands for itself when it begins no escape that can be read. -/
theorem unescape_cons {byte : UInt8} {rest : List UInt8}
    (unread : ∀ high low behind, byte = 0x25 → rest = high :: low :: behind → hexByte? high low = none)
    (newestFirst : List UInt8) :
    unescape newestFirst (byte :: rest) = unescape (byte :: newestFirst) rest := by
  by_cases percent : byte = 0x25
  · subst percent
    match rest with
    | [] => rfl
    | [high] => rfl
    | high :: low :: behind => rw [unescape, unread high low behind rfl rfl]
  · exact unescape_cons_of_ne percent newestFirst rest

/-- What is unescaped is put behind what was unescaped before. -/
theorem unescape_append (newer older bytes : List UInt8) :
    unescape (newer ++ older) bytes = older.reverse ++ unescape newer bytes := by
  induction newer, bytes using unescape.induct with
  | case1 newer high low rest byte read inductionHypothesis =>
      rw [unescape, unescape, read]
      exact inductionHypothesis
  | case2 newer high low rest unread inductionHypothesis =>
      rw [unescape, unescape, unread]
      exact inductionHypothesis
  | case3 newer byte rest lone inductionHypothesis =>
      have unread (high low : UInt8) (behind : List UInt8) (percent : byte = 0x25)
          (same : rest = high :: low :: behind) : hexByte? high low = none :=
        (lone high low behind percent same).elim
      rw [unescape_cons unread, unescape_cons unread]
      exact inductionHypothesis
  | case4 newer => rw [unescape, unescape, List.reverse_append]

/-- A mark is one byte that is neither part of an escape nor escaped by anything. -/
structure IsMark (mark : Char) : Prop where
  ascii : mark.toNat < 128
  notPlus : mark ≠ '+'
  notPercent : mark ≠ '%'
  notDigit : digitValue? 16 mark = none

theorem IsMark.char_ofNat_byte {mark : Char} (isMark : IsMark mark) :
    Char.ofNat (UInt8.ofNat mark.toNat).toNat = mark := by
  have ascii := isMark.ascii
  rw [UInt8.toNat_ofNat_of_lt' (show mark.toNat < 256 by omega), Char.ofNat_toNat]

/-- A mark parts the escapes before it from those behind it. -/
theorem IsMark.unescape_append_cons {mark : Char} (isMark : IsMark mark)
    (newestFirst before behind : List UInt8) :
    unescape newestFirst (before ++ UInt8.ofNat mark.toNat :: behind) =
      unescape newestFirst before ++ UInt8.ofNat mark.toNat :: unescape [] behind := by
  have undigited := isMark.notDigit
  rw [← isMark.char_ofNat_byte] at undigited
  have byteMark := byte_ne_of_ne isMark.ascii '%' (by decide) isMark.notPercent
  generalize UInt8.ofNat mark.toNat = byte at undigited byteMark ⊢
  have unreadHigh (low : UInt8) : hexByte? byte low = none := by rw [hexByte?, undigited]
  have unreadLow (high : UInt8) : hexByte? high byte = none := by
    rw [hexByte?, undigited]
    cases digitValue? 16 (Char.ofNat high.toNat) <;> rfl
  induction newestFirst, before using unescape.induct with
  | case1 newestFirst high low rest byte read inductionHypothesis =>
      rw [List.cons_append, List.cons_append, List.cons_append, unescape, unescape, read]
      exact inductionHypothesis
  | case2 newestFirst high low rest unread inductionHypothesis =>
      rw [List.cons_append, List.cons_append, List.cons_append, unescape, unescape, unread]
      exact inductionHypothesis
  | case3 newestFirst first rest lone inductionHypothesis =>
      have unread : ∀ high low further, first = 0x25 → rest ++ byte :: behind = high :: low :: further →
          hexByte? high low = none := by
        intro high low further percent same
        cases rest with
        | nil =>
            cases same
            exact unreadHigh low
        | cons second rest =>
            cases rest with
            | nil =>
                cases same
                exact unreadLow high
            | cons third others => exact (lone second third others percent rfl).elim
      have alone (high low : UInt8) (further : List UInt8) (percent : first = 0x25)
          (same : rest = high :: low :: further) : hexByte? high low = none :=
        (lone high low further percent same).elim
      rw [List.cons_append, unescape_cons unread, unescape_cons alone]
      exact inductionHypothesis
  | case4 newestFirst =>
      rw [List.nil_append, unescape_cons_of_ne byteMark, unescape]
      exact unescape_append [] (byte :: newestFirst) behind |>.trans (by simp)

/-- A mark parts what is decoded before it from what is decoded behind it. -/
theorem IsMark.decodeText_append_cons {mark : Char} (isMark : IsMark mark)
    (before behind : List Char) :
    decodeText (before ++ mark :: behind) =
      decodeText before ++ String.singleton mark ++ decodeText behind := by
  have ascii := isMark.ascii
  have kept : unplus (UInt8.ofNat mark.toNat) = UInt8.ofNat mark.toNat :=
    if_neg (byte_ne_of_ne ascii '+' (by decide) isMark.notPlus)
  have below : (UInt8.ofNat mark.toNat).toNat < 0x80 := by
    rw [UInt8.toNat_ofNat_of_lt' (show mark.toNat < 256 by omega)]
    exact ascii
  rw [decodeText, Utf8.encode_append, Utf8.encode_cons, Utf8.encodeChar_of_ascii ascii,
    List.map_append, List.map_append, List.map_singleton, kept, List.singleton_append,
    isMark.unescape_append_cons, Utf8.decode_append_cons _ _ below, isMark.char_ofNat_byte,
    decodeText, decodeText]
  simp [← String.toList_inj]

theorem isMark_questionMark : IsMark '?' := ⟨by decide, by decide, by decide, by decide⟩

theorem isMark_equals : IsMark '=' := ⟨by decide, by decide, by decide, by decide⟩

/-- A pair that is decoded as one text keeps the mark between its name and its value. -/
theorem decodeText_encodePair (pair : String × String) :
    decodeText (encodePair pair) = pair.1 ++ "=" ++ pair.2 := by
  rw [encodePair, isMark_equals.decodeText_append_cons, decodeText_encodeText, decodeText_encodeText]
  rfl

/-- An ampersand parts the pairs before it from those behind it. -/
theorem decode_append_ampersand (before behind : List Char) :
    decode (String.ofList (before ++ '&' :: behind)) =
      decode (String.ofList before) ++ decode (String.ofList behind) := by
  rw [decode, decode, decode, String.toList_ofList, String.toList_ofList, String.toList_ofList,
    pieces_append (by decide), List.filter_append, List.map_append]

/-- A text without ampersands is one pair. -/
theorem decode_of_unbroken {piece : List Char} (unbroken : '&' ∉ piece) (nonempty : piece ≠ []) :
    decode (String.ofList piece) = [decodePair piece] := by
  have whole : pieces (· == '&') piece = [piece] := by
    refine pieces_of_unbroken fun character member => ?_
    rw [beq_eq_false_iff_ne]
    exact fun same => unbroken (same ▸ member)
  have kept : (!piece.isEmpty) = true := by simpa using nonempty
  rw [decode, String.toList_ofList, whole, List.filter_cons, if_pos kept]
  rfl

/-- A text without ampersands in front of encoded pairs goes into the first of them. -/
theorem decode_append_encode {stub : List Char} (unbroken : '&' ∉ stub) (first : String × String)
    (rest : List (String × String)) :
    decode (String.ofList (stub ++ (encode (first :: rest)).toList)) =
      decodePair (stub ++ encodePair first) :: rest := by
  have unbrokenPair : '&' ∉ stub ++ encodePair first := fun member =>
    (List.mem_append.1 member).elim unbroken (ampersand_not_mem_encodePair first)
  have nonempty : stub ++ encodePair first ≠ [] := by simp [encodePair]
  cases rest with
  | nil =>
      rw [encode, String.toList_ofList, List.map_singleton, List.intercalate_singleton,
        decode_of_unbroken unbrokenPair nonempty]
  | cons second others =>
      have encoded : (encode (first :: second :: others)).toList =
          encodePair first ++ '&' :: (encode (second :: others)).toList := by
        rw [encode, encode, String.toList_ofList, String.toList_ofList, List.map_cons, List.map_cons,
          List.intercalate_cons_cons, List.append_assoc]
        rfl
      rw [encoded, ← List.append_assoc, decode_append_ampersand, String.ofList_toList, decode_encode,
        decode_of_unbroken unbrokenPair nonempty]
      rfl

/--
Whatever stands in front of encoded pairs, they are read behind pairs that do not depend on them, and
only the first one may be changed.
-/
theorem exists_decode_append_encode (front : List Char) :
    ∃ settled stub, ∀ middle, '&' ∉ middle → ∀ first rest,
      decode (String.ofList (front ++ middle ++ (encode (first :: rest)).toList)) =
        settled ++ decodePair (stub ++ middle ++ encodePair first) :: rest := by
  induction length : front.length using Nat.strongRecOn generalizing front with
  | ind size inductionHypothesis =>
      by_cases broken : '&' ∈ front
      · obtain ⟨before, behind, rfl, -⟩ := List.eq_append_cons_of_mem broken
        have shorter : behind.length < size := by
          rw [← length, List.length_append, List.length_cons]
          omega
        obtain ⟨settled, stub, decoded⟩ := inductionHypothesis _ shorter behind rfl
        refine ⟨decode (String.ofList before) ++ settled, stub, fun middle unbroken first rest => ?_⟩
        rw [List.append_assoc, List.append_assoc, List.cons_append, decode_append_ampersand,
          ← List.append_assoc, decoded middle unbroken, ← List.append_assoc]
      · refine ⟨[], front, fun middle unbroken first rest => ?_⟩
        have unbrokenFront : '&' ∉ front ++ middle := fun member =>
          (List.mem_append.1 member).elim broken unbroken
        exact decode_append_encode unbrokenFront first rest

/-- A pair is not read back from its encoding when a question mark stands before it. -/
theorem decodePair_append_ne (stub : List Char) (pair : String × String) :
    decodePair (stub ++ ['?'] ++ encodePair pair) ≠ pair := by
  intro same
  rw [List.append_assoc, List.singleton_append] at same
  by_cases given : '=' ∈ stub
  · obtain ⟨name, value, rfl, absent⟩ := List.eq_append_cons_of_mem given
    rw [List.append_assoc, List.cons_append, decodePair, splitFirst?_append absent] at same
    have longer := congrArg (String.length ∘ Prod.snd) same
    simp only [Function.comp_apply, isMark_questionMark.decodeText_append_cons, decodeText_encodePair,
      String.length_append] at longer
    have mark : (String.singleton '?').length = 1 := rfl
    omega
  · have absent : '=' ∉ stub ++ '?' :: encodeText pair.1 := by
      intro member
      rcases List.mem_append.1 member with inStub | inName
      · exact given inStub
      · rcases List.mem_cons.1 inName with isMark | inName
        · cases isMark
        · exact absurd (isWritten_of_encodeText inName) (by decide)
    rw [encodePair, ← List.cons_append, ← List.append_assoc, decodePair, splitFirst?_append absent]
      at same
    have longer := congrArg (String.length ∘ Prod.fst) same
    simp only [Function.comp_apply, isMark_questionMark.decodeText_append_cons, decodeText_encodeText,
      String.length_append] at longer
    have mark : (String.singleton '?').length = 1 := rfl
    omega

end SignOn.Form
