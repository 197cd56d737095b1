import Mathlib.Data.List.Induction
import SignOn.Proofs.Text.Blank

/-
This file shows where a text is cut into lines, pieces and words.
-/

namespace SignOn.Text

/--
A text starts with a line that ends with it or at a line feed, which takes one carriage return
before it along.
-/
inductive StartsWithLine (line : List Char) : List Char → List Char → Prop
  | alone (nonempty : line ≠ []) : StartsWithLine line line []
  | lineFeed (unreturned : line.getLast? ≠ some '\r') (rest : List Char) :
      StartsWithLine line (line ++ '\n' :: rest) rest
  | carriageReturn (rest : List Char) : StartsWithLine line (line ++ '\r' :: '\n' :: rest) rest

/-- A text without line feeds is one line, carriage returns included. -/
theorem firstLine?_of_no_lineFeed {text : List Char} (nonempty : text ≠ [])
    (unbroken : '\n' ∉ text) : firstLine? text = some (text, []) := by
  cases text with
  | nil => exact absurd rfl nonempty
  | cons first others =>
      rw [firstLine?, splitFirst?_eq_none unbroken]
      rintro ⟨⟩

/-- The first line ends at its line feed and loses one carriage return before it. -/
theorem firstLine?_append {line : List Char} (unbroken : '\n' ∉ line) (rest : List Char) :
    firstLine? (line ++ '\n' :: rest) =
      if line.getLast? = some '\r' then some (line.dropLast, rest) else some (line, rest) := by
  rw [firstLine?, splitFirst?_append unbroken]
  simp

/-- Only the empty text has no line. -/
theorem firstLine?_eq_none_iff (text : List Char) : firstLine? text = none ↔ text = [] := by
  constructor
  · intro missing
    by_contra nonempty
    by_cases broken : '\n' ∈ text
    · obtain ⟨front, back, rfl, unbroken⟩ := List.eq_append_cons_of_mem broken
      rw [firstLine?_append unbroken] at missing
      split at missing
      · cases missing
      · cases missing
    · rw [firstLine?_of_no_lineFeed nonempty broken] at missing
      cases missing
  · rintro rfl
    rfl

/-- The first line of a text is the one that it starts with. -/
theorem firstLine?_eq_some_iff (text line rest : List Char) :
    firstLine? text = some (line, rest) ↔ '\n' ∉ line ∧ StartsWithLine line text rest := by
  constructor
  · intro found
    by_cases broken : '\n' ∈ text
    · obtain ⟨front, back, rfl, unbroken⟩ := List.eq_append_cons_of_mem broken
      rw [firstLine?_append unbroken] at found
      split at found
      · rename_i returned
        obtain ⟨body, rfl⟩ := List.getLast?_eq_some_iff.1 returned
        rw [List.dropLast_concat] at found
        cases found
        rw [List.append_assoc]
        exact ⟨fun member => unbroken (List.mem_append_left _ member), .carriageReturn rest⟩
      · rename_i unreturned
        cases found
        exact ⟨unbroken, .lineFeed unreturned rest⟩
    · cases text with
      | nil => cases found
      | cons first others =>
          rw [firstLine?_of_no_lineFeed (by simp) broken] at found
          cases found
          exact ⟨broken, .alone (by simp)⟩
  · rintro ⟨unbroken, starts⟩
    cases starts with
    | alone nonempty => exact firstLine?_of_no_lineFeed nonempty unbroken
    | lineFeed unreturned => rw [firstLine?_append unbroken, if_neg unreturned]
    | carriageReturn =>
        have unbrokenToo : '\n' ∉ line ++ ['\r'] := by simpa using unbroken
        have split := firstLine?_append unbrokenToo rest
        rw [List.append_assoc, List.getLast?_concat, if_pos rfl, List.dropLast_concat] at split
        exact split

/-- What stands before the first line feed of a text, or all of it. -/
def headLine (text : List Char) : List Char := text.takeWhile (· != '\n')

theorem headLine_append {line : List Char} (unbroken : '\n' ∉ line) (rest : List Char) :
    headLine (line ++ '\n' :: rest) = line := by
  rw [headLine, List.takeWhile_append_of_pos (bne_of_not_mem unbroken)]
  simp

/-- What stands behind a line feed is not part of the first line. -/
theorem headLine_lineFeed (text rest : List Char) :
    headLine (text ++ '\n' :: rest) = headLine text := by
  by_cases broken : '\n' ∈ text
  · obtain ⟨front, back, rfl, unbroken⟩ := List.eq_append_cons_of_mem broken
    rw [List.append_assoc, List.cons_append, headLine_append unbroken, headLine_append unbroken]
  · rw [headLine_append broken, headLine, List.takeWhile_eq_self_iff.2 (bne_of_not_mem broken)]

/-- Blanks at the end of a line do not count, and so neither does a carriage return. -/
theorem StartsWithLine.strip_headLine {line text rest : List Char} (unbroken : '\n' ∉ line)
    (starts : StartsWithLine line text rest) : strip isBlank (headLine text) = strip isBlank line := by
  cases starts with
  | alone nonempty => rw [headLine, List.takeWhile_eq_self_iff.2 (bne_of_not_mem unbroken)]
  | lineFeed unreturned => rw [headLine_append unbroken]
  | carriageReturn =>
      have unbrokenToo : '\n' ∉ line ++ ['\r'] := by simpa using unbroken
      have head := headLine_append unbrokenToo rest
      rw [List.append_assoc] at head
      change headLine (line ++ '\r' :: '\n' :: rest) = _ at head
      rw [head, strip_append_of_all_right (List.forall_mem_singleton.2 (by decide))]

/-- A piece holds no separator, and at both of its ends the text ends or a separator stands. -/
structure IsPiece (isSeparator : Char → Bool) (text piece : List Char) : Prop where
  unbroken : ∀ character ∈ piece, isSeparator character = false
  placed : ∃ before after, text = before ++ piece ++ after ∧
    (∀ last ∈ before.getLast?, isSeparator last = true) ∧
    (∀ next ∈ after.head?, isSeparator next = true)

/-- A separator parts the pieces before it from those behind it. -/
theorem pieces_append {isSeparator : Char → Bool} {separator : Char}
    (separates : isSeparator separator = true) (first second : List Char) :
    pieces isSeparator (first ++ separator :: second) =
      pieces isSeparator first ++ pieces isSeparator second :=
  List.splitOnP_append_cons first second separates

/-- A text without separators is one piece. -/
theorem pieces_of_unbroken {isSeparator : Char → Bool} {text : List Char}
    (unbroken : ∀ character ∈ text, isSeparator character = false) :
    pieces isSeparator text = [text] :=
  List.splitOnP_eq_singleton unbroken

/-- Parts that are joined by a separator are the pieces again. -/
theorem pieces_intercalate {isSeparator : Char → Bool} {separator : Char}
    (separates : isSeparator separator = true) {parts : List (List Char)} (nonempty : parts ≠ [])
    (unbroken : ∀ part ∈ parts, ∀ character ∈ part, isSeparator character = false) :
    pieces isSeparator ([separator].intercalate parts) = parts := by
  induction parts with
  | nil => exact absurd rfl nonempty
  | cons first others inductionHypothesis =>
      obtain ⟨unbrokenFirst, unbrokenOthers⟩ := List.forall_mem_cons.1 unbroken
      cases others with
      | nil => rw [List.intercalate_singleton, pieces_of_unbroken unbrokenFirst]
      | cons second rest =>
          rw [List.intercalate_cons_cons, List.append_assoc, List.singleton_append,
            pieces_append separates, pieces_of_unbroken unbrokenFirst,
            inductionHypothesis (by simp) unbrokenOthers, List.singleton_append]

/-- What holds in a separator and in all pieces holds in the pieces joined by it. -/
theorem forall_mem_intercalate {property : Char → Prop} {separator : List Char}
    (between : ∀ character ∈ separator, property character) (parts : List (List Char))
    (inside : ∀ part ∈ parts, ∀ character ∈ part, property character) :
    ∀ character ∈ separator.intercalate parts, property character := by
  induction parts with
  | nil => simp
  | cons first others inductionHypothesis =>
      cases others with
      | nil =>
          rw [List.intercalate_singleton]
          exact inside first (List.mem_singleton_self first)
      | cons second others =>
          intro character member
          rw [List.intercalate_cons_cons, List.append_assoc, List.mem_append,
            List.mem_append] at member
          rcases member with inFirst | inSeparator | later
          · exact inside first List.mem_cons_self character inFirst
          · exact between character inSeparator
          · exact inductionHypothesis
              (fun part partMember => inside part (List.mem_cons_of_mem first partMember))
              character later

/-- A text has a first separator or none. -/
theorem eq_append_or_unbroken (isSeparator : Char → Bool) (text : List Char) :
    (∃ front separator back, text = front ++ separator :: back ∧
      isSeparator separator = true ∧ ∀ character ∈ front, isSeparator character = false) ∨
    ∀ character ∈ text, isSeparator character = false := by
  cases found : text.find? isSeparator with
  | none =>
      refine Or.inr fun character member => ?_
      simpa using List.find?_eq_none.1 found character member
  | some separator =>
      obtain ⟨separates, front, back, split, unbroken⟩ := List.find?_eq_some_iff_append.1 found
      refine Or.inl ⟨front, separator, back, split, separates, fun character member => ?_⟩
      simpa using unbroken character member

/-- Every piece is found. -/
theorem IsPiece.mem_pieces {isSeparator : Char → Bool} {text piece : List Char}
    (isPiece : IsPiece isSeparator text piece) : piece ∈ pieces isSeparator text := by
  obtain ⟨unbroken, before, after, rfl, startsBehind, endsBefore⟩ := isPiece
  have leading : piece ∈ pieces isSeparator (piece ++ after) := by
    cases after with
    | nil => simp [pieces_of_unbroken unbroken]
    | cons next others =>
        rw [pieces_append (endsBefore next rfl), pieces_of_unbroken unbroken]
        exact List.mem_cons_self
  rw [List.append_assoc]
  cases before using List.reverseRecOn with
  | nil => exact leading
  | append_singleton others last _ =>
      have separates := startsBehind last (by simp)
      rw [List.append_assoc, List.singleton_append, pieces_append separates]
      exact List.mem_append_right _ leading

/-- What a text is cut into are its pieces. -/
theorem mem_pieces_iff (isSeparator : Char → Bool) (text piece : List Char) :
    piece ∈ pieces isSeparator text ↔ IsPiece isSeparator text piece := by
  refine ⟨fun member => ?_, IsPiece.mem_pieces⟩
  induction length : text.length using Nat.strongRecOn generalizing text with
  | ind size inductionHypothesis =>
      rcases eq_append_or_unbroken isSeparator text with
        ⟨front, separator, back, rfl, separates, unbroken⟩ | unbroken
      · rw [pieces_append separates, pieces_of_unbroken unbroken] at member
        rcases List.mem_cons.1 member with rfl | later
        · exact ⟨unbroken, [], separator :: back, rfl, nofun, by simpa using separates⟩
        · have shorter : back.length < size := by
            rw [← length, List.length_append, List.length_cons]
            omega
          obtain ⟨inside, before, after, rfl, startsBehind, endsBefore⟩ :=
            inductionHypothesis _ shorter back later rfl
          refine ⟨inside, front ++ separator :: before, after, by simp, ?_, endsBefore⟩
          -- Right before the piece stands the separator, unless something else stands between the two.
          intro last isLast
          rw [List.getLast?_append_cons, List.getLast?_cons] at isLast
          cases ends : before.getLast? with
          | none =>
              rw [ends] at isLast
              cases isLast
              exact separates
          | some final =>
              rw [ends] at isLast
              cases isLast
              exact startsBehind _ ends
      · rw [pieces_of_unbroken unbroken, List.mem_singleton] at member
        subst member
        exact ⟨unbroken, [], [], by simp, nofun, nofun⟩

/-- A word is not empty and has no blanks in it. -/
structure IsWord (text : String) : Prop where
  nonempty : text ≠ ""
  unbroken : ∀ character ∈ text.toList, isBlank character = false

instance (text : String) : Decidable (IsWord text) :=
  decidable_of_iff (text ≠ "" ∧ text.toList.all (!isBlank ·) = true)
    ⟨fun isWord => ⟨isWord.1, by simpa using isWord.2⟩,
      fun isWord => ⟨isWord.nonempty, by simpa using isWord.unbroken⟩⟩

/-- A blank parts the words before it from those behind it. -/
theorem words_append_blank {blank : Char} (spaced : isBlank blank = true)
    (first second : List Char) : words (first ++ blank :: second) = words first ++ words second := by
  rw [words, pieces_append spaced, List.filter_append, List.map_append, words, words]

theorem words_cons_blank {blank : Char} (spaced : isBlank blank = true) (text : List Char) :
    words (blank :: text) = words text :=
  words_append_blank spaced [] text

/-- Blanks in front of a text make no words. -/
theorem words_blanks_append {blanks : List Char} (every : ∀ blank ∈ blanks, isBlank blank = true)
    (text : List Char) : words (blanks ++ text) = words text := by
  induction blanks with
  | nil => rfl
  | cons blank others inductionHypothesis =>
      obtain ⟨spaced, every⟩ := List.forall_mem_cons.1 every
      rw [List.cons_append, words_cons_blank spaced, inductionHypothesis every]

/-- No words stand in blanks. -/
theorem words_of_blanks {blanks : List Char} (every : ∀ blank ∈ blanks, isBlank blank = true) :
    words blanks = [] := by
  have none := words_blanks_append every []
  rw [List.append_nil] at none
  exact none

/-- A word is the only one in itself. -/
theorem IsWord.words_eq {text : String} (isWord : IsWord text) : words text.toList = [text] := by
  have nonempty : text.toList ≠ [] := fun empty => isWord.nonempty (String.toList_inj.1 empty)
  have kept : (!text.toList.isEmpty) = true := by simpa using nonempty
  rw [words, pieces_of_unbroken isWord.unbroken, List.filter_cons, if_pos kept, List.filter_nil,
    List.map_singleton, String.ofList_toList]

/-- A word in front of a blank is the first one. -/
theorem IsWord.words_append {text : String} (isWord : IsWord text) {blank : Char}
    (spaced : isBlank blank = true) (rest : List Char) :
    words (text.toList ++ blank :: rest) = text :: words rest := by
  rw [words_append_blank spaced, isWord.words_eq]
  rfl

/-- The words of a text are words. -/
theorem IsWord.of_mem_words {text : List Char} {word : String} (member : word ∈ words text) :
    IsWord word := by
  obtain ⟨piece, kept, rfl⟩ := List.mem_map.1 member
  obtain ⟨cut, nonempty⟩ := List.mem_filter.1 kept
  have isPiece := (mem_pieces_iff isBlank text piece).1 cut
  refine ⟨fun empty => ?_, ?_⟩
  · rw [← String.toList_inj, String.toList_ofList] at empty
    rw [empty] at nonempty
    cases nonempty
  · rw [String.toList_ofList]
    exact isPiece.unbroken

/-- A text is blank, or it has a first word, behind which it ends or a blank stands. -/
theorem blank_or_word (text : List Char) :
    (∀ character ∈ text, isBlank character = true) ∨
    ∃ before word after, text = before ++ word.toList ++ after ∧
      (∀ blank ∈ before, isBlank blank = true) ∧ IsWord word ∧
      (∀ next ∈ after.head?, isBlank next = true) := by
  cases rest : text.dropWhile isBlank with
  | nil => exact Or.inl (List.dropWhile_eq_nil_iff.1 rest)
  | cons first others =>
      have spoken : isBlank first = false := by
        have unwanted := List.head?_dropWhile_not isBlank text
        rw [rest] at unwanted
        simpa using unwanted
      refine Or.inr ⟨text.takeWhile isBlank,
        String.ofList ((first :: others).takeWhile (!isBlank ·)),
        (first :: others).dropWhile (!isBlank ·), ?_, ?_, ⟨?_, ?_⟩, ?_⟩
      · rw [String.toList_ofList, List.append_assoc, List.takeWhile_append_dropWhile, ← rest,
          List.takeWhile_append_dropWhile]
      · exact fun blank member => List.mem_takeWhile_imp member
      · intro empty
        rw [← String.toList_inj, String.toList_ofList,
          List.takeWhile_cons_of_pos (by simpa using spoken)] at empty
        cases empty
      · intro character member
        rw [String.toList_ofList] at member
        simpa using List.mem_takeWhile_imp member
      · intro next isNext
        have unwanted := List.head?_dropWhile_not (!isBlank ·) (first :: others)
        rw [Option.mem_def.1 isNext] at unwanted
        simpa using unwanted

/-- The first word of a text comes before the words behind it. -/
theorem words_of_first {before after : List Char} {word : String}
    (blanks : ∀ blank ∈ before, isBlank blank = true) (isWord : IsWord word)
    (ends : ∀ next ∈ after.head?, isBlank next = true) :
    words (before ++ word.toList ++ after) = word :: words after := by
  rw [List.append_assoc, words_blanks_append blanks]
  cases after with
  | nil => rw [List.append_nil, isWord.words_eq]; rfl
  | cons next others =>
      have blank := ends next rfl
      rw [isWord.words_append blank, words_cons_blank blank]

/-- Words that are joined by a blank are the words again. -/
theorem words_intercalate {blank : Char} (spaced : isBlank blank = true) {texts : List String}
    (areWords : ∀ text ∈ texts, IsWord text) :
    words ([blank].intercalate (texts.map String.toList)) = texts := by
  induction texts with
  | nil => rfl
  | cons first others inductionHypothesis =>
      obtain ⟨isWord, areWords⟩ := List.forall_mem_cons.1 areWords
      cases others with
      | nil => rw [List.map_singleton, List.intercalate_singleton, isWord.words_eq]
      | cons second rest =>
          rw [List.map_cons, List.map_cons, List.intercalate_cons_cons, List.append_assoc,
            List.singleton_append, isWord.words_append spaced, ← List.map_cons,
            inductionHypothesis areWords]

/-- A text has no words exactly when it is blank. -/
theorem words_eq_nil_iff (text : List Char) :
    words text = [] ↔ ∀ character ∈ text, isBlank character = true := by
  refine ⟨fun none => ?_, words_of_blanks⟩
  rcases blank_or_word text with blank | ⟨before, word, after, rfl, blanks, isWord, ends⟩
  · exact blank
  · rw [words_of_first blanks isWord ends] at none
    cases none

end SignOn.Text
