import SignOn.Proofs.ServiceResponse.Reading
import SignOn.Proofs.Text.Cutting

/-
This file shows what is read from an answer of protocol version 1, and which texts are such answers.
-/

namespace SignOn.PlainText

open SignOn.Text

/-- A name has lost the blanks around it. -/
theorem trim_readName (rest : List Char) : trim (readName rest) = readName rest := by
  rw [readName]
  cases firstLine? rest with
  | none => rfl
  | some line => exact trim_trim _

/-- A name is either missing or can name a principal. -/
theorem read_eq (body : String) (now : Instant) :
    PlainText.read body now =
      match firstLine? body.toList with
      | some (['y', 'e', 's'], rest) =>
        if readName rest = "" then .error .noPrincipal
        else .ok (.ofAssertion (.openEnded ⟨readName rest, NameMap.empty, none⟩ now))
      | some (['n', 'o'], _) => .error (.serverRejected none "ticket not recognized")
      | _ => .error (.protocolViolation .neitherYesNorNo) := by
  rw [PlainText.read]
  congr 1
  funext rest
  by_cases missing : readName rest = ""
  · simp only [if_pos missing]
  · simp only [if_neg missing, Principal.create_of_trimmed (trim_readName rest) missing]
    rfl

/-- A reply needs an acceptance with a name behind it. -/
theorem read_eq_ok_iff (body : String) (now : Instant) (reply : Reply) :
    PlainText.read body now = .ok reply ↔
      ∃ rest, firstLine? body.toList = some (['y', 'e', 's'], rest) ∧ readName rest ≠ "" ∧
        reply = .ofAssertion (.openEnded ⟨readName rest, NameMap.empty, none⟩ now) := by
  rw [read_eq]
  constructor
  · intro found
    split at found
    · rename_i rest accepted
      split at found
      · cases found
      · rename_i named
        cases found
        exact ⟨rest, accepted, named, rfl⟩
    · cases found
    · cases found
  · rintro ⟨rest, accepted, named, rfl⟩
    rw [accepted]
    exact if_neg named

/-- A body opens with a line when a line feed follows it, perhaps behind one carriage return. -/
inductive OpensWith (line rest body : String) : Prop
  | lineFeed (same : body = line ++ "\n" ++ rest)
  | carriageReturn (same : body = line ++ "\r\n" ++ rest)

/-- An acceptance names a user on the line behind its word. -/
def Names (body name : String) : Prop :=
  ∃ rest, OpensWith "yes" rest body ∧ (headLine rest.toList).all isBlank = false ∧
    name = trim (String.ofList (headLine rest.toList))

/-- An acceptance ends with its word, or the line behind it is blank. -/
def NamesNobody (body : String) : Prop :=
  body = "yes" ∨ ∃ rest, OpensWith "yes" rest body ∧ (headLine rest.toList).all isBlank = true

/-- A refusal is its word, whatever stands on the lines behind it. -/
def Refuses (body : String) : Prop := body = "no" ∨ ∃ rest, OpensWith "no" rest body

/-- A word is the first line when it stands alone or opens the body. -/
theorem firstLine?_eq_some_iff_of_word {word : String} (spoken : word ≠ "")
    (unbroken : '\n' ∉ word.toList) (unreturned : word.toList.getLast? ≠ some '\r')
    (body rest : String) :
    firstLine? body.toList = some (word.toList, rest.toList) ↔
      (body = word ∧ rest = "") ∨ OpensWith word rest body := by
  have joined (ending : String) : body = word ++ ending ++ rest ↔
      body.toList = word.toList ++ (ending.toList ++ rest.toList) := by
    rw [← String.toList_inj, String.toList_append, String.toList_append, List.append_assoc]
  rw [firstLine?_eq_some_iff]
  constructor
  · rintro ⟨-, starts⟩
    generalize characters : body.toList = text at starts
    generalize others : rest.toList = tail at starts
    cases starts with
    | alone nonempty =>
        exact Or.inl ⟨String.toList_inj.1 characters, String.toList_inj.1 others⟩
    | lineFeed => exact Or.inr (.lineFeed ((joined "\n").2 (by rw [characters, others]; rfl)))
    | carriageReturn =>
        exact Or.inr (.carriageReturn ((joined "\r\n").2 (by rw [characters, others]; rfl)))
  · rintro (⟨rfl, rfl⟩ | opens)
    · exact ⟨unbroken, .alone fun empty => spoken (String.toList_inj.1 empty)⟩
    · cases opens with
      | lineFeed same =>
          rw [(joined "\n").1 same]
          exact ⟨unbroken, .lineFeed unreturned rest.toList⟩
      | carriageReturn same =>
          rw [(joined "\r\n").1 same]
          exact ⟨unbroken, .carriageReturn rest.toList⟩

/-- What a word is followed by is nothing when it stands alone. -/
theorem exists_firstLine?_iff_of_word {word : String} (spoken : word ≠ "")
    (unbroken : '\n' ∉ word.toList) (unreturned : word.toList.getLast? ≠ some '\r')
    (property : List Char → Prop) (body : String) :
    (∃ rest, firstLine? body.toList = some (word.toList, rest) ∧ property rest) ↔
      (body = word ∧ property []) ∨ ∃ rest, OpensWith word rest body ∧ property rest.toList := by
  constructor
  · rintro ⟨rest, found, holds⟩
    obtain ⟨rest, rfl⟩ : ∃ text : String, rest = text.toList :=
      ⟨String.ofList rest, String.toList_ofList.symm⟩
    rcases (firstLine?_eq_some_iff_of_word spoken unbroken unreturned body rest).1 found with
      ⟨same, rfl⟩ | opens
    · exact Or.inl ⟨same, holds⟩
    · exact Or.inr ⟨_, opens, holds⟩
  · rintro (⟨same, holds⟩ | ⟨rest, opens, holds⟩)
    · exact ⟨[], (firstLine?_eq_some_iff_of_word spoken unbroken unreturned body "").2
        (Or.inl ⟨same, rfl⟩), holds⟩
    · exact ⟨rest.toList, (firstLine?_eq_some_iff_of_word spoken unbroken unreturned body rest).2
        (Or.inr opens), holds⟩

/-- The name stands before the first line feed of what follows the word. -/
theorem readName_eq (rest : List Char) : readName rest = trim (String.ofList (headLine rest)) := by
  rw [readName]
  cases found : firstLine? rest with
  | none =>
      rw [(firstLine?_eq_none_iff rest).1 found]
      rfl
  | some line =>
      obtain ⟨unbroken, starts⟩ := (firstLine?_eq_some_iff rest line.1 line.2).1 found
      simp only [trim, String.toList_ofList, starts.strip_headLine unbroken]

/-- No name is read exactly from a blank line. -/
theorem readName_eq_empty_iff (rest : List Char) :
    readName rest = "" ↔ (headLine rest).all isBlank = true := by
  rw [readName_eq, trim_eq_empty_iff, isBlankText, String.toList_ofList]

/-- A body names a user exactly when a name is read behind the word of an acceptance. -/
theorem names_iff (body name : String) :
    Names body name ↔ ∃ rest, firstLine? body.toList = some ("yes".toList, rest) ∧
      readName rest ≠ "" ∧ name = readName rest := by
  rw [exists_firstLine?_iff_of_word (by decide) (by decide) (by decide)
    (fun rest => readName rest ≠ "" ∧ name = readName rest), Names]
  simp only [readName_eq_empty_iff, ← readName_eq, ne_eq, Bool.not_eq_true]
  constructor
  · exact Or.inr
  · rintro (⟨-, spoken, -⟩ | found)
    · cases spoken
    · exact found

/-- A body names nobody exactly when no name is read behind the word of an acceptance. -/
theorem namesNobody_iff (body : String) :
    NamesNobody body ↔ ∃ rest, firstLine? body.toList = some ("yes".toList, rest) ∧
      readName rest = "" := by
  rw [exists_firstLine?_iff_of_word (by decide) (by decide) (by decide)
    (fun rest => readName rest = ""), NamesNobody]
  simp only [readName_eq_empty_iff]
  exact or_congr_left (by simp [headLine])

/-- A body refuses exactly when its first line is the word of a refusal. -/
theorem refuses_iff (body : String) :
    Refuses body ↔ ∃ rest, firstLine? body.toList = some ("no".toList, rest) := by
  have found := @exists_firstLine?_iff_of_word "no" (by decide) (by decide) (by decide)
    (fun _ => True) body
  simp only [and_true] at found
  rw [found, Refuses]

/-- Behind the word of an acceptance the name decides. -/
theorem read_of_yes {body : String} {rest : List Char}
    (found : firstLine? body.toList = some ("yes".toList, rest)) (now : Instant) :
    PlainText.read body now =
      if readName rest = "" then .error .noPrincipal
      else .ok (.ofAssertion (.openEnded ⟨readName rest, NameMap.empty, none⟩ now)) := by
  rw [read_eq, found]
  rfl

/-- The four ways in which a body is read. -/
inductive Reading (body : String) (now : Instant) : Except Failure Reply → Prop
  | named {rest : List Char} (found : firstLine? body.toList = some ("yes".toList, rest))
      (named : readName rest ≠ "") :
      Reading body now (.ok (.ofAssertion (.openEnded ⟨readName rest, NameMap.empty, none⟩ now)))
  | nobody {rest : List Char} (found : firstLine? body.toList = some ("yes".toList, rest))
      (missing : readName rest = "") : Reading body now (.error .noPrincipal)
  | refused {rest : List Char} (found : firstLine? body.toList = some ("no".toList, rest)) :
      Reading body now (.error (.serverRejected none "ticket not recognized"))
  | neither (notYes : ∀ rest, firstLine? body.toList ≠ some ("yes".toList, rest))
      (notNo : ∀ rest, firstLine? body.toList ≠ some ("no".toList, rest)) :
      Reading body now (.error (.protocolViolation .neitherYesNorNo))

/-- Every body is read in one of the four ways. -/
theorem read_cases (body : String) (now : Instant) : Reading body now (PlainText.read body now) := by
  rw [read_eq]
  split
  · rename_i rest found
    split
    · rename_i missing
      exact .nobody found missing
    · rename_i named
      exact .named found named
  · rename_i rest found
    exact .refused found
  · rename_i notYes notNo
    exact .neither notYes notNo

/-- The user is missing exactly when an acceptance names nobody. -/
theorem read_eq_noPrincipal_iff (body : String) (now : Instant) :
    PlainText.read body now = .error .noPrincipal ↔ NamesNobody body := by
  rw [namesNobody_iff]
  constructor
  · intro outcome
    have reading := read_cases body now
    rw [outcome] at reading
    cases reading with
    | nobody found missing => exact ⟨_, found, missing⟩
  · rintro ⟨rest, found, missing⟩
    rw [read_of_yes found, if_pos missing]

/-- A body is read as rejected exactly when it refuses. -/
theorem exists_serverRejected_iff (body : String) (now : Instant) :
    (∃ code detail, PlainText.read body now = .error (.serverRejected code detail)) ↔
      Refuses body := by
  rw [refuses_iff]
  constructor
  · rintro ⟨code, detail, outcome⟩
    have reading := read_cases body now
    rw [outcome] at reading
    cases reading with
    | refused found => exact ⟨_, found⟩
  · rintro ⟨rest, found⟩
    exact ⟨none, "ticket not recognized", by rw [read_eq, found]; rfl⟩

/-- An acceptance names a user or nobody. -/
theorem exists_names_iff (body : String) :
    ((∃ name, Names body name) ∨ NamesNobody body) ↔
      ∃ rest, firstLine? body.toList = some ("yes".toList, rest) := by
  simp only [names_iff, namesNobody_iff]
  constructor
  · rintro (⟨name, rest, found, -⟩ | ⟨rest, found, -⟩)
    · exact ⟨rest, found⟩
    · exact ⟨rest, found⟩
  · rintro ⟨rest, found⟩
    by_cases missing : readName rest = ""
    · exact Or.inr ⟨rest, found, missing⟩
    · exact Or.inl ⟨readName rest, rest, found, missing, rfl⟩

/-- Whatever is neither an acceptance nor a refusal departs from the protocol. -/
theorem exists_protocolViolation_iff (body : String) (now : Instant) :
    (∃ violation, PlainText.read body now = .error (.protocolViolation violation)) ↔
      (∀ name, ¬ Names body name) ∧ ¬ NamesNobody body ∧ ¬ Refuses body := by
  rw [← and_assoc, ← not_exists, ← not_or, exists_names_iff, refuses_iff]
  constructor
  · rintro ⟨violation, outcome⟩
    have reading := read_cases body now
    rw [outcome] at reading
    cases reading with
    | neither notYes notNo => exact ⟨not_exists.2 notYes, not_exists.2 notNo⟩
  · rintro ⟨notYes, notNo⟩
    have reading := read_cases body now
    generalize PlainText.read body now = outcome at reading
    cases reading with
    | named found _ => exact absurd ⟨_, found⟩ notYes
    | nobody found _ => exact absurd ⟨_, found⟩ notYes
    | refused found => exact absurd ⟨_, found⟩ notNo
    | neither _ _ => exact ⟨_, rfl⟩

/-- What stands behind the line feed after the name does not count. -/
theorem read_append_tail {ending : String} (ends : ending = "\n" ∨ ending = "\r\n")
    (rest tail : String) (now : Instant) :
    PlainText.read ("yes" ++ ending ++ (rest ++ "\n" ++ tail)) now =
      PlainText.read ("yes" ++ ending ++ rest) now := by
  have opened (rest : String) :
      firstLine? ("yes" ++ ending ++ rest).toList = some ("yes".toList, rest.toList) := by
    rw [firstLine?_eq_some_iff_of_word (by decide) (by decide) (by decide)]
    rcases ends with rfl | rfl
    · exact Or.inr (.lineFeed rfl)
    · exact Or.inr (.carriageReturn rfl)
  have sameHead : headLine (rest ++ "\n" ++ tail).toList = headLine rest.toList := by
    rw [String.toList_append, String.toList_append, List.append_assoc]
    exact headLine_lineFeed rest.toList tail.toList
  rw [read_of_yes (opened _), read_of_yes (opened _), readName_eq, readName_eq, sameHead]

/--
An answer is read by its first two lines: an acceptance with a name, an acceptance without one, a
refusal, or no answer at all. Nothing behind the line feed after the name counts.
-/
theorem read_follows_lines (body : String) (now : Instant) :
    (∀ reply, PlainText.read body now = .ok reply ↔
      ∃ name, Names body name ∧
        reply = .ofAssertion (.openEnded ⟨name, NameMap.empty, none⟩ now)) ∧
    (PlainText.read body now = .error .noPrincipal ↔ NamesNobody body) ∧
    ((∃ code detail, PlainText.read body now = .error (.serverRejected code detail)) ↔
      Refuses body) ∧
    ((∃ violation, PlainText.read body now = .error (.protocolViolation violation)) ↔
      (∀ name, ¬ Names body name) ∧ ¬ NamesNobody body ∧ ¬ Refuses body) ∧
    ∀ rest tail, PlainText.read ("yes" ++ "\n" ++ (rest ++ "\n" ++ tail)) now =
        PlainText.read ("yes" ++ "\n" ++ rest) now ∧
      PlainText.read ("yes" ++ "\r\n" ++ (rest ++ "\n" ++ tail)) now =
        PlainText.read ("yes" ++ "\r\n" ++ rest) now := by
  refine ⟨fun reply => ?accepted, read_eq_noPrincipal_iff body now,
    exists_serverRejected_iff body now, exists_protocolViolation_iff body now,
    fun rest tail => ?behind⟩
  case accepted =>
    simp only [read_eq_ok_iff, names_iff]
    constructor
    · rintro ⟨rest, found, named, rfl⟩
      exact ⟨readName rest, ⟨rest, found, named, rfl⟩, rfl⟩
    · rintro ⟨name, ⟨rest, found, named, rfl⟩, rfl⟩
      exact ⟨rest, found, named, rfl⟩
  case behind =>
    exact ⟨read_append_tail (Or.inl rfl) rest tail now, read_append_tail (Or.inr rfl) rest tail now⟩

/-- A carriage return alone ends no line. -/
example (now : Instant) : PlainText.read "yes\ralice\n" now =
    .error (.protocolViolation .neitherYesNorNo) := rfl

end SignOn.PlainText
