import SignOn.Markup.Document

/-
This file lists what a token does to the progress of a document.
-/

namespace SignOn.Markup

open SignOn.Text

/-- How many children open elements have so far, innermost first. -/
def childCounts (enclosing : List OpenElement) : List Nat :=
  enclosing.map fun element => element.newestFirst.length

namespace Progress

/-- Every way in which a token is accepted, with what is checked of it. -/
inductive Step : Progress → Token → Progress → Prop
  | blankText {root : Option Element} {written characters : List Char}
      (meant : unescape? written = some characters) (blank : characters.all isBlank = true) :
      Step ⟨[], root⟩ (.text written) ⟨[], root⟩
  | text {innermost : OpenElement} {outer : List OpenElement} {root : Option Element}
      {written characters : List Char} (meant : unescape? written = some characters) :
      Step ⟨innermost :: outer, root⟩ (.text written) ⟨innermost.append characters :: outer, root⟩
  | opening {enclosing : List OpenElement} {content : List Char} {tag : Tag}
      (shallow : enclosing.length < depthLimit) (read : Tag.read content = .ok tag) :
      Step ⟨enclosing, none⟩ (.opening content) ⟨.ofTag enclosing tag :: enclosing, none⟩
  | standalone {enclosing : List OpenElement} {content : List Char} {tag : Tag}
      (shallow : enclosing.length < depthLimit) (read : Tag.read content = .ok tag) :
      Step ⟨enclosing, none⟩ (.standalone content)
        (attach (OpenElement.ofTag enclosing tag).close enclosing)
  | closing {innermost : OpenElement} {outer : List OpenElement} {root : Option Element}
      {content : List Char} (named : closingName content = innermost.tagName.toList) :
      Step ⟨innermost :: outer, root⟩ (.closing content) (attach innermost.close outer)
  | ignoredLiteral {root : Option Element} {characters : List Char} :
      Step ⟨[], root⟩ (.literal characters) ⟨[], root⟩
  | literal {innermost : OpenElement} {outer : List OpenElement} {root : Option Element}
      {characters : List Char} :
      Step ⟨innermost :: outer, root⟩ (.literal characters)
        ⟨innermost.append characters :: outer, root⟩
  | remark {progress : Progress} : Step progress .remark progress

/-- A tag enters an element while there is no root and the depth limit is not reached. -/
theorem enter_of_shallow {enclosing : List OpenElement} {content : List Char} {tag : Tag}
    (shallow : enclosing.length < depthLimit) (read : Tag.read content = .ok tag) :
    enter ⟨enclosing, none⟩ content = .ok (.ofTag enclosing tag) := by
  rw [enter, if_neg (by simp), if_neg (Nat.not_le.2 shallow), read]

/-- An element is entered in this way and in no other. -/
theorem exists_tag_of_enter {progress : Progress} {content : List Char} {element : OpenElement}
    (entered : progress.enter content = .ok element) :
    progress.root = none ∧ progress.enclosing.length < depthLimit ∧
      ∃ tag, Tag.read content = .ok tag ∧ element = .ofTag progress.enclosing tag := by
  rw [enter] at entered
  split at entered
  · cases entered
  split at entered
  · cases entered
  rename_i rootless shallow
  cases read : Tag.read content with
  | error fault =>
      rw [read] at entered
      cases entered
  | ok tag =>
      rw [read] at entered
      cases entered
      exact ⟨by simpa using rootless, Nat.not_le.1 shallow, tag, rfl, rfl⟩

/-- A token that is accepted is accepted in one of these ways. -/
theorem step_of_ok {progress next : Progress} {token : Token}
    (stepped : progress.step token = .ok next) : Step progress token next := by
  obtain ⟨enclosing, root⟩ := progress
  cases token with
  | text written =>
      rw [step, addText] at stepped
      cases meant : unescape? written with
      | none =>
          rw [meant] at stepped
          cases stepped
      | some characters =>
          rw [meant] at stepped
          cases enclosing with
          | nil =>
              by_cases blank : characters.all isBlank = true
              · simp only [if_pos blank] at stepped
                cases stepped
                exact .blankText meant blank
              · simp only [if_neg blank] at stepped
                cases stepped
          | cons innermost outer =>
              cases stepped
              exact .text meant
  | opening content =>
      rw [step] at stepped
      cases entered : enter ⟨enclosing, root⟩ content with
      | error fault =>
          rw [entered] at stepped
          cases stepped
      | ok element =>
          rw [entered] at stepped
          cases stepped
          obtain ⟨rfl, shallow, tag, read, rfl⟩ := exists_tag_of_enter entered
          exact .opening shallow read
  | standalone content =>
      rw [step] at stepped
      cases entered : enter ⟨enclosing, root⟩ content with
      | error fault =>
          rw [entered] at stepped
          cases stepped
      | ok element =>
          rw [entered] at stepped
          cases stepped
          obtain ⟨rfl, shallow, tag, read, rfl⟩ := exists_tag_of_enter entered
          exact .standalone shallow read
  | closing content =>
      rw [step, leave] at stepped
      cases enclosing with
      | nil => cases stepped
      | cons innermost outer =>
          by_cases named : closingName content = innermost.tagName.toList
          · simp only [if_pos named] at stepped
            cases stepped
            exact .closing named
          · simp only [if_neg named] at stepped
            cases stepped
  | literal characters =>
      cases enclosing with
      | nil =>
          cases stepped
          exact .ignoredLiteral
      | cons innermost outer =>
          cases stepped
          exact .literal
  | remark =>
      cases stepped
      exact .remark

/-- A token is accepted in each of these ways. -/
theorem Step.step_eq {progress next : Progress} {token : Token} (step : Step progress token next) :
    progress.step token = .ok next := by
  cases step with
  | blankText meant blank =>
      rw [Progress.step, addText, meant]
      exact if_pos blank
  | text meant => rw [Progress.step, addText, meant]
  | opening shallow read => rw [Progress.step, enter_of_shallow shallow read]
  | standalone shallow read => rw [Progress.step, enter_of_shallow shallow read]
  | closing named =>
      rw [Progress.step, leave]
      exact if_pos named
  | ignoredLiteral => rfl
  | literal => rfl
  | remark => rfl

/-- A token is accepted in these ways and in no others. -/
theorem step_eq_ok_iff {progress next : Progress} {token : Token} :
    progress.step token = .ok next ↔ Step progress token next :=
  ⟨step_of_ok, Step.step_eq⟩

/-- Only an element that stands in no other one becomes the root. -/
theorem root_attach (element : Element) (outer : List OpenElement) :
    (attach element outer).root = none ∨ attach element outer = ⟨[], some element⟩ := by
  cases outer with
  | nil => exact Or.inr rfl
  | cons parent outer => exact Or.inl rfl

/-- Before the root is closed, a step leaves it open or closes it by a tag. -/
theorem Step.root_cases {progress next : Progress} {token : Token} (step : Step progress token next)
    (rootless : progress.root = none) :
    next.root = none ∨
      (∃ content, token = .closing content ∨ token = .standalone content) ∧
        ∃ root, next = ⟨[], some root⟩ := by
  cases step with
  | blankText => exact Or.inl rootless
  | text => exact Or.inl rootless
  | opening => exact Or.inl rfl
  | @standalone enclosing content tag =>
      refine (root_attach _ _).imp id fun closed => ⟨⟨content, Or.inr rfl⟩, ⟨_, closed⟩⟩
  | @closing innermost outer _ content =>
      refine (root_attach _ _).imp id fun closed => ⟨⟨content, Or.inl rfl⟩, ⟨_, closed⟩⟩
  | ignoredLiteral => exact Or.inl rootless
  | literal => exact Or.inl rootless
  | remark => exact Or.inl rootless

/-- Behind the root nothing is added. -/
theorem Step.eq_of_closed {root : Element} {next : Progress} {token : Token}
    (step : Step ⟨[], some root⟩ token next) : next = ⟨[], some root⟩ := by
  cases step <;> rfl

/-- A document without a complete root fails. -/
theorem finish_of_rootless {progress : Progress} (rootless : progress.root = none) :
    ∃ fault, progress.finish = .error fault := by
  rw [finish, rootless]
  split
  · exact ⟨.noRoot, rfl⟩
  · exact ⟨.unexpectedEnd, rfl⟩

end Progress

/-- Reading goes on from token to token. -/
theorem readFrom_eq (progress : Progress) (characters : List Char) :
    readFrom progress characters =
      match scan characters with
      | .finished => progress.finish
      | .broken => .error .malformed
      | .found token rest =>
        match progress.step token with
        | .error fault => .error fault
        | .ok next => readFrom next rest := by
  rw [readFrom]
  split
  case h_1 finished => rw [finished]
  case h_2 broken => rw [broken]
  case h_3 found => exact found ▸ rfl

/-- A token that is found is worked on before the rest is read. -/
theorem readFrom_of_scan {progress next : Progress} {characters rest : List Char} {token : Token}
    (scanned : scan characters = .found token rest) (stepped : progress.step token = .ok next) :
    readFrom progress characters = readFrom next rest := by
  rw [readFrom_eq, scanned]
  simp only [stepped]

/-- A token that is refused ends the reading. -/
theorem readFrom_of_refused {progress : Progress} {characters rest : List Char} {token : Token}
    {fault : Fault} (scanned : scan characters = .found token rest)
    (refused : progress.step token = .error fault) :
    readFrom progress characters = .error fault := by
  rw [readFrom_eq, scanned]
  simp only [refused]

/-- Every token of a document is accepted up to its end, and then the root is complete. -/
inductive Accepts (root : Element) : Progress → List Char → Prop
  | finished {progress : Progress} {characters : List Char} (ended : scan characters = .finished)
      (finish : progress.finish = .ok root) : Accepts root progress characters
  | token {progress next : Progress} {characters rest : List Char} {token : Token}
      (scanned : scan characters = .found token rest) (step : progress.Step token next)
      (accepts : Accepts root next rest) : Accepts root progress characters

/-- A root is read in this way and in no other. -/
theorem readFrom_eq_ok_iff {progress : Progress} {characters : List Char} {root : Element} :
    readFrom progress characters = .ok root ↔ Accepts root progress characters := by
  constructor
  · intro accepted
    induction progress, characters using readFrom.induct with
    | case1 progress characters finished =>
        rw [readFrom_eq, finished] at accepted
        exact .finished finished accepted
    | case2 progress characters broken =>
        rw [readFrom_eq, broken] at accepted
        cases accepted
    | case3 progress characters token rest scanned fault refused =>
        rw [readFrom_of_refused scanned refused] at accepted
        cases accepted
    | case4 progress characters token rest scanned next stepped inductionHypothesis =>
        rw [readFrom_of_scan scanned stepped] at accepted
        exact .token scanned (Progress.step_eq_ok_iff.1 stepped) (inductionHypothesis accepted)
  · intro accepts
    induction accepts with
    | finished ended finish =>
        rw [readFrom_eq, ended]
        exact finish
    | token scanned step _ inductionHypothesis =>
        rw [readFrom_of_scan scanned step.step_eq, inductionHypothesis]

/-- The root that was closed is the one that is read, whatever follows it. -/
theorem Accepts.eq_of_closed {root found : Element} {characters : List Char}
    (accepts : Accepts found ⟨[], some root⟩ characters) : found = root := by
  generalize closed : (⟨[], some root⟩ : Progress) = progress at accepts
  induction accepts with
  | finished _ finish =>
      subst closed
      cases finish
      rfl
  | token _ step _ inductionHypothesis =>
      subst closed
      exact inductionHypothesis step.eq_of_closed.symm

/-- A byte order mark is skipped in a beginning as in the whole. -/
theorem skipByteOrderMark_append {read : List Char} (nonempty : read ≠ []) (unread : List Char) :
    skipByteOrderMark (read ++ unread) = skipByteOrderMark read ++ unread := by
  cases read with
  | nil => exact absurd rfl nonempty
  | cons first others =>
      by_cases mark : first = '\uFEFF'
      · subst mark
        rfl
      · have kept (tail : List Char) : skipByteOrderMark (first :: tail) = first :: tail := by
          unfold skipByteOrderMark
          split
          case h_1 same => exact absurd (List.cons.inj same).1 mark
          case h_2 => rfl
        rw [List.cons_append, kept, kept, List.cons_append]

/-- What is left behind a byte order mark is an end of the text. -/
theorem exists_skipped (characters : List Char) :
    ∃ skipped, characters = skipped ++ skipByteOrderMark characters := by
  unfold skipByteOrderMark
  split
  case h_1 rest => exact ⟨['\uFEFF'], rfl⟩
  case h_2 => exact ⟨[], rfl⟩

/-- A beginning without a byte order mark is one with it, or stands for itself. -/
theorem exists_skipped_of_append {characters read unread : List Char} (nonempty : read ≠ [])
    (skipped : skipByteOrderMark characters = read ++ unread) :
    ∃ before, characters = before ++ unread ∧ skipByteOrderMark before = read := by
  obtain ⟨mark, whole⟩ := exists_skipped characters
  rw [skipped, ← List.append_assoc] at whole
  refine ⟨mark ++ read, whole, (List.append_left_inj unread).1 ?_⟩
  rw [← skipByteOrderMark_append (by simp [nonempty]), ← whole, skipped]

end SignOn.Markup
