import SignOn.Failure
import SignOn.Proofs.Markup.Continuation
import SignOn.Proofs.Markup.Tag

/-
This file shows how deep elements nest, and which tag of a document goes beyond the depth limit.
-/

namespace SignOn.Markup

open SignOn.Text

/-- Between its marks a tag has strings in quotes and other characters that do not end it. -/
inductive IsTagContent : List Char → Prop
  | nil : IsTagContent []
  | plain {character : Char} {others : List Char} (ordinary : character ∉ ['>', '"', '\''])
      (rest : IsTagContent others) : IsTagContent (character :: others)
  | quoted {mark : Char} {inner others : List Char} (quote : mark = '"' ∨ mark = '\'')
      (closed : mark ∉ inner) (rest : IsTagContent others) :
      IsTagContent (mark :: inner ++ mark :: others)

/-- A tag that opens an element or stands alone does not begin as other markup does. -/
inductive IsStartTag : List Char → Prop
  | mk {content : List Char} (isContent : IsTagContent content)
      (begins : ∀ mark ∈ ['/', '!', '?'], content.head? ≠ some mark) :
      IsStartTag ('<' :: content ++ ['>'])

/-- The content of a tag has no closing mark outside of quotes. -/
theorem IsTagContent.inside {content : List Char} (isContent : IsTagContent content) :
    Inside content := by
  induction isContent with
  | nil => exact .nil
  | plain ordinary _ inductionHypothesis =>
      simp only [List.mem_cons, List.not_mem_nil, or_false, not_or] at ordinary
      exact (Inside.singleton ordinary.1 ordinary.2.1 ordinary.2.2).append inductionHypothesis
  | quoted quote closed _ inductionHypothesis =>
      simpa using (Inside.quoted quote closed).append inductionHypothesis

variable {characters rest : List Char}

/-- What is cut off up to the end of a tag is the content of one, or the rest of one in quotes. -/
theorem exists_isTagContent {newestFirst content : List Char} :
    (tagContent? newestFirst none characters = some (content, rest) →
      ∃ inner, IsTagContent inner ∧ characters = inner ++ '>' :: rest) ∧
    ∀ mark, tagContent? newestFirst (some mark) characters = some (content, rest) →
      ∃ quoted inner, mark ∉ quoted ∧ IsTagContent inner ∧
        characters = quoted ++ mark :: inner ++ '>' :: rest := by
  induction characters generalizing newestFirst with
  | nil =>
      constructor
      · rintro ⟨⟩
      · rintro _ ⟨⟩
  | cons character others inductionHypothesis =>
      constructor
      · intro cut
        rw [tagContent?] at cut
        by_cases closing : character = '>'
        · rw [if_pos closing] at cut
          obtain ⟨-, rfl⟩ := Prod.mk.inj (Option.some.inj cut)
          exact ⟨[], .nil, by rw [closing, List.nil_append]⟩
        rw [if_neg closing] at cut
        by_cases quote : character = '"' ∨ character = '\''
        · rw [if_pos quote] at cut
          obtain ⟨quoted, inner, closed, isContent, rfl⟩ := inductionHypothesis.2 character cut
          exact ⟨character :: quoted ++ character :: inner, .quoted quote closed isContent, by simp⟩
        · rw [if_neg quote] at cut
          obtain ⟨inner, isContent, rfl⟩ := inductionHypothesis.1 cut
          refine ⟨character :: inner, .plain ?_ isContent, rfl⟩
          simpa using ⟨closing, not_or.1 quote⟩
      · intro mark cut
        rw [tagContent?] at cut
        by_cases same : character = mark
        · rw [if_pos same] at cut
          obtain ⟨inner, isContent, rfl⟩ := inductionHypothesis.1 cut
          exact ⟨[], inner, List.not_mem_nil, isContent, by rw [same]; rfl⟩
        · rw [if_neg same] at cut
          obtain ⟨quoted, inner, closed, isContent, rfl⟩ := inductionHypothesis.2 mark cut
          refine ⟨character :: quoted, inner, ?_, isContent, rfl⟩
          exact List.not_mem_cons_of_ne_of_not_mem (Ne.symm same) closed

/-- A tag that opens an element or stands alone is found as such, whatever follows it. -/
theorem IsStartTag.exists_scan {tag : List Char} (isTag : IsStartTag tag) (rest : List Char) :
    ∃ content, scan (tag ++ rest) = .found (startToken content) rest := by
  cases isTag with
  | @mk content isContent begins =>
      have found := tagContent?_of_inside isContent.inside rest
      have shape : '<' :: content ++ ['>'] ++ rest = '<' :: (content ++ '>' :: rest) := by simp
      have scanned : scanMarkup (content ++ '>' :: rest) =
          foundIf (tagContent? [] none (content ++ '>' :: rest)) fun content =>
            some (startToken content) := by
        cases content with
        | nil => exact scanMarkup_tag (by decide) rest
        | cons first others => exact scanMarkup_tag (fun mark => begins first mark rfl) _
      refine ⟨content, ?_⟩
      rw [shape, scan, scanned, found]
      rfl

/-- A token enters an element when it opens one or stands alone. -/
def Token.Enters : Token → Prop
  | .opening _ => True
  | .standalone _ => True
  | _ => False

/-- A tag that is not a closing one enters an element. -/
theorem enters_startToken (content : List Char) : (startToken content).Enters := by
  rw [startToken]
  split <;> trivial

/-- No declaration enters an element. -/
theorem not_enters_of_scanDeclaration {token : Token}
    (scanned : scanDeclaration characters = .found token rest) : ¬ token.Enters := by
  unfold scanDeclaration at scanned
  split at scanned
  all_goals obtain ⟨content, -, made⟩ := exists_content_of_foundIf scanned
  case h_1 => exact Option.some.inj made ▸ id
  case h_2 => exact Option.some.inj made ▸ id
  case h_3 =>
    split at made
    · exact Option.some.inj made ▸ id
    · cases made

/-- Only a tag enters an element. -/
theorem exists_isStartTag {token : Token} (scanned : scan characters = .found token rest)
    (enters : token.Enters) : ∃ tag, characters = tag ++ rest ∧ IsStartTag tag := by
  unfold scan at scanned
  split at scanned
  case h_1 => cases scanned
  case h_3 =>
    obtain ⟨rfl, -⟩ := Scan.found.inj scanned
    cases enters
  case h_2 others =>
    unfold scanMarkup at scanned
    split at scanned
    case h_1 =>
      obtain ⟨content, -, made⟩ := exists_content_of_foundIf scanned
      obtain rfl := Option.some.inj made
      cases enters
    case h_2 => exact absurd enters (not_enters_of_scanDeclaration scanned)
    case h_3 => cases scanned
    case h_4 =>
      obtain ⟨content, -, made⟩ := exists_content_of_foundIf scanned
      obtain rfl := Option.some.inj made
      cases enters
    case h_5 notSlash notMark _ notQuestion =>
      obtain ⟨content, cut, -⟩ := exists_content_of_foundIf scanned
      obtain ⟨inner, isContent, rfl⟩ := exists_isTagContent.1 cut
      refine ⟨'<' :: inner ++ ['>'], by simp, .mk isContent ?_⟩
      intro mark isMark begins
      obtain ⟨tail, rfl⟩ := List.head?_eq_some_iff.1 begins
      simp only [List.mem_cons, List.not_mem_nil, or_false] at isMark
      rcases isMark with rfl | rfl | rfl
      · exact notSlash _ rfl
      · exact notMark _ rfl
      · exact notQuestion _ rfl

namespace Element

theorem height_eq (element : Element) : element.height = heightAmong element.children + 1 := by
  cases element
  rw [height]

/-- No element of a list is higher than the list as a whole. -/
theorem heightAmong_le_iff {elements : List Element} {bound : Nat} :
    heightAmong elements ≤ bound ↔ ∀ element ∈ elements, element.height ≤ bound := by
  induction elements with
  | nil => simp [heightAmong]
  | cons element others inductionHypothesis =>
      rw [heightAmong, Nat.max_le, inductionHypothesis, List.forall_mem_cons]

/-- Elements in reverse order are no higher. -/
theorem heightAmong_reverse_le (elements : List Element) :
    heightAmong elements.reverse ≤ heightAmong elements := by
  rw [heightAmong_le_iff]
  intro element member
  exact heightAmong_le_iff.1 le_rfl element (List.mem_reverse.1 member)

end Element

/-- What open elements hold stays within the depth limit, counted from the outermost one. -/
def AllFit : List OpenElement → Prop
  | [] => True
  | innermost :: outer =>
    Element.heightAmong innermost.newestFirst + (outer.length + 1) ≤ depthLimit ∧ AllFit outer

/-- What is open and what is closed stays within the depth limit, and behind the root nothing is open. -/
inductive Progress.Fits : Progress → Prop
  | opened {enclosing : List OpenElement} (fit : AllFit enclosing) : Fits ⟨enclosing, none⟩
  | closed {root : Element} (low : root.height ≤ depthLimit) : Fits ⟨[], some root⟩

theorem length_le_of_allFit {enclosing : List OpenElement} (fit : AllFit enclosing) :
    enclosing.length ≤ depthLimit := by
  cases enclosing with
  | nil => exact Nat.zero_le _
  | cons innermost outer => exact (Nat.le_add_left _ _).trans fit.1

namespace Progress

/-- No more elements are open than the limit allows. -/
theorem Fits.length_le {progress : Progress} (fits : progress.Fits) :
    progress.enclosing.length ≤ depthLimit := by
  cases fits with
  | opened fit => exact length_le_of_allFit fit
  | closed low => exact Nat.zero_le _

/-- An element that is low enough fits into what is open around it. -/
theorem fits_attach {element : Element} {outer : List OpenElement}
    (low : element.height + outer.length ≤ depthLimit) (fit : AllFit outer) :
    (attach element outer).Fits := by
  cases outer with
  | nil => exact .closed low
  | cons parent outer =>
      apply Fits.opened
      refine ⟨?_, fit.2⟩
      have parentLow := fit.1
      rw [List.length_cons] at low
      show Element.heightAmong (element :: parent.newestFirst) + (outer.length + 1) ≤ depthLimit
      rw [Element.heightAmong]
      omega

/-- A step stays within the depth limit. -/
theorem Step.fits {progress next : Progress} {token : Token} (step : Step progress token next)
    (fits : progress.Fits) : next.Fits := by
  cases step with
  | blankText => exact fits
  | text =>
      cases fits with
      | opened fit => exact .opened fit
  | opening shallow =>
      cases fits with
      | opened fit =>
          refine .opened ⟨?_, fit⟩
          show Element.heightAmong [] + _ ≤ depthLimit
          rw [Element.heightAmong]
          omega
  | standalone shallow =>
      cases fits with
      | opened fit =>
          refine fits_attach ?_ fit
          show Element.height _ + _ ≤ depthLimit
          rw [Element.height_eq]
          show Element.heightAmong [] + 1 + _ ≤ depthLimit
          rw [Element.heightAmong]
          omega
  | @closing innermost outer =>
      cases fits with
      | opened fit =>
          refine fits_attach ?_ fit.2
          have low := fit.1
          have reversed := Element.heightAmong_reverse_le innermost.newestFirst
          rw [Element.height_eq]
          show Element.heightAmong innermost.newestFirst.reverse + 1 + _ ≤ depthLimit
          omega
  | ignoredLiteral => exact fits
  | literal =>
      cases fits with
      | opened fit => exact .opened fit
  | remark => exact fits

end Progress

/-- The root of every document that is accepted stays within the depth limit. -/
theorem Accepts.height_le {progress : Progress} {characters : List Char} {root : Element}
    (accepts : Accepts root progress characters) (fits : progress.Fits) :
    root.height ≤ depthLimit := by
  induction accepts with
  | finished _ finish =>
      cases fits with
      | @opened enclosing fit =>
          obtain ⟨fault, refused⟩ := @Progress.finish_of_rootless ⟨enclosing, none⟩ rfl
          cases refused.symm.trans finish
      | closed low =>
          cases finish
          exact low
  | token _ step _ inductionHypothesis => exact inductionHypothesis (step.fits fits)

namespace Progress

/-- An element is nested too deep exactly when the depth limit is reached before its tag. -/
theorem enter_eq_nestedTooDeep_iff {progress : Progress} {content : List Char} :
    progress.enter content = .error .nestedTooDeep ↔
      progress.root = none ∧ depthLimit ≤ progress.enclosing.length := by
  rw [enter]
  cases root : progress.root with
  | some root => simp
  | none =>
      by_cases deep : depthLimit ≤ progress.enclosing.length
      · simp [deep]
      · simp only [Option.isSome_none, Bool.false_eq_true, if_false, deep, and_false, iff_false]
        cases read : Tag.read content with
        | ok tag => rintro ⟨⟩
        | error fault =>
            rintro ⟨⟩
            rcases Tag.read_cases content with ⟨tag, readToo, -⟩ | readToo | readToo <;>
              cases read.symm.trans readToo

/-- Only a token that enters an element can nest too deep. -/
theorem step_eq_nestedTooDeep_iff {progress : Progress} {token : Token} :
    progress.step token = .error .nestedTooDeep ↔
      token.Enters ∧ progress.root = none ∧ depthLimit ≤ progress.enclosing.length := by
  cases token with
  | text written =>
      refine ⟨fun refused => ?_, fun enters => enters.1.elim⟩
      rw [step, addText] at refused
      split at refused
      · cases refused
      split at refused
      · split at refused
        · cases refused
        · cases refused
      · cases refused
  | opening content =>
      rw [step, ← @enter_eq_nestedTooDeep_iff progress content]
      cases progress.enter content with
      | error fault => simp [Token.Enters]
      | ok element => simp
  | standalone content =>
      rw [step, ← @enter_eq_nestedTooDeep_iff progress content]
      cases progress.enter content with
      | error fault => simp [Token.Enters]
      | ok element => simp
  | closing content =>
      refine ⟨fun refused => ?_, fun enters => enters.1.elim⟩
      rw [step, leave] at refused
      split at refused
      · cases refused
      split at refused
      · cases refused
      · cases refused
  | literal characters =>
      refine ⟨fun refused => ?_, fun enters => enters.1.elim⟩
      rw [step] at refused
      split at refused
      · cases refused
      · cases refused
  | remark =>
      refine ⟨fun refused => ?_, fun enters => enters.1.elim⟩
      cases refused

/-- The end of a document is never too deep. -/
theorem finish_ne_nestedTooDeep (progress : Progress) :
    progress.finish ≠ .error .nestedTooDeep := by
  rw [finish]
  intro refused
  split at refused
  · split at refused
    · cases refused
    · cases refused
  · cases refused

/-- A document with as many open elements as are allowed is not complete. -/
theorem Fits.rootless {progress : Progress} (fits : progress.Fits)
    (deep : progress.enclosing.length = depthLimit) : progress.root = none := by
  cases fits with
  | opened => rfl
  | closed => cases deep

end Progress

/-- Reading on keeps the height of a document below the limit. -/
theorem ReadsTo.fits {progress final : Progress} {read : List Char}
    (readsTo : ReadsTo progress read final) (fits : progress.Fits) : final.Fits := by
  induction readsTo with
  | done => exact fits
  | token _ stepped _ inductionHypothesis =>
      exact inductionHypothesis ((Progress.step_eq_ok_iff.1 stepped).fits fits)

/-- As long as nothing is read, nothing is open. -/
theorem ReadsTo.ne_nil {read : List Char} {final : Progress}
    (readsTo : ReadsTo .start read final) (deep : final.enclosing.length = depthLimit) :
    read ≠ [] := by
  rintro rfl
  cases readsTo with
  | done => cases deep
  | token scanned => cases scanned

/-- A tag that enters an element at the depth limit is refused, whatever stands behind it. -/
theorem readFrom_of_deep {progress : Progress} {tag : List Char} (isTag : IsStartTag tag)
    (rootless : progress.root = none) (deep : progress.enclosing.length = depthLimit)
    (after : List Char) : readFrom progress (tag ++ after) = .error .nestedTooDeep := by
  obtain ⟨content, scanned⟩ := isTag.exists_scan after
  exact readFrom_of_refused scanned
    (Progress.step_eq_nestedTooDeep_iff.2 ⟨enters_startToken content, rootless, deep.ge⟩)

/-- A document nests too deep at a tag that is met while as many elements are open as can be. -/
theorem exists_deep_of_readFrom {progress : Progress} {characters : List Char}
    (fits : progress.Fits) (refused : readFrom progress characters = .error .nestedTooDeep) :
    ∃ before tag after final, characters = before ++ (tag ++ after) ∧ IsStartTag tag ∧
      ReadsTo progress before final ∧ final.enclosing.length = depthLimit := by
  induction progress, characters using readFrom.induct with
  | case1 progress characters finished =>
      rw [readFrom_eq, finished] at refused
      exact absurd refused progress.finish_ne_nestedTooDeep
  | case2 progress characters broken =>
      rw [readFrom_eq, broken] at refused
      cases refused
  | case3 progress characters token rest scanned fault stepped =>
      rw [readFrom_of_refused scanned stepped] at refused
      cases refused
      obtain ⟨enters, -, deep⟩ := Progress.step_eq_nestedTooDeep_iff.1 stepped
      obtain ⟨tag, rfl, isTag⟩ := exists_isStartTag scanned enters
      exact ⟨[], tag, rest, progress, rfl, isTag, .done, fits.length_le.antisymm deep⟩
  | case4 progress characters token rest scanned next stepped inductionHypothesis =>
      rw [readFrom_of_scan scanned stepped] at refused
      obtain ⟨inside, tag, after, final, rfl, isTag, readsTo, deep⟩ :=
        inductionHypothesis ((Progress.step_eq_ok_iff.1 stepped).fits fits) refused
      obtain ⟨before, rfl, whole⟩ := readsTo.token_of_append scanned stepped
      exact ⟨before, tag, after, final, rfl, isTag, whole, deep⟩

/--
No document nests deeper than sixty-four elements. It is refused for its nesting exactly when a tag
that opens an element or stands alone comes where sixty-four elements are open, whatever is wrong with
the tag or stands behind it.
-/
theorem nesting_limit_is_exact (document : String) :
    (∀ root, Element.parse document = .ok root → root.height ≤ 64) ∧
      (Element.parse document = .error .nestedTooDeep ↔
        ∃ before tag after final, document.toList = before ++ (tag ++ after) ∧ IsStartTag tag ∧
          ReadsTo .start (skipByteOrderMark before) final ∧ final.enclosing.length = 64) ∧
      (Failure.ofMarkup .nestedTooDeep).message = "Protocol violation: XML nesting too deep" := by
  have startFits : Progress.start.Fits := .opened trivial
  refine ⟨fun root accepted => (readFrom_eq_ok_iff.1 accepted).height_le startFits, ⟨?_, ?_⟩, by decide⟩
  · intro refused
    obtain ⟨inside, tag, after, final, read, isTag, readsTo, deep⟩ :=
      exists_deep_of_readFrom startFits refused
    obtain ⟨before, whole, skipped⟩ := exists_skipped_of_append (readsTo.ne_nil deep) read
    exact ⟨before, tag, after, final, whole, isTag, skipped ▸ readsTo, deep⟩
  · rintro ⟨before, tag, after, final, whole, isTag, readsTo, deep⟩
    have nonempty : before ≠ [] := by
      rintro rfl
      exact readsTo.ne_nil deep rfl
    obtain ⟨tail, begun⟩ : ∃ tail, tag ++ after = '<' :: tail := by
      cases isTag
      exact ⟨_, rfl⟩
    rw [Element.parse, Element.read, whole, skipByteOrderMark_append nonempty, begun,
      readsTo.readFrom_append, ← begun]
    exact readFrom_of_deep isTag ((readsTo.fits startFits).rootless deep) deep after

-- The tag of the sixty-fifth element stands alone and cannot be read, and more follows.
example : Element.read
    ((List.replicate 64 ['<', 'a', '>']).flatten ++ ['<', 'b', ' ', '=', '/', '>', '<']) =
      .error .nestedTooDeep := by decide +kernel

end SignOn.Markup
