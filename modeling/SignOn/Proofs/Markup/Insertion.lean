import SignOn.Proofs.Markup.Nesting
import SignOn.Proofs.Markup.Outline
import SignOn.Proofs.Markup.Writing

/-
This file says where text stands between the markup of a document, and reads a document on from there when
something else is put into its place.
-/

namespace SignOn.Markup

open SignOn.Text

/-- Every token but text has marks around it. -/
def Token.IsMarkup : Token → Prop
  | .text _ => False
  | _ => True

/-- A comment and a processing instruction go on to the first mark that ends them. -/
inductive IsRemark : List Char → Prop
  | comment {content : List Char} (unended : ¬ ['-', '-', '>'] <:+: content) :
      IsRemark ('<' :: '!' :: '-' :: '-' :: (content ++ ['-', '-', '>']))
  | instruction {content : List Char} (unended : ¬ ['?', '>'] <:+: content)
      (begun : content.head? ≠ some '>') : IsRemark ('<' :: '?' :: (content ++ ['?', '>']))

section Mark

variable {body content : List Char} {last : Char}

/--
A mark whose last character is of its own does not begin in a text in front of it: it would end inside of
that text or inside of the mark that follows.
-/
theorem not_prefix_of_own (own : last ∉ body) (absent : ¬ body ++ [last] <:+: content)
    (nonempty : content ≠ []) (rest : List Char) :
    ¬ body ++ [last] <+: content ++ (body ++ [last] ++ rest) := by
  rintro ⟨tail, here⟩
  rcases List.append_eq_append_iff.1 here with ⟨missing, within, -⟩ | ⟨behind, beyond, goesOn⟩
  · exact absent (within ▸ (List.prefix_append _ _).isInfix)
  rcases List.eq_nil_or_concat behind with rfl | ⟨inner, final, rfl⟩
  · rw [beyond, List.append_nil] at absent
    exact absent List.infix_rfl
  · rw [List.concat_eq_append] at beyond goesOn
    rw [← List.append_assoc] at beyond
    obtain ⟨rfl, same⟩ := List.append_inj' beyond rfl
    obtain rfl := List.singleton_inj.1 same
    have markBegins : inner ++ [last] <+: content ++ inner ++ [last] ++ rest :=
      goesOn ▸ List.prefix_append _ _
    have bodyBegins : content ++ inner <+: content ++ inner ++ [last] ++ rest := by
      rw [List.append_assoc]
      exact List.prefix_append _ _
    have begins : inner ++ [last] <+: content ++ inner := by
      refine List.prefix_of_prefix_length_le markBegins bodyBegins ?_
      have := List.length_pos_iff.2 nonempty
      simp only [List.length_append, List.length_singleton]
      omega
    exact own (begins.subset (by simp))

/-- A mark whose last character is of its own is cut off where it first stands. -/
theorem cutAt?_first (own : last ∉ body) (absent : ¬ body ++ [last] <:+: content)
    (newestFirst rest : List Char) :
    cutAt? newestFirst (body ++ [last]) (content ++ (body ++ [last] ++ rest)) =
      some (newestFirst.reverse ++ content, rest) := by
  induction content generalizing newestFirst with
  | nil =>
      obtain ⟨first, others, mark⟩ := List.exists_cons_of_ne_nil
        (List.append_ne_nil_of_right_ne_nil body (List.cons_ne_nil last []))
      rw [List.nil_append, mark, List.cons_append, cutAt?, ← List.cons_append,
        if_pos (List.isPrefixOf_iff_prefix.2 (List.prefix_append _ _)), List.drop_left,
        List.append_nil]
  | cons character others inductionHypothesis =>
      have notHere := not_prefix_of_own own absent (List.cons_ne_nil character others) rest
      rw [List.cons_append, ← List.isPrefixOf_iff_prefix] at notHere
      rw [List.cons_append, cutAt?, if_neg notHere,
        inductionHypothesis fun inside => absent (inside.trans (List.suffix_cons _ _).isInfix)]
      simp

end Mark

/-- A remark is scanned as one token, whatever stands behind it. -/
theorem IsRemark.scan {remark : List Char} (isRemark : IsRemark remark) (rest : List Char) :
    Markup.scan (remark ++ rest) = .found .remark rest := by
  cases isRemark with
  | @comment content unended =>
      have cut : cutAt? [] ['-', '-', '>'] (content ++ (['-', '-', '>'] ++ rest)) =
          some (content, rest) := @cutAt?_first ['-', '-'] content '>' (by decide) unended [] rest
      calc Markup.scan _
          = scanDeclaration ('-' :: '-' :: (content ++ ['-', '-', '>'] ++ rest)) := rfl
        _ = .found .remark rest := by
          rw [scanDeclaration_comment, List.append_assoc, cut]
          rfl
  | @instruction content unended begun =>
      have cut : cutAt? [] ['?', '>'] (content ++ (['?', '>'] ++ rest)) = some (content, rest) :=
        @cutAt?_first ['?'] content '>' (by decide) unended [] rest
      have begunToo : (content ++ ['?', '>'] ++ rest).head? ≠ some '>' := by
        cases content with
        | nil => exact nofun
        | cons first others => exact begun
      calc Markup.scan _
          = scanMarkup ('?' :: (content ++ ['?', '>'] ++ rest)) := rfl
        _ = .found .remark rest := by
          rw [scanMarkup_instruction begunToo, List.append_assoc, cut]
          rfl

theorem IsRemark.exists_cons {remark : List Char} (isRemark : IsRemark remark) :
    ∃ tail, remark = '<' :: tail := by
  cases isRemark with
  | comment => exact ⟨_, rfl⟩
  | instruction => exact ⟨_, rfl⟩

/-- One more element stands in the innermost open one, or is the root. -/
def countChild : List Nat → List Nat
  | [] => []
  | count :: outer => (count + 1) :: outer

/-- How many elements each open element holds is counted from token to token, innermost first. -/
def countHeld (held : List Nat) : Token → List Nat
  | .opening _ => 0 :: held
  | .standalone _ => countChild held
  | .closing _ => countChild held.tail
  | _ => held

def heldCounts (tokens : List Token) : List Nat := tokens.foldl countHeld []

/-- Behind these tokens the root is open. -/
def IsInside (tokens : List Token) : Prop := heldCounts tokens ≠ []

/--
The way from the root to the innermost element that is open behind these tokens. Each step on it says how
many children stand before the next element.
-/
def openPath (tokens : List Token) : List Nat := (heldCounts tokens).tail.reverse

namespace Progress

/-- An element that is attached counts as one more child. -/
theorem childCounts_attach (element : Element) (outer : List OpenElement) :
    childCounts (attach element outer).enclosing = countChild (childCounts outer) := by
  cases outer with
  | nil => rfl
  | cons parent outer => rfl

/-- A token is counted as it is accepted. -/
theorem Step.childCounts_eq {progress next : Progress} {token : Token}
    (step : Step progress token next) :
    childCounts next.enclosing = countHeld (childCounts progress.enclosing) token := by
  cases step with
  | blankText => rfl
  | text => rfl
  | opening => rfl
  | standalone => exact childCounts_attach _ _
  | closing => exact childCounts_attach _ _
  | ignoredLiteral => rfl
  | literal => rfl
  | remark => rfl

/-- Tokens are accepted one after the other. -/
inductive Steps : Progress → List Token → Progress → Prop
  | nil {progress : Progress} : Steps progress [] progress
  | cons {progress next final : Progress} {token : Token} {tokens : List Token}
      (step : Step progress token next) (others : Steps next tokens final) :
      Steps progress (token :: tokens) final

namespace Steps

variable {progress final : Progress} {tokens : List Token}

/-- The tokens alone tell how many children each open element has. -/
theorem childCounts_eq (steps : Steps progress tokens final) :
    childCounts final.enclosing = tokens.foldl countHeld (childCounts progress.enclosing) := by
  induction steps with
  | nil => rfl
  | cons step _ inductionHypothesis =>
      rw [inductionHypothesis, step.childCounts_eq, List.foldl_cons]

/-- A document that fits still does behind more tokens. -/
theorem fits (steps : Steps progress tokens final) (fits : progress.Fits) : final.Fits := by
  induction steps with
  | nil => exact fits
  | cons step _ inductionHypothesis => exact inductionHypothesis (step.fits fits)

/-- What is accepted behind tokens is accepted with them. -/
theorem accepts {root : Element} {characters rest : List Char}
    (steps : Steps progress tokens final) (yields : Yields characters tokens rest)
    (accepts : Accepts root final rest) : Accepts root progress characters := by
  induction steps generalizing characters with
  | nil =>
      cases yields
      exact accepts
  | cons step _ inductionHypothesis =>
      cases yields with
      | cons scanned yields => exact .token scanned step (inductionHypothesis yields accepts)

/-- Where tokens lead from the beginning, open elements are those that are counted. -/
theorem exists_innermost (steps : Steps .start tokens final) (inside : IsInside tokens) :
    ∃ innermost outer, final = ⟨innermost :: outer, none⟩ ∧
      (childCounts outer).reverse = openPath tokens := by
  have counted : childCounts final.enclosing = heldCounts tokens := steps.childCounts_eq
  cases steps.fits (.opened trivial) with
  | closed => exact absurd counted.symm inside
  | @opened enclosing fit =>
      cases enclosing with
      | nil => exact absurd counted.symm inside
      | cons innermost outer => exact ⟨innermost, outer, rfl, by rw [openPath, ← counted]; rfl⟩

end Steps

end Progress

/-- The tokens of a document that is accepted are accepted up to every place between them. -/
theorem Accepts.exists_steps {root : Element} {progress : Progress} {characters rest : List Char}
    {tokens : List Token} (accepts : Accepts root progress characters)
    (yields : Yields characters tokens rest) :
    ∃ final, progress.Steps tokens final ∧ Accepts root final rest := by
  induction yields generalizing progress with
  | nil => exact ⟨progress, .nil, accepts⟩
  | cons scanned _ inductionHypothesis =>
      cases accepts with
      | finished ended =>
          rw [scanned] at ended
          cases ended
      | token found step accepts =>
          obtain ⟨rfl, rfl⟩ := Scan.found.inj (scanned.symm.trans found)
          obtain ⟨final, steps, goesOn⟩ := inductionHypothesis accepts
          exact ⟨final, .cons step steps, goesOn⟩

variable {read unread : List Char} {token : Token}

/-- What is found of a text is found before something else too, unless it is text that goes on. -/
theorem scan_append_of_found {left : List Char}
    (found : scan (read ++ unread) = .found token (left ++ unread))
    (bounded : token.IsMarkup ∨ left ≠ []) (other : List Char) :
    scan (read ++ other) = .found token (left ++ other) := by
  rcases scan_begins found with ⟨same, leaves, found⟩ | ⟨shorter, -⟩
  · obtain rfl := List.append_cancel_right leaves
    cases read with
    | nil => cases found
    | cons first others =>
        by_cases mark : first = '<'
        · subst mark
          exact scanMarkup_append found other
        · rw [scan_of_ne mark] at found
          obtain ⟨rfl, rfl⟩ := Scan.found.inj found
          have goesOn := bounded.resolve_left id
          have marked : '<' ∈ first :: others := by
            by_contra unmarked
            exact goesOn (List.dropWhile_eq_nil_iff.2 (bne_of_not_mem unmarked))
          obtain ⟨run, tail, whole, unmarked⟩ := List.eq_append_cons_of_mem marked
          have within := bne_of_not_mem unmarked
          have nonempty : run ≠ [] := by
            rintro rfl
            exact mark (List.cons.inj whole).1
          rw [whole, List.append_assoc, List.cons_append, scan_of_text nonempty unmarked,
            List.takeWhile_append_of_pos within, List.dropWhile_append_of_pos within]
          simp
  · rw [List.length_append] at shorter
    omega

namespace Yields

/-- Tokens take characters of a text from its beginning. -/
theorem exists_append {characters rest : List Char} {tokens : List Token}
    (yields : Yields characters tokens rest) : ∃ front, characters = front ++ rest := by
  induction yields with
  | nil => exact ⟨[], rfl⟩
  | cons scanned _ inductionHypothesis =>
      obtain ⟨front, rfl⟩ := inductionHypothesis
      obtain ⟨piece, rfl⟩ := exists_append_of_scan scanned
      exact ⟨piece ++ front, (List.append_assoc _ _ _).symm⟩

/-- Tokens take characters away. -/
theorem length_lt {characters rest : List Char} {tokens : List Token}
    (yields : Yields characters tokens rest) (nonempty : tokens ≠ []) :
    rest.length < characters.length := by
  cases yields with
  | nil => exact absurd rfl nonempty
  | cons scanned others => exact others.length_le.trans_lt (length_of_scan scanned)

/-- Up to the end of markup the tokens of a text do not depend on what stands behind. -/
theorem append_of_markup {earlier : List Token} {last : Token}
    (yields : Yields (read ++ unread) (earlier ++ [last]) unread) (markup : last.IsMarkup)
    (other : List Char) : Yields (read ++ other) (earlier ++ [last]) other := by
  induction earlier generalizing read with
  | nil =>
      rw [List.nil_append] at yields
      cases yields with
      | cons scanned others =>
          cases others
          exact .one (@scan_append_of_found read unread last [] scanned (.inl markup) other)
  | cons token earlier inductionHypothesis =>
      rw [List.cons_append] at yields
      cases yields with
      | cons scanned others =>
          obtain ⟨left, rfl⟩ := others.exists_append
          -- Another token follows, so that a run of text ends here and not behind what is read.
          have nonempty : left ≠ [] := by
            rintro rfl
            exact absurd (others.length_lt (by simp)) (lt_irrefl _)
          exact .cons (scan_append_of_found scanned (.inr nonempty) other)
            (inductionHypothesis others)

end Yields

/-- A run of text, which may be empty, stands in a document between two tokens of markup. -/
structure IsRun (document : String) (before : List Char) (tokens : List Token)
    (run behind : List Char) : Prop where
  whole : document.toList = before ++ (run ++ '<' :: behind)
  read : Yields (skipByteOrderMark document.toList) tokens (run ++ '<' :: behind)
  markup : ∃ last ∈ tokens.getLast?, last.IsMarkup
  unmarked : '<' ∉ run

/-- A document is read on from a run, whatever is put into the place of the run. -/
theorem IsRun.exists_progress {document : String} {before : List Char} {tokens : List Token}
    {run behind : List Char} {root : Element} (isRun : IsRun document before tokens run behind)
    (accepted : Element.parse document = .ok root) :
    ∃ progress, Progress.Steps .start tokens progress ∧
      Accepts root progress (run ++ '<' :: behind) ∧
      ∀ found unread, Accepts found progress unread →
        Element.parse (String.ofList (before ++ unread)) = .ok found := by
  obtain ⟨last, ends, markup⟩ := isRun.markup
  obtain ⟨earlier, rfl⟩ := List.getLast?_eq_some_iff.1 ends
  have yields := isRun.read
  obtain ⟨progress, steps, accepts⟩ := (readFrom_eq_ok_iff.1 accepted).exists_steps yields
  refine ⟨progress, steps, accepts, fun found unread goesOn => ?_⟩
  obtain ⟨front, split⟩ := yields.exists_append
  have nonempty : front ≠ [] := by
    rintro rfl
    have shorter := yields.length_lt (by simp)
    rw [split] at shorter
    exact absurd shorter (lt_irrefl _)
  obtain ⟨same, whole, skipped⟩ := exists_skipped_of_append nonempty split
  obtain rfl := List.append_cancel_right (isRun.whole.symm.trans whole)
  have read : skipByteOrderMark (before ++ unread) = front ++ unread := by
    rw [skipByteOrderMark_append, skipped]
    rintro rfl
    exact nonempty skipped.symm
  rw [Element.parse, String.toList_ofList, Element.read, read]
  exact readFrom_eq_ok_iff.2
    (steps.accepts ((split ▸ yields).append_of_markup markup unread) goesOn)

variable {innermost : OpenElement} {outer : List OpenElement} {root : Element}

/-- Text is accepted when its references are known, and joins what the innermost element holds. -/
theorem accepts_run_iff {run : List Char} (unmarked : '<' ∉ run) (behind : List Char) :
    Accepts root ⟨innermost :: outer, none⟩ (run ++ '<' :: behind) ↔
      ∃ characters, unescape? (strip isSpace run) = some characters ∧
        Accepts root ⟨innermost.hold [] characters :: outer, none⟩ ('<' :: behind) := by
  by_cases empty : run = []
  · subst empty
    have nothing : unescape? (strip isSpace []) = some [] := rfl
    simp only [nothing, List.nil_append, Option.some.injEq, exists_eq_left', OpenElement.hold_nil]
  have scanned := scan_of_text empty unmarked behind
  constructor
  · intro accepts
    cases accepts with
    | finished ended =>
        rw [scanned] at ended
        cases ended
    | token found step accepts =>
        obtain ⟨rfl, rfl⟩ := Scan.found.inj (scanned.symm.trans found)
        cases step with
        | @text _ _ _ _ characters meant => exact ⟨characters, meant, accepts⟩
  · rintro ⟨characters, meant, accepts⟩
    exact .token scanned (.text meant) accepts

end SignOn.Markup
