import SignOn.Proofs.Markup.Beginning
import SignOn.Proofs.Markup.Progress

/-
This file shows that a document that goes on is read as far as before in the same way.
-/

namespace SignOn.Markup

open SignOn.Text

/-- What is cut off a text is cut off every text that goes on behind it. -/
def IsStable (cut : List Char → Option (List Char × List Char)) : Prop :=
  ∀ read content left, cut read = some (content, left) →
    ∀ unread, cut (read ++ unread) = some (content, left ++ unread)

/-- The end of a tag stays where it is. -/
theorem isStable_tagContent? (newestFirst : List Char) (quote : Option Char) :
    IsStable (tagContent? newestFirst quote) := by
  intro read
  induction read generalizing newestFirst quote with
  | nil =>
      intro content left cut
      cases cut
  | cons character others inductionHypothesis =>
      intro content left cut unread
      rw [List.cons_append]
      unfold tagContent? at cut ⊢
      cases quote with
      | some mark => exact inductionHypothesis _ _ content left cut unread
      | none =>
          by_cases closing : character = '>'
          · simp only [if_pos closing] at cut ⊢
            obtain ⟨rfl, rfl⟩ := Prod.mk.inj (Option.some.inj cut)
            rfl
          · simp only [if_neg closing] at cut ⊢
            exact inductionHypothesis _ _ content left cut unread

/-- The end of a document type stays where it is. -/
theorem isStable_documentTypeContent? (newestFirst : List Char) (openMarks : Nat) :
    IsStable (documentTypeContent? newestFirst openMarks) := by
  intro read
  induction read generalizing newestFirst openMarks with
  | nil =>
      intro content left cut
      cases cut
  | cons character others inductionHypothesis =>
      intro content left cut unread
      rw [List.cons_append]
      unfold documentTypeContent? at cut ⊢
      by_cases closing : character = '>'
      · simp only [if_pos closing] at cut ⊢
        cases openMarks with
        | zero =>
            obtain ⟨rfl, rfl⟩ := Prod.mk.inj (Option.some.inj cut)
            rfl
        | succ openMarks => exact inductionHypothesis _ _ content left cut unread
      · simp only [if_neg closing] at cut ⊢
        exact inductionHypothesis _ _ content left cut unread

/-- The first mark stays where it is. -/
theorem isStable_cutAt? (newestFirst mark : List Char) : IsStable (cutAt? newestFirst mark) := by
  intro read
  induction read generalizing newestFirst with
  | nil =>
      intro content left cut
      cases cut
  | cons character others inductionHypothesis =>
      intro content left cut unread
      rw [List.cons_append, cutAt?, ← List.cons_append]
      rw [cutAt?] at cut
      by_cases here : mark.isPrefixOf (character :: others) = true
      · rw [if_pos here] at cut
        obtain ⟨rfl, rfl⟩ := Prod.mk.inj (Option.some.inj cut)
        have isPrefix := List.isPrefixOf_iff_prefix.1 here
        have still : mark.isPrefixOf (character :: others ++ unread) = true :=
          List.isPrefixOf_iff_prefix.2 (isPrefix.trans (List.prefix_append _ _))
        rw [if_pos still, List.drop_append_of_le_length isPrefix.length_le]
      · rw [if_neg here] at cut
        -- A mark that only comes up with what is unread is longer than what was read.
        have absent : ¬ mark.isPrefixOf (character :: others ++ unread) = true := by
          intro present
          have longer : (character :: others).length < mark.length := by
            by_contra fits
            exact here (List.isPrefixOf_iff_prefix.2 (List.prefix_of_prefix_length_le
              (List.isPrefixOf_iff_prefix.1 present) (List.prefix_append _ _) (Nat.not_lt.1 fits)))
          rw [cutAt?_of_short (by rw [List.length_cons] at longer; omega)] at cut
          cases cut
        rw [if_neg absent]
        exact inductionHypothesis _ content left cut unread

variable {read left : List Char} {token : Token}

/-- A token that is cut off in a stable way stays the same. -/
theorem foundIf_append {cut : List Char → Option (List Char × List Char)}
    {toToken : List Char → Option Token} (isStable : IsStable cut)
    (found : foundIf (cut read) toToken = .found token left) (unread : List Char) :
    foundIf (cut (read ++ unread)) toToken = .found token (left ++ unread) := by
  obtain ⟨content, cutOff, made⟩ := exists_content_of_foundIf found
  simp only [foundIf, isStable read content left cutOff unread, made]

/-- A declaration stays the same, whatever is read behind it. -/
theorem scanDeclaration_append (found : scanDeclaration read = .found token left)
    (unread : List Char) : scanDeclaration (read ++ unread) = .found token (left ++ unread) := by
  have goesOn (mark : List Char) {tail : List Char} (whole : read ++ unread = mark ++ tail)
      (broken : ∀ beginning ∈ mark.inits, beginning ≠ mark →
        scanDeclaration beginning = .broken) : ∃ others, read = mark ++ others := by
    rcases beginning_of_mark mark whole with ⟨others, rfl, -⟩ | ⟨inside, differs, -⟩
    · exact ⟨others, rfl⟩
    · rw [broken read inside differs] at found
      cases found
  generalize whole : read ++ unread = characters
  unfold scanDeclaration
  split
  case h_1 tail =>
    obtain ⟨others, rfl⟩ := goesOn ['-', '-'] whole (by decide)
    obtain rfl : others ++ unread = tail := by simpa using whole
    have found := (scanDeclaration_comment others).symm.trans found
    exact foundIf_append (isStable_cutAt? [] ['-', '-', '>']) found unread
  case h_2 tail =>
    obtain ⟨others, rfl⟩ :=
      goesOn ['[', 'C', 'D', 'A', 'T', 'A', '['] whole (by decide)
    obtain rfl : others ++ unread = tail := by simpa using whole
    have found := (scanDeclaration_literal others).symm.trans found
    exact foundIf_append (isStable_cutAt? [] [']', ']', '>']) found unread
  case h_3 notComment notLiteral =>
    subst whole
    unfold scanDeclaration at found
    split at found
    case h_1 others => exact absurd rfl (notComment (others ++ unread))
    case h_2 others => exact absurd rfl (notLiteral (others ++ unread))
    case h_3 => exact foundIf_append (isStable_documentTypeContent? [] 0) found unread

/-- Markup stays the same, whatever is read behind it. -/
theorem scanMarkup_append (found : scanMarkup read = .found token left) (unread : List Char) :
    scanMarkup (read ++ unread) = .found token (left ++ unread) := by
  cases read with
  | nil => cases found
  | cons first others =>
      rw [List.cons_append]
      by_cases slash : first = '/'
      · subst slash
        rw [scanMarkup_closing] at found ⊢
        exact foundIf_append (isStable_tagContent? [] none) found unread
      by_cases mark : first = '!'
      · subst mark
        exact scanDeclaration_append found unread
      by_cases question : first = '?'
      · subst question
        cases others with
        | nil => cases found
        | cons next following =>
            have begun : next ≠ '>' := by
              rintro rfl
              cases found
            rw [scanMarkup_instruction (by simpa using begun)] at found ⊢
            exact foundIf_append (isStable_cutAt? [] ['?', '>']) found unread
      · have tag : first ∉ ['/', '!', '?'] := by simp [slash, mark, question]
        rw [scanMarkup_tag tag] at found ⊢
        exact foundIf_append (isStable_tagContent? [] none) found unread

/-- A token is found again in a text that goes on with an opening mark. -/
theorem scan_append (found : scan read = .found token left) (unread : List Char) :
    scan (read ++ '<' :: unread) = .found token (left ++ '<' :: unread) := by
  cases read with
  | nil => cases found
  | cons first others =>
      by_cases mark : first = '<'
      · subst mark
        exact scanMarkup_append found ('<' :: unread)
      rw [scan_of_ne mark] at found
      rw [List.cons_append, scan_of_ne mark, ← List.cons_append]
      generalize first :: others = read at found ⊢
      obtain ⟨rfl, rfl⟩ := Scan.found.inj found
      by_cases marked : '<' ∈ read
      · obtain ⟨run, tail, rfl, unmarked⟩ := List.eq_append_cons_of_mem marked
        have within := bne_of_not_mem unmarked
        rw [List.append_assoc]
        simp only [List.dropWhile_append_of_pos within, List.takeWhile_append_of_pos within]
        simp
      · have within := bne_of_not_mem marked
        rw [List.dropWhile_append_of_pos within, List.takeWhile_append_of_pos within,
          List.dropWhile_eq_nil_iff.2 within, List.takeWhile_eq_self_iff.2 within]
        simp

/-- Every token of a text is accepted, and the text ends behind the last one. -/
inductive ReadsTo : Progress → List Char → Progress → Prop
  | done {progress : Progress} : ReadsTo progress [] progress
  | token {progress next final : Progress} {token : Token} {read left : List Char}
      (scanned : scan read = .found token left) (stepped : progress.step token = .ok next)
      (rest : ReadsTo next left final) : ReadsTo progress read final

/-- What goes on with an opening mark is read from where its beginning leads to. -/
theorem ReadsTo.readFrom_append {progress final : Progress} {read : List Char}
    (readsTo : ReadsTo progress read final) (unread : List Char) :
    readFrom progress (read ++ '<' :: unread) = readFrom final ('<' :: unread) := by
  induction readsTo with
  | done => rfl
  | token scanned stepped _ inductionHypothesis =>
      rw [readFrom_of_scan (scan_append scanned unread) stepped, inductionHypothesis]

/-- The beginning of a document that ends behind a token is read as far as the document is. -/
theorem ReadsTo.token_of_append {progress next final : Progress} {token : Token}
    {characters read unread : List Char}
    (scanned : scan characters = .found token (read ++ unread))
    (stepped : progress.step token = .ok next) (rest : ReadsTo next read final) :
    ∃ before, characters = before ++ unread ∧ ReadsTo progress before final := by
  obtain ⟨piece, rfl⟩ := exists_append_of_scan scanned
  rw [← List.append_assoc] at scanned
  rcases scan_begins scanned with ⟨left, same, found⟩ | ⟨shorter, -⟩
  · obtain rfl := List.append_cancel_right same
    exact ⟨piece ++ read, (List.append_assoc _ _ _).symm, .token found stepped rest⟩
  · rw [List.length_append] at shorter
    omega

end SignOn.Markup
