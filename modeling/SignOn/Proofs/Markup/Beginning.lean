import Mathlib.Data.List.Infix
import SignOn.Markup.Token
import SignOn.Proofs.Text.Blank

/-
This file shows what is scanned of a text when only its beginning is there.
-/

namespace SignOn.Markup

open SignOn.Text

/--
What is cut off a text is cut off a beginning that goes as far, and a beginning that ends before the
cut has none.
-/
def IsLocal (cut : List Char → Option (List Char × List Char)) : Prop :=
  ∀ read unread content rest, cut (read ++ unread) = some (content, rest) →
    (∃ left, rest = left ++ unread ∧ cut read = some (content, left)) ∨
      (rest.length < unread.length ∧ cut read = none)

/-- The end of a tag is found or missed in a beginning. -/
theorem isLocal_tagContent? (newestFirst : List Char) (quote : Option Char) :
    IsLocal (tagContent? newestFirst quote) := by
  intro read
  induction read generalizing newestFirst quote with
  | nil =>
      intro unread content rest cut
      exact Or.inr ⟨length_of_tagContent? cut, rfl⟩
  | cons character others inductionHypothesis =>
      intro unread content rest cut
      rw [List.cons_append] at cut
      unfold tagContent? at cut ⊢
      cases quote with
      | some mark => exact inductionHypothesis _ _ unread content rest cut
      | none =>
          by_cases closing : character = '>'
          · simp only [if_pos closing] at cut ⊢
            obtain ⟨rfl, rfl⟩ := Prod.mk.inj (Option.some.inj cut)
            exact Or.inl ⟨others, rfl, rfl⟩
          · simp only [if_neg closing] at cut ⊢
            exact inductionHypothesis _ _ unread content rest cut

/-- The end of a document type is found or missed in a beginning. -/
theorem isLocal_documentTypeContent? (newestFirst : List Char) (openMarks : Nat) :
    IsLocal (documentTypeContent? newestFirst openMarks) := by
  intro read
  induction read generalizing newestFirst openMarks with
  | nil =>
      intro unread content rest cut
      exact Or.inr ⟨length_of_documentTypeContent? cut, rfl⟩
  | cons character others inductionHypothesis =>
      intro unread content rest cut
      rw [List.cons_append] at cut
      unfold documentTypeContent? at cut ⊢
      by_cases closing : character = '>'
      · simp only [if_pos closing] at cut ⊢
        cases openMarks with
        | zero =>
            obtain ⟨rfl, rfl⟩ := Prod.mk.inj (Option.some.inj cut)
            exact Or.inl ⟨others, rfl, rfl⟩
        | succ openMarks => exact inductionHypothesis _ _ unread content rest cut
      · simp only [if_neg closing] at cut ⊢
        exact inductionHypothesis _ _ unread content rest cut

/-- A mark does not stand in a text that is shorter. -/
theorem cutAt?_of_short {mark characters : List Char} (short : characters.length < mark.length)
    (newestFirst : List Char) : cutAt? newestFirst mark characters = none := by
  induction characters generalizing newestFirst with
  | nil => rfl
  | cons character others inductionHypothesis =>
      have absent : ¬ mark.isPrefixOf (character :: others) = true := by
        intro present
        have := (List.isPrefixOf_iff_prefix.1 present).length_le
        omega
      rw [cutAt?, if_neg absent]
      exact inductionHypothesis (by rw [List.length_cons] at short; omega) _

/-- A mark is found or missed in a beginning. It may also begin there and go on behind it. -/
theorem isLocal_cutAt? {mark : List Char} (nonempty : mark ≠ []) (newestFirst : List Char) :
    IsLocal (cutAt? newestFirst mark) := by
  intro read
  induction read generalizing newestFirst with
  | nil =>
      intro unread content rest cut
      exact Or.inr ⟨length_of_cutAt? nonempty cut, rfl⟩
  | cons character others inductionHypothesis =>
      intro unread content rest cut
      rw [List.cons_append, cutAt?, ← List.cons_append] at cut
      by_cases here : mark.isPrefixOf (character :: others ++ unread) = true
      · rw [if_pos here] at cut
        obtain ⟨rfl, rfl⟩ := Prod.mk.inj (Option.some.inj cut)
        by_cases fits : mark.length ≤ (character :: others).length
        · have inside : mark.isPrefixOf (character :: others) = true :=
            List.isPrefixOf_iff_prefix.2 (List.prefix_of_prefix_length_le
              (List.isPrefixOf_iff_prefix.1 here) (List.prefix_append _ _) fits)
          refine Or.inl ⟨(character :: others).drop mark.length, ?_, ?_⟩
          · exact List.drop_append_of_le_length fits
          · rw [cutAt?, if_pos inside]
        · have goesOn := (List.isPrefixOf_iff_prefix.1 here).length_le
          refine Or.inr ⟨?_, cutAt?_of_short (Nat.not_le.1 fits) _⟩
          rw [List.length_append] at goesOn
          rw [List.length_drop, List.length_append]
          omega
      · have absent : ¬ mark.isPrefixOf (character :: others) = true := by
          intro present
          exact here (List.isPrefixOf_iff_prefix.2
            ((List.isPrefixOf_iff_prefix.1 present).trans (List.prefix_append _ _)))
        rw [if_neg here] at cut
        rw [cutAt?, if_neg absent]
        exact inductionHypothesis _ unread content rest cut

/-- The scan of a beginning stops before it comes to the end of any markup. -/
def Scan.IsCutShort : Scan → Prop
  | .finished => True
  | .broken => True
  | .found (.text _) rest => rest = []
  | .found _ _ => False

/-- A token in a text that goes on is found in the beginning too, unless the beginning ends first. -/
def Scan.Begins (scanned : Scan) (unread : List Char) (token : Token) (rest : List Char) : Prop :=
  (∃ left, rest = left ++ unread ∧ scanned = .found token left) ∨
    (rest.length < unread.length ∧ scanned.IsCutShort)

variable {read unread rest : List Char} {token : Token}

/-- A token that is found was made of what was cut off. -/
theorem exists_content_of_foundIf {cut : Option (List Char × List Char)}
    {toToken : List Char → Option Token} (found : foundIf cut toToken = .found token rest) :
    ∃ content, cut = some (content, rest) ∧ toToken content = some token := by
  unfold foundIf at found
  split at found
  · cases found
  · rename_i content remaining
    split at found
    · cases found
    · rename_i made
      obtain ⟨rfl, rfl⟩ := Scan.found.inj found
      exact ⟨content, rfl, made⟩

/-- What is cut off in a local way begins its token. -/
theorem foundIf_begins {cut : List Char → Option (List Char × List Char)}
    {toToken : List Char → Option Token} (isLocal : IsLocal cut)
    (found : foundIf (cut (read ++ unread)) toToken = .found token rest) :
    (foundIf (cut read) toToken).Begins unread token rest := by
  obtain ⟨content, whole, made⟩ := exists_content_of_foundIf found
  rcases isLocal read unread content rest whole with ⟨left, rfl, inside⟩ | ⟨short, none⟩
  · refine Or.inl ⟨left, rfl, ?_⟩
    simp only [foundIf, inside, made]
  · refine Or.inr ⟨short, ?_⟩
    simp only [foundIf, none, Scan.IsCutShort]

/-- A beginning goes beyond an opening mark or ends inside of it. -/
theorem beginning_of_mark (mark : List Char) {tail : List Char} (whole : read ++ unread = mark ++ tail) :
    (∃ others, read = mark ++ others ∧ tail = others ++ unread) ∨
      (read ∈ mark.inits ∧ read ≠ mark ∧ tail.length < unread.length) := by
  rcases List.append_eq_append_iff.1 whole with ⟨missing, rfl, rfl⟩ | ⟨others, rfl, rfl⟩
  · cases missing with
    | nil => exact Or.inl ⟨[], by simp, rfl⟩
    | cons first others =>
        refine Or.inr ⟨List.mem_inits _ _ |>.2 (List.prefix_append _ _), by simp, ?_⟩
        rw [List.length_append, List.length_cons]
        omega
  · exact Or.inl ⟨others, rfl, rfl⟩

/-- Declarations are scanned in beginnings too. -/
theorem scanDeclaration_begins (found : scanDeclaration (read ++ unread) = .found token rest) :
    (scanDeclaration read).Begins unread token rest := by
  generalize whole : read ++ unread = characters at found
  unfold scanDeclaration at found
  split at found
  case h_1 tail =>
    rcases beginning_of_mark ['-', '-'] whole with
      ⟨others, rfl, rfl⟩ | ⟨inside, differs, short⟩
    · exact foundIf_begins (isLocal_cutAt? (by simp) []) found
    · have broken : ∀ beginning ∈ ['-', '-'].inits, beginning ≠ ['-', '-'] →
          scanDeclaration beginning = .broken := by decide
      have shorter : rest.length < tail.length :=
        length_of_foundIf (fun _ _ cut => length_of_cutAt? (by simp) cut) found
      rw [broken read inside differs]
      exact Or.inr ⟨by omega, trivial⟩
  case h_2 tail =>
    rcases beginning_of_mark ['[', 'C', 'D', 'A', 'T', 'A', '['] whole with
      ⟨others, rfl, rfl⟩ | ⟨inside, differs, short⟩
    · exact foundIf_begins (isLocal_cutAt? (by simp) []) found
    · have broken : ∀ beginning ∈ ['[', 'C', 'D', 'A', 'T', 'A', '['].inits,
          beginning ≠ ['[', 'C', 'D', 'A', 'T', 'A', '['] →
          scanDeclaration beginning = .broken := by decide
      have shorter : rest.length < tail.length :=
        length_of_foundIf (fun _ _ cut => length_of_cutAt? (by simp) cut) found
      rw [broken read inside differs]
      exact Or.inr ⟨by omega, trivial⟩
  case h_3 notComment notLiteral =>
    subst whole
    unfold scanDeclaration
    split
    case h_1 others => exact absurd rfl (notComment (others ++ unread))
    case h_2 others => exact absurd rfl (notLiteral (others ++ unread))
    case h_3 => exact foundIf_begins (isLocal_documentTypeContent? [] 0) found

theorem scanDeclaration_comment (others : List Char) :
    scanDeclaration ('-' :: '-' :: others) =
      foundIf (cutAt? [] ['-', '-', '>'] others) fun _ => some .remark := rfl

theorem scanDeclaration_literal (others : List Char) :
    scanDeclaration ('[' :: 'C' :: 'D' :: 'A' :: 'T' :: 'A' :: '[' :: others) =
      foundIf (cutAt? [] [']', ']', '>'] others) fun content => some (.literal content) := rfl

theorem scanMarkup_closing (others : List Char) :
    scanMarkup ('/' :: others) =
      foundIf (tagContent? [] none others) fun content => some (.closing content) := rfl

/-- An instruction does not end with the mark that begins it. -/
theorem scanMarkup_instruction {others : List Char} (begun : others.head? ≠ some '>') :
    scanMarkup ('?' :: others) = foundIf (cutAt? [] ['?', '>'] others) fun _ => some .remark := by
  cases others with
  | nil => rfl
  | cons second others =>
      have different : second ≠ '>' := fun same => begun (by rw [same, List.head?_cons])
      unfold scanMarkup
      split
      case h_3 closed =>
        obtain ⟨same, -⟩ := List.cons.inj (List.cons.inj closed).2
        exact absurd same different
      case h_4 begun =>
        obtain ⟨-, rfl⟩ := List.cons.inj begun
        rfl
      case h_1 slash => simp at slash
      case h_2 mark => simp at mark
      case h_5 notInstruction => exact absurd rfl (notInstruction _)

theorem scanMarkup_tag {first : Char} (tag : first ∉ ['/', '!', '?']) (others : List Char) :
    scanMarkup (first :: others) =
      foundIf (tagContent? [] none (first :: others)) fun content => some (startToken content) := by
  simp only [List.mem_cons, List.not_mem_nil, or_false, not_or] at tag
  unfold scanMarkup
  split
  case h_1 slash => exact absurd (List.cons.inj slash).1 tag.1
  case h_2 mark => exact absurd (List.cons.inj mark).1 tag.2.1
  case h_3 question => exact absurd (List.cons.inj question).1 tag.2.2
  case h_4 question => exact absurd (List.cons.inj question).1 tag.2.2
  case h_5 => rfl

/-- Markup is scanned in beginnings too. -/
theorem scanMarkup_begins (found : scanMarkup (read ++ unread) = .found token rest) :
    (scanMarkup read).Begins unread token rest := by
  cases read with
  | nil => exact Or.inr ⟨length_of_scanMarkup found, trivial⟩
  | cons first others =>
      rw [List.cons_append] at found
      by_cases slash : first = '/'
      · subst slash
        rw [scanMarkup_closing] at found ⊢
        exact foundIf_begins (isLocal_tagContent? [] none) found
      by_cases mark : first = '!'
      · subst mark
        exact scanDeclaration_begins found
      by_cases question : first = '?'
      · subst question
        have begun : (others ++ unread).head? ≠ some '>' := by
          intro closed
          obtain ⟨tail, whole⟩ := List.head?_eq_some_iff.1 closed
          rw [whole] at found
          cases found
        have begunToo : others.head? ≠ some '>' := by
          intro closed
          exact begun (by rw [List.head?_append, closed, Option.some_or])
        rw [scanMarkup_instruction begun] at found
        rw [scanMarkup_instruction begunToo]
        exact foundIf_begins (isLocal_cutAt? (by simp) []) found
      · have tag : first ∉ ['/', '!', '?'] := by simp [slash, mark, question]
        rw [scanMarkup_tag tag] at found ⊢
        exact foundIf_begins (isLocal_tagContent? [] none) found

/-- A text goes on to the next mark that opens, and loses the spaces around it. -/
theorem scan_of_ne {first : Char} (text : first ≠ '<') (others : List Char) :
    scan (first :: others) =
      .found (.text (strip isSpace ((first :: others).takeWhile (· != '<'))))
        ((first :: others).dropWhile (· != '<')) := by
  unfold scan
  split
  case h_1 none => cases none
  case h_2 mark => exact absurd (List.cons.inj mark).1 text
  case h_3 => rfl

/-- What is scanned of a text is scanned of its beginning too, unless the beginning ends first. -/
theorem scan_begins (found : scan (read ++ unread) = .found token rest) :
    (scan read).Begins unread token rest := by
  cases read with
  | nil => exact Or.inr ⟨length_of_scan found, trivial⟩
  | cons first others =>
      by_cases mark : first = '<'
      · subst mark
        exact scanMarkup_begins found
      rw [List.cons_append, scan_of_ne mark, ← List.cons_append] at found
      rw [scan_of_ne mark]
      generalize first :: others = read at found ⊢
      obtain ⟨rfl, rfl⟩ := Scan.found.inj found
      by_cases marked : '<' ∈ read
      · obtain ⟨run, tail, rfl, unmarked⟩ := List.eq_append_cons_of_mem marked
        have within := bne_of_not_mem unmarked
        rw [List.append_assoc, List.dropWhile_append_of_pos within,
          List.dropWhile_append_of_pos within, List.takeWhile_append_of_pos within,
          List.takeWhile_append_of_pos within]
        exact Or.inl ⟨'<' :: tail, by simp, by simp⟩
      · have within := bne_of_not_mem marked
        rw [List.dropWhile_append_of_pos within, List.takeWhile_append_of_pos within,
          List.dropWhile_eq_nil_iff.2 within, List.takeWhile_eq_self_iff.2 within]
        cases unread with
        | nil => exact Or.inl ⟨[], rfl, by simp⟩
        | cons next following =>
            by_cases ends : next = '<'
            · subst ends
              exact Or.inl ⟨[], by simp, by simp⟩
            · have shorter := (List.dropWhile_suffix (l := following) (· != '<')).length_le
              refine Or.inr ⟨?_, rfl⟩
              rw [List.dropWhile_cons_of_pos (by simpa using ends), List.length_cons]
              omega

/-- The content of a tag goes on to its closing mark. -/
theorem tagContent?_ends {newestFirst characters content : List Char} {quote : Option Char}
    (cut : tagContent? newestFirst quote characters = some (content, rest)) :
    ∃ before, characters = before ++ '>' :: rest := by
  induction characters generalizing newestFirst quote with
  | nil => cases cut
  | cons character others inductionHypothesis =>
      have goesOn {newestFirst : List Char} {quote : Option Char}
          (cut : tagContent? newestFirst quote others = some (content, rest)) :
          ∃ before, character :: others = before ++ '>' :: rest := by
        obtain ⟨before, rfl⟩ := inductionHypothesis cut
        exact ⟨character :: before, rfl⟩
      unfold tagContent? at cut
      cases quote with
      | some mark => exact goesOn cut
      | none =>
          by_cases closing : character = '>'
          · simp only [if_pos closing] at cut
            obtain ⟨-, rfl⟩ := Prod.mk.inj (Option.some.inj cut)
            exact ⟨[], by rw [closing, List.nil_append]⟩
          · simp only [if_neg closing] at cut
            exact goesOn cut

/-- A document type ends in a closing mark. -/
theorem documentTypeContent?_ends {newestFirst characters content : List Char} {openMarks : Nat}
    (cut : documentTypeContent? newestFirst openMarks characters = some (content, rest)) :
    ∃ before, characters = before ++ '>' :: rest := by
  induction characters generalizing newestFirst openMarks with
  | nil => cases cut
  | cons character others inductionHypothesis =>
      have goesOn {newestFirst : List Char} {openMarks : Nat}
          (cut : documentTypeContent? newestFirst openMarks others = some (content, rest)) :
          ∃ before, character :: others = before ++ '>' :: rest := by
        obtain ⟨before, rfl⟩ := inductionHypothesis cut
        exact ⟨character :: before, rfl⟩
      unfold documentTypeContent? at cut
      by_cases closing : character = '>'
      · simp only [if_pos closing] at cut
        cases openMarks with
        | zero =>
            obtain ⟨-, rfl⟩ := Prod.mk.inj (Option.some.inj cut)
            exact ⟨[], by rw [closing, List.nil_append]⟩
        | succ openMarks => exact goesOn cut
      · simp only [if_neg closing] at cut
        exact goesOn cut

/-- What is cut at a mark ends in it. -/
theorem cutAt?_ends {newestFirst mark characters content : List Char}
    (cut : cutAt? newestFirst mark characters = some (content, rest)) :
    ∃ before, characters = before ++ mark ++ rest := by
  induction characters generalizing newestFirst with
  | nil => cases cut
  | cons character others inductionHypothesis =>
      rw [cutAt?] at cut
      by_cases here : mark.isPrefixOf (character :: others) = true
      · rw [if_pos here] at cut
        obtain ⟨-, rfl⟩ := Prod.mk.inj (Option.some.inj cut)
        obtain ⟨tail, whole⟩ := List.isPrefixOf_iff_prefix.1 here
        exact ⟨[], by rw [← whole, List.drop_left, List.nil_append]⟩
      · rw [if_neg here] at cut
        obtain ⟨before, rfl⟩ := inductionHypothesis cut
        exact ⟨character :: before, rfl⟩

/-- A declaration ends in a closing mark. -/
theorem scanDeclaration_ends {characters : List Char}
    (found : scanDeclaration characters = .found token rest) :
    ∃ before, characters = before ++ '>' :: rest := by
  unfold scanDeclaration at found
  split at found
  case h_1 tail =>
    obtain ⟨content, cut, -⟩ := exists_content_of_foundIf found
    obtain ⟨before, rfl⟩ := cutAt?_ends cut
    exact ⟨'-' :: '-' :: before ++ ['-', '-'], by simp⟩
  case h_2 tail =>
    obtain ⟨content, cut, -⟩ := exists_content_of_foundIf found
    obtain ⟨before, rfl⟩ := cutAt?_ends cut
    exact ⟨['[', 'C', 'D', 'A', 'T', 'A', '['] ++ before ++ [']', ']'], by simp⟩
  case h_3 =>
    obtain ⟨content, cut, -⟩ := exists_content_of_foundIf found
    exact documentTypeContent?_ends cut

/-- Every markup ends in a closing mark. -/
theorem scanMarkup_ends {characters : List Char}
    (found : scanMarkup characters = .found token rest) :
    ∃ before, characters = before ++ '>' :: rest := by
  unfold scanMarkup at found
  split at found
  case h_1 tail =>
    obtain ⟨content, cut, -⟩ := exists_content_of_foundIf found
    obtain ⟨before, rfl⟩ := tagContent?_ends cut
    exact ⟨'/' :: before, rfl⟩
  case h_2 tail =>
    obtain ⟨before, rfl⟩ := scanDeclaration_ends found
    exact ⟨'!' :: before, rfl⟩
  case h_3 => cases found
  case h_4 tail _ =>
    obtain ⟨content, cut, -⟩ := exists_content_of_foundIf found
    obtain ⟨before, rfl⟩ := cutAt?_ends cut
    exact ⟨'?' :: before ++ ['?'], by simp⟩
  case h_5 =>
    obtain ⟨content, cut, -⟩ := exists_content_of_foundIf found
    exact tagContent?_ends cut

/-- A text is cut behind a run of text or behind a closing mark. -/
theorem scan_ends {characters : List Char} (found : scan characters = .found token rest) :
    (∃ written before, token = .text written ∧ characters = before ++ rest) ∨
      ∃ before, characters = before ++ '>' :: rest := by
  unfold scan at found
  split at found
  case h_1 => cases found
  case h_2 tail =>
    obtain ⟨before, rfl⟩ := scanMarkup_ends found
    exact Or.inr ⟨'<' :: before, rfl⟩
  case h_3 =>
    obtain ⟨rfl, rfl⟩ := Scan.found.inj found
    exact Or.inl ⟨_, characters.takeWhile (· != '<'), rfl, List.takeWhile_append_dropWhile.symm⟩

/-- A token takes characters from the beginning of a text. -/
theorem exists_append_of_scan {characters : List Char}
    (found : scan characters = .found token rest) : ∃ front, characters = front ++ rest := by
  rcases scan_ends found with ⟨-, front, -, whole⟩ | ⟨front, whole⟩
  · exact ⟨front, whole⟩
  · exact ⟨front ++ ['>'], by simp [whole]⟩

end SignOn.Markup
