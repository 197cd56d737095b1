import SignOn.Text.Blank

/-
This file cuts a document into tokens, one at a time from the left.
-/

namespace SignOn.Markup

open SignOn.Text

/-- Between tokens and around text these four characters do not count. -/
def isSpace (character : Char) : Bool :=
  character == ' ' || character == '\t' || character == '\r' || character == '\n'

/-- A token keeps the characters between its marks. -/
inductive Token
  /-- A run of text, without spaces at its ends and with its references. -/
  | text (written : List Char)
  /-- A tag that opens an element. -/
  | opening (content : List Char)
  /-- A tag that is an element without content. -/
  | standalone (content : List Char)
  /-- A tag that closes an element. -/
  | closing (content : List Char)
  /-- Text in which nothing has a meaning. -/
  | literal (characters : List Char)
  /-- A comment, a processing instruction, a declaration or a document type. -/
  | remark
  deriving DecidableEq, Repr

/-- The document ends, breaks off inside a token, or continues behind one. -/
inductive Scan
  | finished
  | broken
  | found (token : Token) (rest : List Char)
  deriving DecidableEq, Repr

/-- A tag ends at the first closing mark outside quotes. -/
def tagContent? (newestFirst : List Char) (quote : Option Char) :
    List Char → Option (List Char × List Char)
  | [] => none
  | character :: rest =>
    match quote with
    | some mark =>
      tagContent? (character :: newestFirst) (if character = mark then none else some mark) rest
    | none =>
      if character = '>' then some (newestFirst.reverse, rest)
      else
        tagContent? (character :: newestFirst)
          (if character = '"' ∨ character = '\'' then some character else none) rest

/-- A list is cut where a mark stands for the first time, which neither half keeps. -/
def cutAt? (newestFirst mark : List Char) : List Char → Option (List Char × List Char)
  | [] => none
  | character :: rest =>
    if mark.isPrefixOf (character :: rest) then
      some (newestFirst.reverse, (character :: rest).drop mark.length)
    else cutAt? (character :: newestFirst) mark rest

/-- Marks inside a document type come in pairs, and it ends at the first one without a partner. -/
def documentTypeContent? (newestFirst : List Char) (openMarks : Nat) :
    List Char → Option (List Char × List Char)
  | [] => none
  | character :: rest =>
    if character = '>' then
      match openMarks with
      | 0 => some (newestFirst.reverse, rest)
      | openMarks + 1 => documentTypeContent? (character :: newestFirst) openMarks rest
    else
      documentTypeContent? (character :: newestFirst)
        (if character = '<' then openMarks + 1 else openMarks) rest

/-- A document type says so in any case and names something. -/
def isDocumentType (content : List Char) : Bool :=
  lowerAscii (content.take 7) == ['d', 'o', 'c', 't', 'y', 'p', 'e'] &&
    (content.drop 7).any fun character => !isSpace character

/-- A part of the document that is found under a condition is a token. -/
def foundIf (cut : Option (List Char × List Char)) (token : List Char → Option Token) : Scan :=
  match cut with
  | none => .broken
  | some (content, rest) =>
    match token content with
    | none => .broken
    | some token => .found token rest

/-- Behind an exclamation mark stands a comment, literal text or a document type. -/
def scanDeclaration : List Char → Scan
  | '-' :: '-' :: rest => foundIf (cutAt? [] ['-', '-', '>'] rest) fun _ => some .remark
  | '[' :: 'C' :: 'D' :: 'A' :: 'T' :: 'A' :: '[' :: rest =>
    foundIf (cutAt? [] [']', ']', '>'] rest) fun content => some (.literal content)
  | characters =>
    foundIf (documentTypeContent? [] 0 characters) fun content =>
      if isDocumentType content then some .remark else none

/-- A slash at the end of a tag says that the element has no content. -/
def startToken (content : List Char) : Token :=
  if content.getLast? = some '/' then .standalone content.dropLast else .opening content

/-- The character behind an opening mark tells what it opens. -/
def scanMarkup : List Char → Scan
  | '/' :: rest => foundIf (tagContent? [] none rest) fun content => some (.closing content)
  | '!' :: rest => scanDeclaration rest
  | '?' :: '>' :: _ => .broken
  | '?' :: rest => foundIf (cutAt? [] ['?', '>'] rest) fun _ => some .remark
  | characters => foundIf (tagContent? [] none characters) fun content => some (startToken content)

/-- A run of text goes on to the next opening mark. -/
def scan : List Char → Scan
  | [] => .finished
  | '<' :: rest => scanMarkup rest
  | characters =>
    .found (.text (strip isSpace (characters.takeWhile (· != '<'))))
      (characters.dropWhile (· != '<'))

theorem length_of_tagContent? {newestFirst characters content rest : List Char}
    {quote : Option Char} (cut : tagContent? newestFirst quote characters = some (content, rest)) :
    rest.length < characters.length := by
  induction characters generalizing newestFirst quote with
  | nil => simp [tagContent?] at cut
  | cons character tail inductionHypothesis =>
      unfold tagContent? at cut
      split at cut
      · have := inductionHypothesis cut
        simp
        omega
      · split at cut
        · obtain ⟨-, rfl⟩ := Prod.mk.inj (Option.some.inj cut)
          simp
        · have := inductionHypothesis cut
          simp
          omega

theorem length_of_cutAt? {newestFirst mark characters content rest : List Char}
    (nonempty : mark ≠ []) (cut : cutAt? newestFirst mark characters = some (content, rest)) :
    rest.length < characters.length := by
  induction characters generalizing newestFirst with
  | nil => simp [cutAt?] at cut
  | cons character tail inductionHypothesis =>
      unfold cutAt? at cut
      split at cut
      · obtain ⟨-, rfl⟩ := Prod.mk.inj (Option.some.inj cut)
        have := List.length_pos_iff.2 nonempty
        rw [List.length_drop]
        simp
        omega
      · have := inductionHypothesis cut
        simp
        omega

theorem length_of_documentTypeContent? {newestFirst characters content rest : List Char}
    {openMarks : Nat}
    (cut : documentTypeContent? newestFirst openMarks characters = some (content, rest)) :
    rest.length < characters.length := by
  induction characters generalizing newestFirst openMarks with
  | nil => simp [documentTypeContent?] at cut
  | cons character tail inductionHypothesis =>
      unfold documentTypeContent? at cut
      split at cut
      · split at cut
        · obtain ⟨-, rfl⟩ := Prod.mk.inj (Option.some.inj cut)
          simp
        · have := inductionHypothesis cut
          simp
          omega
      · have := inductionHypothesis cut
        simp
        omega

theorem length_of_foundIf {cut : Option (List Char × List Char)}
    {toToken : List Char → Option Token} {token : Token} {rest : List Char} {bound : Nat}
    (shorter : ∀ content rest, cut = some (content, rest) → rest.length < bound)
    (found : foundIf cut toToken = .found token rest) : rest.length < bound := by
  unfold foundIf at found
  split at found
  · simp at found
  · rename_i content remaining
    split at found
    · simp at found
    · obtain ⟨-, rfl⟩ := Scan.found.inj found
      exact shorter content remaining rfl

theorem length_of_scanDeclaration {characters rest : List Char} {token : Token}
    (found : scanDeclaration characters = .found token rest) :
    rest.length < characters.length := by
  unfold scanDeclaration at found
  split at found
  · refine length_of_foundIf (fun content remaining cut => ?_) found
    have := length_of_cutAt? (by simp) cut
    simp
    omega
  · refine length_of_foundIf (fun content remaining cut => ?_) found
    have := length_of_cutAt? (by simp) cut
    simp
    omega
  · exact length_of_foundIf (fun content remaining cut => length_of_documentTypeContent? cut) found

theorem length_of_scanMarkup {characters rest : List Char} {token : Token}
    (found : scanMarkup characters = .found token rest) :
    rest.length < characters.length := by
  unfold scanMarkup at found
  split at found
  · refine length_of_foundIf (fun content remaining cut => ?_) found
    have := length_of_tagContent? cut
    simp
    omega
  · have := length_of_scanDeclaration found
    simp
    omega
  · simp at found
  · refine length_of_foundIf (fun content remaining cut => ?_) found
    have := length_of_cutAt? (by simp) cut
    simp
    omega
  · exact length_of_foundIf (fun content remaining cut => length_of_tagContent? cut) found

/-- A token takes characters of the document with it. -/
theorem length_of_scan {characters rest : List Char} {token : Token}
    (found : scan characters = .found token rest) : rest.length < characters.length := by
  unfold scan at found
  split at found
  · simp at found
  · have := length_of_scanMarkup found
    simp
    omega
  · rename_i notEmpty notMarkup
    obtain ⟨-, rfl⟩ := Scan.found.inj found
    cases characters with
    | nil => exact absurd rfl notEmpty
    | cons character tail =>
        have different : character ≠ '<' := fun equal => notMarkup tail (by rw [equal])
        have shorter := (List.dropWhile_suffix (l := tail) (· != '<')).length_le
        simp [different]
        omega

end SignOn.Markup
