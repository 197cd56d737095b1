import SignOn.Proofs.Markup.Difference
import SignOn.Proofs.Markup.Insertion

/-
This file shows that spaces, comments and instructions between markup and text do not change what is read
from a document, except for spaces in the one text that is split.
-/

namespace SignOn.Markup

open SignOn.Text

variable {innermost : OpenElement} {outer : List OpenElement} {root found : Element}

/-- Runs that are stripped to the same text are read alike. -/
theorem accepts_run_congr {first second : List Char} (unmarked : '<' ∉ first)
    (unmarkedToo : '<' ∉ second) (same : strip isSpace first = strip isSpace second)
    (behind : List Char) :
    Accepts root ⟨innermost :: outer, none⟩ (first ++ '<' :: behind) ↔
      Accepts root ⟨innermost :: outer, none⟩ (second ++ '<' :: behind) := by
  rw [accepts_run_iff unmarked, accepts_run_iff unmarkedToo, same]

theorem not_mem_of_spaces {spaces : List Char}
    (blank : ∀ character ∈ spaces, isSpace character = true) : '<' ∉ spaces :=
  fun member => absurd (blank '<' member) (by decide)

/-- Spaces at either end of a run are not read. -/
theorem Accepts.pad {run behind spaces : List Char}
    (accepts : Accepts root ⟨innermost :: outer, none⟩ (run ++ '<' :: behind))
    (unmarked : '<' ∉ run) (blank : ∀ character ∈ spaces, isSpace character = true) :
    Accepts root ⟨innermost :: outer, none⟩ (spaces ++ run ++ '<' :: behind) ∧
      Accepts root ⟨innermost :: outer, none⟩ (run ++ spaces ++ '<' :: behind) := by
  have none := not_mem_of_spaces blank
  constructor
  · refine (accepts_run_congr unmarked ?_ ?_ behind).1 accepts
    · simp [none, unmarked]
    · exact (strip_append_of_all_left blank run).symm
  · refine (accepts_run_congr unmarked ?_ ?_ behind).1 accepts
    · simp [none, unmarked]
    · exact (strip_append_of_all_right blank run).symm

/-- A remark is passed over. -/
theorem Accepts.behind_remark {progress : Progress} {rest remark : List Char}
    (accepts : Accepts root progress rest) (isRemark : IsRemark remark) :
    Accepts root progress (remark ++ rest) :=
  .token (isRemark.scan rest) .remark accepts

/-- The two parts of a run around a remark join what the innermost element holds. -/
theorem Accepts.split {first second remark behind before after : List Char}
    (accepts : Accepts found ⟨innermost.hold [] (before ++ after) :: outer, none⟩ ('<' :: behind))
    (isRemark : IsRemark remark) (unmarked : '<' ∉ first ++ second)
    (meantBefore : unescape? (strip isSpace first) = some before)
    (meantAfter : unescape? (strip isSpace second) = some after) :
    Accepts found ⟨innermost :: outer, none⟩
      (first ++ (remark ++ (second ++ '<' :: behind))) := by
  rw [List.mem_append, not_or] at unmarked
  change Accepts found ⟨innermost.hold ([] ++ []) (before ++ after) :: outer, none⟩ _ at accepts
  rw [← OpenElement.hold_hold] at accepts
  have acceptsSecond := (accepts_run_iff unmarked.2 behind).2 ⟨after, meantAfter, accepts⟩
  have acceptsRemark := acceptsSecond.behind_remark isRemark
  obtain ⟨tail, rfl⟩ := isRemark.exists_cons
  exact (accepts_run_iff unmarked.1 _).2 ⟨before, meantBefore, acceptsRemark⟩

/--
What is read does not depend on the formatting. Inside of the root, spaces behind markup and in front of it
change nothing. A comment or an instruction changes nothing behind markup, nor in a run of text at a place
outside of references that is not next to a space. At any other place outside of references the document
is still accepted, and only spaces of that text are lost: no text is cut off, and none is reordered.
-/
theorem formatting_keeps_tree {document : String} {root : Element} {before : List Char}
    {tokens : List Token} {run behind : List Char}
    (accepted : Element.parse document = .ok root)
    (isRun : IsRun document before tokens run behind) :
    let parseWith (inserted : List Char) :=
      Element.parse (String.ofList (before ++ (inserted ++ '<' :: behind)))
    (IsInside tokens → ∀ spaces : List Char, (∀ character ∈ spaces, isSpace character = true) →
      parseWith (spaces ++ run) = .ok root ∧ parseWith (run ++ spaces) = .ok root) ∧
    ∀ remark, IsRemark remark →
      parseWith (remark ++ run) = .ok root ∧
      (IsInside tokens → ∀ first second, run = first ++ second → ¬ EndsInReference first →
        ((∀ last ∈ first.getLast?, isSpace last = false) →
          (∀ next ∈ second.head?, isSpace next = false) →
            parseWith (first ++ (remark ++ second)) = .ok root) ∧
        ∃ found, parseWith (first ++ (remark ++ second)) = .ok found ∧
          DropsSpaces (openPath tokens) root found ∧
          List.Forall₂ SameButSpaces (root :: root.descendants) (found :: found.descendants)) := by
  intro parseWith
  obtain ⟨progress, steps, accepts, goesOn⟩ := isRun.exists_progress accepted
  have unmarked := isRun.unmarked
  refine ⟨fun inside spaces blank => ?_, fun remark isRemark => ⟨?_, ?_⟩⟩
  · obtain ⟨innermost, outer, rfl, -⟩ := steps.exists_innermost inside
    obtain ⟨padBefore, padBehind⟩ := accepts.pad unmarked blank
    exact ⟨goesOn _ _ padBefore, goesOn _ _ padBehind⟩
  · refine goesOn _ _ ?_
    rw [List.append_assoc]
    exact accepts.behind_remark isRemark
  · rintro inside first second rfl closed
    obtain ⟨innermost, outer, rfl, path⟩ := steps.exists_innermost inside
    -- Both documents are read on from the same place, with and without the spaces at the cut.
    obtain ⟨characters, meant, acceptsRun⟩ := (accepts_run_iff unmarked behind).1 accepts
    obtain ⟨inFirst, spaces, inSecond, rfl, meantFirst, meantSecond, blank, tight⟩ :=
      exists_of_unescape?_strip_append closed meant
    have parseWith_split {found : Element} (acceptsFound : Accepts found
        ⟨innermost.hold [] (inFirst ++ inSecond) :: outer, none⟩ ('<' :: behind)) :
        parseWith (first ++ (remark ++ second)) = .ok found := by
      refine goesOn _ _ ?_
      rw [List.append_assoc, List.append_assoc]
      exact acceptsFound.split isRemark unmarked meantFirst meantSecond
    constructor
    · intro lastWanted nextWanted
      rw [tight lastWanted nextWanted, List.append_nil] at acceptsRun
      exact parseWith_split acceptsRun
    · obtain ⟨found, acceptsFound, drops⟩ :=
        acceptsRun.exists_of_drops (.opened (.of_hold innermost outer blank))
      rw [path] at drops
      exact ⟨found, parseWith_split acceptsFound, drops, drops.sameButSpaces⟩

/-- A name with a space in it. -/
def spacedDocument : String := "<r><u>al ice</u></r>"

def spacedRoot : Element :=
  ⟨"r", none, [], [⟨"u", none, [], [], "al ice"⟩], ""⟩

/-- A comment inside of a word of the name is not seen, and one behind the space takes the space along. -/
theorem formatting_keeps_tree_of_name :
    Element.parse spacedDocument = .ok spacedRoot ∧
      IsRun spacedDocument ['<', 'r', '>', '<', 'u', '>'] [.opening ['r'], .opening ['u']]
        ['a', 'l', ' ', 'i', 'c', 'e'] ['/', 'u', '>', '<', '/', 'r', '>'] ∧
      Element.parse "<r><u>a<!--c-->l ice</u></r>" = .ok spacedRoot ∧
      ∃ found, Element.parse "<r><u>al <!--c-->ice</u></r>" = .ok found ∧
        DropsSpaces [0] spacedRoot found ∧
        List.Forall₂ SameButSpaces (spacedRoot :: spacedRoot.descendants)
          (found :: found.descendants) := by
  have accepted : Element.parse spacedDocument = .ok spacedRoot := by decide +kernel
  have isRun : IsRun spacedDocument ['<', 'r', '>', '<', 'u', '>'] [.opening ['r'], .opening ['u']]
      ['a', 'l', ' ', 'i', 'c', 'e'] ['/', 'u', '>', '<', '/', 'r', '>'] :=
    ⟨by decide, .cons rfl (.one rfl), ⟨_, rfl, trivial⟩, by decide⟩
  have isRemark : IsRemark ['<', '!', '-', '-', 'c', '-', '-', '>'] :=
    @IsRemark.comment ['c'] (by decide)
  have outside (characters : List Char) (absent : '&' ∉ characters) :=
    not_endsInReference_of_not_mem absent
  have inside : IsInside [.opening ['r'], .opening ['u']] := List.cons_ne_nil _ _
  have split := ((formatting_keeps_tree accepted isRun).2 _ isRemark).2 inside
  have inWord := split ['a'] ['l', ' ', 'i', 'c', 'e'] rfl (outside _ (by decide))
  have behindSpace := split ['a', 'l', ' '] ['i', 'c', 'e'] rfl (outside _ (by decide))
  exact ⟨accepted, isRun, inWord.1 (by rintro _ ⟨⟩; rfl) (by rintro _ ⟨⟩; rfl), behindSpace.2⟩

end SignOn.Markup
