import Mathlib.Data.List.Forall2
import SignOn.Proofs.Markup.Frame
import SignOn.Proofs.Markup.Writing

/-
This file compares trees of which one lacks spaces in one text, and shows that the difference stays where it
is, whatever is read behind it.
-/

namespace SignOn.Markup

open SignOn.Text

/-- An element with other text. -/
def Element.withCharacters (element : Element) (characters : List Char) : Element :=
  { element with characterData := String.ofList characters }

/--
The second tree lacks spaces in the text of one element, which is reached by going into children that have
so many siblings before them. Everything else is the same.
-/
inductive DropsSpaces (path : List Nat) : Element → Element → Prop
  | mk (frames : List Frame) {element : Element} {before spaces after : List Char}
      (reached : frames.map (fun frame => frame.before.length) = path)
      (blank : ∀ character ∈ spaces, isSpace character = true) :
      DropsSpaces path (enclose frames (element.withCharacters (before ++ spaces ++ after)))
        (enclose frames (element.withCharacters (before ++ after)))

/-- An element to which children and text are added at its end. -/
def Element.extend (element : Element) (children : List Element) (characters : List Char) :
    Element :=
  { element with
    children := element.children ++ children
    characterData := element.characterData ++ String.ofList characters }

def Frame.extend (frame : Frame) (children : List Element) (characters : List Char) : Frame :=
  { frame with
    after := frame.after ++ children
    characterData := frame.characterData ++ String.ofList characters }

theorem Frame.extend_fill (frame : Frame) (inner : Element) (children : List Element)
    (characters : List Char) :
    (frame.fill inner).extend children characters =
      (frame.extend children characters).fill inner := by
  simp [Frame.fill, Element.extend, Frame.extend]

theorem Element.extend_withCharacters (element : Element) (text : List Char)
    (children : List Element) (characters : List Char) :
    (element.withCharacters text).extend children characters =
      (element.extend children []).withCharacters (text ++ characters) := by
  simp [Element.extend, Element.withCharacters]

namespace DropsSpaces

variable {path : List Nat} {first second : Element}

/-- A difference of two children is a difference of the elements that hold them. -/
theorem fill (drops : DropsSpaces path first second) (frame : Frame) :
    DropsSpaces (frame.before.length :: path) (frame.fill first) (frame.fill second) := by
  obtain @⟨frames, element, before, spaces, after, rfl, blank⟩ := drops
  exact .mk (frame :: frames) rfl blank

/-- What is added at the end is added to both. -/
theorem extend (drops : DropsSpaces path first second) (children : List Element)
    (characters : List Char) :
    DropsSpaces path (first.extend children characters) (second.extend children characters) := by
  obtain @⟨frames, element, before, spaces, after, rfl, blank⟩ := drops
  cases frames with
  | nil =>
      simp only [enclose_nil, Element.extend_withCharacters, List.append_assoc]
      rw [← List.append_assoc]
      exact .mk [] rfl blank
  | cons outer inner =>
      simp only [enclose_cons, Frame.extend_fill]
      exact .mk (outer.extend children characters :: inner) rfl blank

/-- Spaces inside the text that is added to an element make such a difference. -/
theorem of_extend (element : Element) {before spaces after : List Char}
    (blank : ∀ character ∈ spaces, isSpace character = true) :
    DropsSpaces [] (element.extend [] (before ++ spaces ++ after))
      (element.extend [] (before ++ after)) := by
  have joined (characters : List Char) : element.extend [] characters =
      element.withCharacters (element.characterData.toList ++ characters) := by
    simp [Element.extend, Element.withCharacters]
  simp only [joined, ← List.append_assoc]
  exact .mk [] rfl blank

end DropsSpaces

theorem OpenElement.close_hold (element : OpenElement) (children : List Element)
    (characters : List Char) :
    (element.hold children characters).close = element.close.extend children characters := by
  simp [hold, close, Element.extend]

/-- An open element leaves open what its next child is. -/
def OpenElement.frame (element : OpenElement) : Frame where
  name := element.name
  namespaceUri := element.namespaceUri
  attributes := element.attributes
  before := element.newestFirst.reverse
  after := []
  characterData := element.characterData

theorem OpenElement.close_hold_child (element : OpenElement) (child : Element) :
    (element.hold [child] []).close = element.frame.fill child := by
  simp [hold, close, frame, Frame.fill]

/-- A tag opens the same element inside of all elements that have the same scopes. -/
theorem OpenElement.ofTag_congr {first second : List OpenElement}
    (scopes : first.map (·.scope) = second.map (·.scope)) (tag : Tag) :
    ofTag first tag = ofTag second tag := by
  simp only [ofTag, scopes]

/--
The second of two stacks of open elements lacks spaces in one text. What the element with this text is held
by is the same in both, and so is what is open inside of it.
-/
inductive StackDrops : List Nat → List OpenElement → List OpenElement → Prop
  | here {first second : OpenElement} {outer : List OpenElement} {path : List Nat}
      (sameName : first.tagName = second.tagName) (sameScope : first.scope = second.scope)
      (drops : DropsSpaces path first.close second.close) :
      StackDrops ((childCounts outer).reverse ++ path) (first :: outer) (second :: outer)
  | inside {innermost : OpenElement} {first second : List OpenElement} {path : List Nat}
      (outer : StackDrops path first second) :
      StackDrops path (innermost :: first) (innermost :: second)

/-- The second of two documents in progress lacks spaces in one text. -/
inductive Progress.Drops (path : List Nat) : Progress → Progress → Prop
  | opened {first second : List OpenElement} (differ : StackDrops path first second) :
      Drops path ⟨first, none⟩ ⟨second, none⟩
  | closed {first second : Element} (drops : DropsSpaces path first second) :
      Drops path ⟨[], some first⟩ ⟨[], some second⟩

namespace StackDrops

variable {path : List Nat} {first second : OpenElement} {outer others : List OpenElement}

/-- Names mean the same in both stacks. -/
theorem scopes_eq (differ : StackDrops path outer others) :
    outer.map (·.scope) = others.map (·.scope) := by
  induction differ with
  | here _ sameScope => rw [List.map_cons, List.map_cons, sameScope]
  | inside _ inductionHypothesis => rw [List.map_cons, List.map_cons, inductionHypothesis]

/-- Both stacks are of one depth. -/
theorem length_eq (differ : StackDrops path outer others) : outer.length = others.length := by
  simpa using congrArg List.length differ.scopes_eq

/-- The innermost elements of both stacks are closed by the same tag. -/
theorem tagName_eq (differ : StackDrops path (first :: outer) (second :: others)) :
    first.tagName = second.tagName := by
  cases differ with
  | here sameName => exact sameName
  | inside => rfl

/-- What the innermost element holds next is the same in both stacks. -/
theorem hold (differ : StackDrops path (first :: outer) (second :: others))
    (children : List Element) (characters : List Char) :
    StackDrops path (first.hold children characters :: outer)
      (second.hold children characters :: others) := by
  cases differ with
  | here sameName sameScope drops =>
      refine .here sameName sameScope ?_
      rw [OpenElement.close_hold, OpenElement.close_hold]
      exact drops.extend children characters
  | inside outer => exact .inside outer

/-- The same element is attached to both stacks. -/
theorem attach (differ : StackDrops path outer others) (element : Element) :
    Progress.Drops path (Progress.attach element outer) (Progress.attach element others) := by
  cases differ with
  | here sameName sameScope drops =>
      rw [Progress.attach_cons, Progress.attach_cons]
      exact .opened ((here sameName sameScope drops).hold [element] [])
  | inside outer =>
      rw [Progress.attach_cons, Progress.attach_cons]
      exact .opened ((inside outer).hold [element] [])

/-- When the innermost elements are closed, the difference is in what holds them from then on. -/
theorem close (differ : StackDrops path (first :: outer) (second :: others)) :
    Progress.Drops path (Progress.attach first.close outer)
      (Progress.attach second.close others) := by
  cases differ with
  | @here _ _ _ path _ _ drops =>
      cases outer with
      | nil => exact .closed drops
      | cons parent outer =>
          have further := drops.fill parent.frame
          rw [← OpenElement.close_hold_child, ← OpenElement.close_hold_child] at further
          have reached : (childCounts (parent :: outer)).reverse ++ path =
              (childCounts outer).reverse ++ (parent.frame.before.length :: path) := by
            simp [childCounts, OpenElement.frame]
          rw [Progress.attach_cons, Progress.attach_cons, reached]
          exact .opened (.here rfl rfl further)
  | inside outer => exact outer.attach first.close

end StackDrops

/-- Text that joins the innermost element with spaces in one stack joins it without them in the other. -/
theorem StackDrops.of_hold (innermost : OpenElement) (outer : List OpenElement)
    {before spaces after : List Char}
    (blank : ∀ character ∈ spaces, isSpace character = true) :
    StackDrops (childCounts outer).reverse (innermost.hold [] (before ++ spaces ++ after) :: outer)
      (innermost.hold [] (before ++ after) :: outer) := by
  rw [← List.append_nil (List.reverse _)]
  refine .here rfl rfl ?_
  rw [OpenElement.close_hold, OpenElement.close_hold]
  exact .of_extend innermost.close blank

namespace Progress

variable {path : List Nat} {first second : Progress}

/-- A token that is accepted with the spaces is accepted without them. -/
theorem Drops.step {next : Progress} {token : Token} (drops : Drops path first second)
    (step : Step first token next) : ∃ other, Step second token other ∧ Drops path next other := by
  cases step with
  | blankText meant blank =>
      cases drops with
      | opened differ => cases differ
      | closed drops => exact ⟨_, .blankText meant blank, .closed drops⟩
  | text meant =>
      cases drops with
      | @opened _ others differ =>
          cases others with
          | nil => cases differ
          | cons innermost others => exact ⟨_, .text meant, .opened (differ.hold [] _)⟩
  | opening shallow read =>
      cases drops with
      | opened differ =>
          rw [differ.length_eq] at shallow
          rw [OpenElement.ofTag_congr differ.scopes_eq]
          exact ⟨_, .opening shallow read, .opened (.inside differ)⟩
  | standalone shallow read =>
      cases drops with
      | opened differ =>
          rw [differ.length_eq] at shallow
          rw [OpenElement.ofTag_congr differ.scopes_eq]
          exact ⟨_, .standalone shallow read, differ.attach _⟩
  | closing named =>
      cases drops with
      | @opened _ others differ =>
          cases others with
          | nil => cases differ
          | cons innermost others =>
              rw [differ.tagName_eq] at named
              exact ⟨_, .closing named, differ.close⟩
  | ignoredLiteral =>
      cases drops with
      | opened differ => cases differ
      | closed drops => exact ⟨_, .ignoredLiteral, .closed drops⟩
  | literal =>
      cases drops with
      | @opened _ others differ =>
          cases others with
          | nil => cases differ
          | cons innermost others => exact ⟨_, .literal, .opened (differ.hold [] _)⟩
  | remark => exact ⟨_, .remark, drops⟩

end Progress

/-- What is accepted with the spaces is accepted without them, and the roots differ in them alone. -/
theorem Accepts.exists_of_drops {path : List Nat} {first second : Progress} {root : Element}
    {characters : List Char} (accepts : Accepts root first characters)
    (drops : first.Drops path second) :
    ∃ found, Accepts found second characters ∧ DropsSpaces path root found := by
  induction accepts generalizing second with
  | finished ended finish =>
      cases drops with
      | opened differ => cases differ <;> cases finish
      | closed drops =>
          cases finish
          exact ⟨_, .finished ended rfl, drops⟩
  | token scanned step _ inductionHypothesis =>
      obtain ⟨other, stepToo, dropsToo⟩ := drops.step step
      obtain ⟨found, accepts, difference⟩ := inductionHypothesis dropsToo
      exact ⟨found, .token scanned stepToo accepts, difference⟩

/-- Two elements are the same on their own, except for spaces in their texts. -/
structure SameButSpaces (first second : Element) : Prop where
  name : first.name = second.name
  namespaceUri : first.namespaceUri = second.namespaceUri
  attributes : first.attributes = second.attributes
  text : (first.text.toList.filter fun character => !isSpace character) =
    second.text.toList.filter fun character => !isSpace character

/-- An element is the same as itself. -/
theorem SameButSpaces.refl (element : Element) : SameButSpaces element element :=
  ⟨rfl, rfl, rfl, rfl⟩

/-- Spaces are blank, so that trimming does not tell texts apart that differ in spaces. -/
theorem filter_text (element : Element) :
    (element.text.toList.filter fun character => !isSpace character) =
      strip isBlank (element.characterData.toList.filter fun character => !isSpace character) := by
  rw [Element.text, trim, String.toList_ofList, filter_strip]
  intro character space
  exact isBlank_of_isSpace (by simpa using space)

/-- Spaces anywhere in the text of an element do not count. -/
theorem sameButSpaces_withCharacters (element : Element) {before spaces after : List Char}
    (blank : ∀ character ∈ spaces, isSpace character = true) :
    SameButSpaces (element.withCharacters (before ++ spaces ++ after))
      (element.withCharacters (before ++ after)) := by
  refine ⟨rfl, rfl, rfl, ?_⟩
  have dropped : (spaces.filter fun character => !isSpace character) = [] := by
    rw [List.filter_eq_nil_iff]
    intro character member
    simp [blank character member]
  rw [filter_text, filter_text]
  simp only [Element.withCharacters, String.toList_ofList, List.filter_append, dropped,
    List.append_nil]

/-- One by one in document order, the elements of both trees are the same except for spaces. -/
theorem DropsSpaces.sameButSpaces {path : List Nat} {first second : Element}
    (drops : DropsSpaces path first second) :
    List.Forall₂ SameButSpaces (first :: first.descendants) (second :: second.descendants) := by
  have same (elements : List Element) : List.Forall₂ SameButSpaces elements elements :=
    List.forall₂_same.2 fun element _ => .refl element
  obtain @⟨frames, element, before, spaces, after, -, blank⟩ := drops
  induction frames with
  | nil =>
      refine .cons (sameButSpaces_withCharacters element blank) ?_
      rw [Element.descendants_eq, Element.descendants_eq]
      exact same _
  | cons outer inner inductionHypothesis =>
      refine .cons ⟨rfl, rfl, rfl, rfl⟩ ?_
      rw [enclose_cons, enclose_cons, Element.descendants_eq, Element.descendants_eq, Frame.fill,
        Frame.fill, Element.withDescendants_append, Element.withDescendants_append,
        Element.withDescendants_cons, Element.withDescendants_cons]
      exact List.rel_append (same _) (List.rel_append inductionHypothesis (same _))

end SignOn.Markup
