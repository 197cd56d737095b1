import Mathlib.Data.List.Chain
import Mathlib.Data.List.Forall2
import SignOn.Proofs.Markup.Name
import SignOn.Proofs.Markup.Writing

/-
This file shows that reading undoes writing: the tree that is read has the shape of what was written.
-/

namespace SignOn.Markup

open SignOn.Text

/-- A part of a name has legible characters and no colon. -/
def isPart (part : String) : Bool :=
  part.toList.all fun character => isLegible character && character != ':'

/-- A full name has a local part, which is not empty, alone or behind another part and a colon. -/
inductive IsFullName : String → Prop
  | short {behind : String} (nonempty : behind ≠ "") (part : isPart behind = true) :
      IsFullName behind
  | long {before behind : String} (front : isPart before = true) (nonempty : behind ≠ "")
      (part : isPart behind = true) : IsFullName (before ++ ":" ++ behind)

namespace Node

def isElement : Node → Bool
  | .text _ => false
  | _ => true

/-- The elements of a plain tree have full names, declare no namespace and keep their texts apart. -/
structure IsPlainAt (depth : Nat) (tag : Tag) (content : List Node) : Prop where
  shallow : depth < 64
  named : IsFullName tag.name
  keyed : ∀ pair ∈ tag.attributes, IsFullName pair.1
  undeclared : ∀ pair ∈ tag.attributes, ∀ declared, pair.1 ≠ declarationName declared
  distinct : (tag.attributes.map Prod.fst).Nodup
  separated : content.IsChain fun node next => node.isElement = true ∨ next.isElement = true

/-- A text loses the spaces around it. -/
def strippedText : Node → List Char
  | .text characters => strip isSpace characters.toList
  | _ => []

end Node

/-- An element has the local part of the name, and its attributes under theirs in the same order. -/
structure Tag.Heads (tag : Tag) (element : Element) : Prop where
  named : ∃ before, SplitsAs tag.name before element.name
  unbound : element.namespaceUri = none
  attributes : List.Forall₂
    (fun written read => (∃ before, SplitsAs written.1 before read.1) ∧ read.2 = written.2)
    tag.attributes element.attributes

/-- An element has the shape of the node that it was written for. -/
inductive Mirrors : Node → Element → Prop
  | standalone {name : String} {attributes : List (String × String)} {element : Element}
      (heads : Tag.Heads ⟨name, attributes⟩ element) (childless : element.children = [])
      (text : element.text = "") : Mirrors (.standalone name attributes) element
  | element {name : String} {attributes : List (String × String)} {content : List Node}
      {element : Element} (heads : Tag.Heads ⟨name, attributes⟩ element)
      (children : List.Forall₂ Mirrors (content.filter Node.isElement) element.children)
      (text : element.text = trim (String.ofList (content.flatMap Node.strippedText))) :
      Mirrors (.element name attributes content) element

/-- A full name can be read back. -/
theorem isLegibleName_of_isFullName {name : String} (full : IsFullName name) :
    isLegibleName name = true := by
  have legible {part : String} (isPart : isPart part = true) {character : Char}
      (member : character ∈ part.toList) : isLegible character = true :=
    (Bool.and_eq_true_iff.1 (List.all_eq_true.1 isPart character member)).1
  rw [isLegibleName, Bool.and_eq_true, List.all_eq_true]
  cases full with
  | short nonempty part => exact ⟨by simpa using nonempty, fun _ => legible part⟩
  | long front nonempty part =>
      rw [toList_joined]
      refine ⟨by simp, ?_⟩
      intro character member
      rcases List.mem_append.1 member with inFront | behind
      · exact legible front inFront
      · rcases List.mem_cons.1 behind with rfl | inPart
        · decide
        · exact legible part inPart

namespace Node.IsPlainAt

variable {depth : Nat} {tag : Tag} {content : List Node}

/-- The elements of a plain tree can be read back. -/
theorem isLegibleAt (plain : IsPlainAt depth tag content) : IsLegibleAt depth tag content where
  left := plain.shallow
  right := {
    named := isLegibleName_of_isFullName plain.named
    keyed := fun pair member => isLegibleName_of_isFullName (plain.keyed pair member)
    distinct := plain.distinct }

/-- The tags of a plain tree declare nothing. -/
theorem scope (plain : IsPlainAt depth tag content) : tag.scope = [] :=
  Tag.scope_of_undeclared fun pair member =>
    declaration?_eq_none_iff.2 (plain.undeclared pair member)

/-- The attributes of a plain tree are all kept under their local names. -/
theorem plainAttributes (plain : IsPlainAt depth tag content) :
    tag.plainAttributes = tag.attributes.map fun pair => (localName pair.1, pair.2) :=
  Tag.plainAttributes_of_undeclared fun pair member =>
    declaration?_eq_none_iff.2 (plain.undeclared pair member)

/-- The tag of a plain tree heads the element that it opens where no namespace is declared. -/
theorem heads (plain : IsPlainAt depth tag content) {scopes : List Scope}
    (silent : ∀ scope ∈ scopes, scope = []) (children : List Element) (characters : List Char) :
    tag.Heads (tag.element scopes children characters) where
  named := ⟨(splitName tag.name).1, splitsAs_splitName tag.name⟩
  unbound := by
    show resolve? _ _ = none
    rw [resolve?, List.findSome?_eq_none_iff]
    intro scope member
    rcases List.mem_cons.1 member with rfl | outer
    · rw [plain.scope]
      rfl
    · rw [silent scope outer]
      rfl
  attributes := by
    show List.Forall₂ _ tag.attributes tag.plainAttributes
    rw [plain.plainAttributes, List.forall₂_map_right_iff, List.forall₂_same]
    exact fun pair _ => ⟨⟨(splitName pair.1).1, splitsAs_splitName pair.1⟩, rfl⟩

end Node.IsPlainAt

/-- Where no two texts are neighbours, each run of text is one of them. -/
theorem Node.characterData_of_separated {content : List Node}
    (separated : content.IsChain fun node next => node.isElement = true ∨ next.isElement = true) :
    characterData [] content = content.flatMap strippedText := by
  induction content with
  | nil => rw [characterData]; rfl
  | cons node others inductionHypothesis =>
      have rest := inductionHypothesis separated.tail
      rw [List.flatMap_cons, ← rest]
      cases node with
      | standalone name attributes => rw [characterData]; rfl
      | element name attributes content => rw [characterData]; rfl
      | text characters =>
          rw [characterData, List.nil_append, strippedText]
          cases others with
          | nil => simp [characterData, strip, dropTrailing]
          | cons next further =>
              cases next with
              | text following =>
                  rcases (List.isChain_cons_cons.1 separated).1 with one | other <;> contradiction
              | standalone name attributes => rw [characterData, characterData]; rfl
              | element name attributes content => rw [characterData, characterData]; rfl

mutual

/-- What stands for a node of a plain tree has its shape. -/
theorem mirrors_of_element? {node : Node} {element : Element} {depth : Nat} {scopes : List Scope}
    (plain : node.Every Node.IsPlainAt depth) (silent : ∀ scope ∈ scopes, scope = [])
    (stands : node.element? scopes = some element) : Mirrors node element := by
  match node with
  | .text characters => cases stands
  | .standalone name attributes =>
      obtain rfl := Option.some.inj stands
      exact .standalone (plain.heads silent _ _) rfl rfl
  | .element name attributes content =>
      obtain rfl := Option.some.inj stands
      obtain ⟨plainHere, plainInside⟩ := plain
      have silentInside : ∀ scope ∈ Tag.scope ⟨name, attributes⟩ :: scopes, scope = [] := by
        intro scope member
        rcases List.mem_cons.1 member with rfl | outer
        · exact plainHere.scope
        · exact silent scope outer
      refine .element (plainHere.heads silent _ _) (mirrors_elements plainInside silentInside) ?_
      rw [← Node.characterData_of_separated plainHere.separated]
      rfl

/-- The elements of plain nodes mirror these in order. -/
theorem mirrors_elements {nodes : List Node} {depth : Nat} {scopes : List Scope}
    (plain : Node.EveryAmong Node.IsPlainAt depth nodes) (silent : ∀ scope ∈ scopes, scope = []) :
    List.Forall₂ Mirrors (nodes.filter Node.isElement) (Node.elements scopes nodes) := by
  match nodes with
  | [] => exact .nil
  | node :: others =>
      have rest := mirrors_elements plain.2 silent
      rw [Node.elements]
      cases stands : node.element? scopes with
      | none =>
          obtain ⟨characters, rfl⟩ := Node.exists_text_of_element? stands
          exact rest
      | some element =>
          have shape := mirrors_of_element? plain.1 silent stands
          have kept : node.isElement = true := by
            cases node with
            | text characters => cases stands
            | standalone name attributes => rfl
            | element name attributes content => rfl
          rw [List.filter_cons_of_pos kept]
          exact .cons shape rest

end

/--
A tree of elements with full names, which declares no namespaces and nests at most sixty-four deep, is
read back from what is written for it: each element with its local name, its attributes, its elements
and its text, of which only spaces around the pieces and blanks around the whole are gone.
-/
theorem reading_undoes_writing {node : Node} (isElement : node.isElement = true)
    (plain : node.Every Node.IsPlainAt 0) :
    ∃ root, Element.parse (String.ofList node.write) = .ok root ∧ Mirrors node root := by
  cases stands : node.element? [] with
  | none =>
      obtain ⟨characters, rfl⟩ := Node.exists_text_of_element? stands
      cases isElement
  | some root =>
      have legible := plain.imp fun _ _ _ plainHere => plainHere.isLegibleAt
      exact ⟨root, Element.parse_write_of_every legible stands,
        mirrors_of_element? plain (by simp) stands⟩

/-- Quotes, markup and spaces stand in values and texts, and two attributes share a local name. -/
def mixedNode : Node :=
  .element "é:root" [("a:k", "<\"&'>"), ("b:k", " \n")]
    [.text " x ", .standalone "c" [], .text "]]> & ", .element "d.1-_" [] []]

/-- Mixed content comes back with its quotes, its markup and its inner spaces. -/
theorem reading_undoes_writing_of_mixedNode :
    mixedNode.isElement = true ∧ mixedNode.Every Node.IsPlainAt 0 ∧
      ∃ root, Element.parse (String.ofList mixedNode.write) = .ok root ∧ Mirrors mixedNode root := by
  have front : IsFullName "é:root" :=
    @IsFullName.long "é" "root" (by decide) (by decide) (by decide)
  have first : IsFullName "a:k" :=
    @IsFullName.long "a" "k" (by decide) (by decide) (by decide)
  have second : IsFullName "b:k" :=
    @IsFullName.long "b" "k" (by decide) (by decide) (by decide)
  have plainRoot : Node.IsPlainAt 0 ⟨"é:root", [("a:k", "<\"&'>"), ("b:k", " \n")]⟩
      [.text " x ", .standalone "c" [], .text "]]> & ", .element "d.1-_" [] []] := {
    shallow := by decide
    named := front
    keyed := by simp [first, second]
    undeclared := by
      simp only [← declaration?_eq_none_iff]
      decide
    distinct := by decide
    separated := by simp [Node.isElement] }
  have plainLeaf {name : String} (named : IsFullName name) : Node.IsPlainAt 1 ⟨name, []⟩ [] := {
    shallow := by decide
    named := named
    keyed := by simp
    undeclared := by simp
    distinct := List.nodup_nil
    separated := .nil }
  have plain : mixedNode.Every Node.IsPlainAt 0 :=
    ⟨plainRoot, trivial, plainLeaf (.short (by decide) (by decide)), trivial,
      ⟨plainLeaf (.short (by decide) (by decide)), trivial⟩, trivial⟩
  exact ⟨rfl, plain, reading_undoes_writing rfl plain⟩

end SignOn.Markup
