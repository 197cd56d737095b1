import SignOn.Text.Blank

/-
This file holds the tree of elements of a document and finds elements in it.
-/

namespace SignOn.Markup

open SignOn.Text

/-- An element has the local parts of its name and of its attributes' names. -/
structure Element where
  name : String
  namespaceUri : Option String
  attributes : List (String × String)
  children : List Element
  characterData : String
  deriving Repr, Inhabited

namespace Element

mutual

/-- Two elements are compared by their own data, and their children one by one. -/
def decideEq (first second : Element) : Decidable (first = second) :=
  match first, second with
  | ⟨name, namespaceUri, attributes, children, characterData⟩,
    ⟨otherName, otherUri, otherAttributes, otherChildren, otherData⟩ =>
    have := decideEqAmong children otherChildren
    decidable_of_iff' (name = otherName ∧ namespaceUri = otherUri ∧ attributes = otherAttributes ∧
      children = otherChildren ∧ characterData = otherData) (by rw [mk.injEq])

def decideEqAmong (first second : List Element) : Decidable (first = second) :=
  match first, second with
  | [], [] => isTrue rfl
  | [], _ :: _ => isFalse nofun
  | _ :: _, [] => isFalse nofun
  | element :: others, other :: further =>
    have := element.decideEq other
    have := decideEqAmong others further
    decidable_of_iff' (element = other ∧ others = further) (by rw [List.cons.injEq])

end

instance : DecidableEq Element := decideEq

/-- The text directly inside an element, without blanks around it. -/
def text (element : Element) : String := trim element.characterData

def attribute? (element : Element) (name : String) : Option String :=
  element.attributes.lookup name

def child? (element : Element) (name : String) : Option Element :=
  element.children.find? (·.name == name)

def childrenNamed (element : Element) (name : String) : List Element :=
  element.children.filter (·.name == name)

mutual

/-- The first element of a name below an element, in document order. -/
def descendant? (element : Element) (name : String) : Option Element :=
  match element with
  | ⟨_, _, _, children, _⟩ => firstAmong? children name

/-- A search goes through an element before it goes on to the next one. -/
def firstAmong? (elements : List Element) (name : String) : Option Element :=
  match elements with
  | [] => none
  | element :: others =>
    if element.name = name then some element
    else
      match element.descendant? name with
      | some found => some found
      | none => firstAmong? others name

end

mutual

/-- The elements of a name below an element are put before those found earlier. -/
def collectBelow (element : Element) (name : String) (newestFirst : List Element) :
    List Element :=
  match element with
  | ⟨_, _, _, children, _⟩ => collectAmong children name newestFirst

/-- A match is collected and searched like any other element. -/
def collectAmong (elements : List Element) (name : String) (newestFirst : List Element) :
    List Element :=
  match elements with
  | [] => newestFirst
  | element :: others =>
    collectAmong others name
      (element.collectBelow name (if element.name = name then element :: newestFirst else newestFirst))

end

/-- All elements of a name below an element, in document order. -/
def descendantsNamed (element : Element) (name : String) : List Element :=
  (element.collectBelow name []).reverse

mutual

/-- All elements below an element in document order, each before what it holds. -/
def descendants (element : Element) : List Element :=
  match element with
  | ⟨_, _, _, children, _⟩ => withDescendants children

def withDescendants (elements : List Element) : List Element :=
  match elements with
  | [] => []
  | element :: others => element :: (element.descendants ++ withDescendants others)

end

mutual

/-- An element without children has height one. -/
def height (element : Element) : Nat :=
  match element with
  | ⟨_, _, _, children, _⟩ => heightAmong children + 1

def heightAmong (elements : List Element) : Nat :=
  match elements with
  | [] => 0
  | element :: others => max element.height (heightAmong others)

end

/-- A namespace belongs to a family of namespaces that begin alike. -/
def isInFamily (element : Element) (family : String) : Bool :=
  match element.namespaceUri with
  | none => false
  | some uri => family.toList.isPrefixOf uri.toList

end Element

end SignOn.Markup
