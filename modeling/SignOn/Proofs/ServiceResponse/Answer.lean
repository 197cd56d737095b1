import SignOn.Proofs.Markup.Name
import SignOn.Proofs.Markup.Writing
import SignOn.Proofs.ServiceResponse.Reading

/-
This file writes answers that release attributes in three forms and shows what is read from each.
-/

namespace SignOn

def isWordCharacter (character : Char) : Bool :=
  character.isAlphanum || character == '_' || character == '-'

/-- A released attribute has a word as its name and no blanks around its value. -/
structure IsReleasable (pair : String × String) : Prop where
  nonempty : pair.1 ≠ ""
  isWord : pair.1.toList.all isWordCharacter = true
  notFailure : pair.1 ≠ "authenticationFailure"
  trimmed : Text.trim pair.2 = pair.2

theorem isReleasable_iff (pair : String × String) :
    IsReleasable pair ↔
      pair.1 ≠ "" ∧ pair.1.toList.all isWordCharacter = true ∧
        pair.1 ≠ "authenticationFailure" ∧ Text.trim pair.2 = pair.2 :=
  ⟨fun ⟨nonempty, isWord, notFailure, trimmed⟩ => ⟨nonempty, isWord, notFailure, trimmed⟩,
    fun ⟨nonempty, isWord, notFailure, trimmed⟩ => ⟨nonempty, isWord, notFailure, trimmed⟩⟩

instance (pair : String × String) : Decidable (IsReleasable pair) :=
  decidable_of_iff' _ (isReleasable_iff pair)

namespace ServiceResponse

open SignOn.Markup SignOn.Text

def casNamespace : String := "http://www.yale.edu/tp/cas"

/-- The namespaces of both families are declared at the root, the second in any version. -/
def rootScope (version : String) : Scope :=
  [(some "cas", casNamespace), (some "saml", samlFamily ++ version)]

/-- An answer names a user and releases something behind it. -/
def answerNode (version user : String) (released : List Node) : Node :=
  .element "cas:serviceResponse"
    [("xmlns:cas", casNamespace), ("xmlns:saml", samlFamily ++ version)] [
    .element "cas:authenticationSuccess" [] (.element "cas:user" [] [.text user] :: released)]

def answer (version user : String) (released : List Node) : String :=
  String.ofList (answerNode version user released).write

/-- In a block each attribute is an element of its name. -/
def entryNode (pair : String × String) : Node :=
  .element ("cas:" ++ pair.1) [] [.text pair.2]

def blockNode (pairs : List (String × String)) : Node :=
  .element "cas:attributes" [] (pairs.map entryNode)

def flattenedNode (pair : String × String) : Node :=
  .standalone "cas:attribute" [("name", pair.1), ("value", pair.2)]

/-- A qualified attribute has its name under one of two keys. -/
def qualifiedNode (key : String) (pair : String × String) : Node :=
  .element "saml:Attribute" [(key, pair.1)] [.element "saml:AttributeValue" [] [.text pair.2]]

/-- An element that holds a text, which has lost the spaces around it. -/
def textElement (name text : String) : Element :=
  ⟨name, some casNamespace, [], [], String.ofList (strip isSpace text.toList)⟩

def entryElement (pair : String × String) : Element := textElement pair.1 pair.2

def blockElement (pairs : List (String × String)) : Element :=
  ⟨"attributes", some casNamespace, [], pairs.map entryElement, ""⟩

def flattenedElement (pair : String × String) : Element :=
  ⟨"attribute", some casNamespace, [("name", pair.1), ("value", pair.2)], [], ""⟩

def valueElement (version text : String) : Element :=
  ⟨"AttributeValue", some (samlFamily ++ version), [], [],
    String.ofList (strip isSpace text.toList)⟩

def qualifiedElement (version key : String) (pair : String × String) : Element :=
  ⟨"Attribute", some (samlFamily ++ version), [(key, pair.1)], [valueElement version pair.2], ""⟩

def successElement (user : String) (released : List Element) : Element :=
  ⟨"authenticationSuccess", some casNamespace, [], textElement "user" user :: released, ""⟩

def answerElement (user : String) (released : List Element) : Element :=
  ⟨"serviceResponse", some casNamespace, [], [successElement user released], ""⟩

section Writing

variable (version : String) {pair : String × String}

theorem splitName_entry (name : String) : splitName ("cas:" ++ name) = (some "cas", name) :=
  splitName_joined "cas" name (by decide)

/-- A released attribute has a name that can be written with a prefix. -/
theorem isName_entry (released : IsReleasable pair) : isName ("cas:" ++ pair.1) = true := by
  rw [isName, String.toList_append, Bool.and_eq_true, List.all_append, Bool.and_eq_true]
  refine ⟨rfl, rfl, List.all_eq_true.2 fun character member => ?_⟩
  have word := List.all_eq_true.1 released.isWord character member
  simp only [isWordCharacter, Bool.or_eq_true] at word
  simp only [isNameCharacter, Bool.or_eq_true]
  tauto

/-- An entry of a block is written for its element. -/
theorem element?_entryNode (pair : String × String) :
    (entryNode pair).element? [[], [], rootScope version] = some (entryElement pair) := by
  have name : localName ("cas:" ++ pair.1) = pair.1 := by
    rw [localName, splitName_entry]
  have prefixed : (splitName ("cas:" ++ pair.1)).1 = some "cas" := by
    rw [splitName_entry]
  rw [entryNode, Node.element?, Tag.element, name, prefixed, Node.elements, Node.characterData,
    Node.characterData, Node.elements, List.nil_append]
  rfl

/-- A block is written for its element, with the entries in order. -/
theorem element?_blockNode (pairs : List (String × String)) :
    (blockNode pairs).element? [[], rootScope version] = some (blockElement pairs) := by
  have entries : ∀ pair ∈ pairs, (entryNode pair).element? [[], [], rootScope version] =
      some (entryElement pair) := fun pair _ => element?_entryNode version pair
  have scope : Tag.scope ⟨"cas:attributes", []⟩ = [] := rfl
  rw [blockNode, Node.element?, scope, Node.elements_map entries, Node.characterData_map entries,
    blockElement]
  rfl

/-- A flattened attribute is written for its element. -/
theorem element?_flattenedNode (pair : String × String) :
    (flattenedNode pair).element? [[], rootScope version] = some (flattenedElement pair) := by
  obtain ⟨scope, attributes⟩ := Tag.keeps_of_keys
    ⟨"cas:attribute", [("name", pair.1), ("value", pair.2)]⟩ ["name", "value"] rfl (by decide)
  simp only [flattenedNode, Node.element?, Tag.element, scope, attributes]
  rfl

/-- A qualified attribute is written for its element. -/
theorem element?_qualifiedNode {key : String} (isKey : key = "AttributeName" ∨ key = "Name")
    (pair : String × String) :
    (qualifiedNode key pair).element? [[], rootScope version] =
      some (qualifiedElement version key pair) := by
  have short : ∀ known ∈ [key], declaration? known = none ∧ localName known = known := by
    rcases isKey with rfl | rfl <;> decide
  obtain ⟨scope, attributes⟩ := Tag.keeps_of_keys ⟨"saml:Attribute", [(key, pair.1)]⟩ [key] rfl short
  simp only [qualifiedNode, Node.element?, Node.elements, Node.characterData, qualifiedElement,
    valueElement, rootScope, List.nil_append, Tag.element, scope, attributes]
  rfl

theorem isWritable_entryNode (released : IsReleasable pair) : (entryNode pair).IsWritable 3 := by
  rw [entryNode, Node.IsWritable, Node.AreWritable]
  exact ⟨by decide, Tag.isWritable_plain (isName_entry released), trivial, trivial⟩

/-- A block of released attributes can be written inside a success. -/
theorem isWritable_blockNode {pairs : List (String × String)}
    (released : ∀ pair ∈ pairs, IsReleasable pair) : (blockNode pairs).IsWritable 2 := by
  rw [blockNode, Node.IsWritable]
  exact ⟨by decide, Tag.isWritable_plain (by decide),
    Node.areWritable_map fun pair member => isWritable_entryNode (released pair member)⟩

theorem isWritable_flattenedNode (pair : String × String) :
    (flattenedNode pair).IsWritable 2 := by
  rw [flattenedNode, Node.IsWritable]
  exact ⟨by decide,
    Tag.isWritable_of_keys ["name", "value"] rfl (by decide) (by decide) (by decide)⟩

theorem isWritable_qualifiedNode {key : String} (isKey : key = "AttributeName" ∨ key = "Name")
    (pair : String × String) : (qualifiedNode key pair).IsWritable 2 := by
  have keyed : isName key = true := by
    rcases isKey with rfl | rfl <;> decide
  have tag : Tag.IsWritable ⟨"saml:Attribute", [(key, pair.1)]⟩ :=
    Tag.isWritable_of_keys [key] rfl (by decide) (by simp [keyed]) (by simp)
  simp only [qualifiedNode, Node.IsWritable, Node.AreWritable, and_true]
  exact ⟨by decide, tag, by decide, Tag.isWritable_plain (by decide)⟩

variable {Item : Type} {node : Item → Node} {element : Item → Element} {items : List Item}

theorem element?_userNode (user : String) :
    (Node.element "cas:user" [] [.text user]).element? [[], rootScope version] =
      some (textElement "user" user) := by
  rw [Node.element?, Node.elements, Node.elements, Node.characterData, Node.characterData,
    List.nil_append, textElement]
  rfl

/-- An answer is read as the tree of what it releases. -/
theorem parse_answer (user : String)
    (stands : ∀ item ∈ items, (node item).element? [[], rootScope version] = some (element item))
    (writable : ∀ item ∈ items, (node item).IsWritable 2) :
    Element.parse (answer version user (items.map node)) =
      .ok (answerElement user (items.map element)) := by
  have root : Tag.IsWritable ⟨"cas:serviceResponse",
      [("xmlns:cas", casNamespace), ("xmlns:saml", samlFamily ++ version)]⟩ :=
    Tag.isWritable_of_keys ["xmlns:cas", "xmlns:saml"] rfl (by decide) (by decide) (by decide)
  have rootScoped : Tag.scope ⟨"cas:serviceResponse",
      [("xmlns:cas", casNamespace), ("xmlns:saml", samlFamily ++ version)]⟩ =
      rootScope version := by
    simp [rootScope, Tag.scope, declaration?, splitName, splitFirst?]
  have rootBare : Tag.plainAttributes ⟨"cas:serviceResponse",
      [("xmlns:cas", casNamespace), ("xmlns:saml", samlFamily ++ version)]⟩ = [] := by
    simp [Tag.plainAttributes, declaration?, splitName, splitFirst?]
  have successScoped : Tag.scope ⟨"cas:authenticationSuccess", []⟩ = [] := rfl
  have named := element?_userNode version user
  apply Element.parse_write
  · simp only [answerNode, Node.IsWritable, Node.AreWritable, and_true]
    exact ⟨by decide, root, by decide, Tag.isWritable_plain (by decide),
      ⟨by decide, Tag.isWritable_plain (by decide)⟩, Node.areWritable_map writable⟩
  · rw [answerNode, Node.element?, rootScoped, Node.elements, Node.elements, Node.element?,
      successScoped, Node.elements, named, Node.elements_map stands,
      Node.characterData_of_element? named, Node.characterData_map stands, Node.characterData,
      Node.characterData, Tag.element, rootScoped, rootBare, answerElement, successElement]
    dsimp only
    rfl

end Writing

section Reading

theorem text_textElement (name text : String) : (textElement name text).text = trim text :=
  trim_strip_isSpace text

theorem text_valueElement (version text : String) : (valueElement version text).text = trim text :=
  trim_strip_isSpace text

/-- Below a success stands the user, and then what is released. -/
theorem descendants_successElement (user : String) (released : List Element) :
    (successElement user released).descendants =
      textElement "user" user :: Element.withDescendants released := by
  rw [Element.descendants_eq, successElement, Element.withDescendants_cons, Element.descendants_eq,
    textElement, Element.withDescendants_nil, List.nil_append]

theorem withDescendants_blockElement (pairs : List (String × String)) :
    Element.withDescendants [blockElement pairs] = blockElement pairs :: pairs.map entryElement := by
  have leaves : ∀ entry ∈ pairs.map entryElement, entry.children = [] := by
    intro entry member
    obtain ⟨pair, -, rfl⟩ := List.mem_map.1 member
    rfl
  rw [Element.withDescendants_cons, Element.descendants_eq, blockElement,
    Element.withDescendants_of_leaves leaves, Element.withDescendants_nil, List.append_nil]

theorem withDescendants_flattenedElement (pairs : List (String × String)) :
    Element.withDescendants (pairs.map flattenedElement) = pairs.map flattenedElement := by
  apply Element.withDescendants_of_leaves
  intro entry member
  obtain ⟨pair, -, rfl⟩ := List.mem_map.1 member
  rfl

theorem withDescendants_qualifiedElement (version key : String) (pairs : List (String × String)) :
    Element.withDescendants (pairs.map (qualifiedElement version key)) =
      pairs.flatMap fun pair => [qualifiedElement version key pair, valueElement version pair.2] := by
  induction pairs with
  | nil => rw [List.map_nil, Element.withDescendants_nil, List.flatMap_nil]
  | cons pair others inductionHypothesis =>
      have below : (qualifiedElement version key pair).descendants =
          [valueElement version pair.2] := by
        rw [Element.descendants_eq]
        exact Element.withDescendants_of_leaves fun value member => by
          obtain rfl := List.mem_singleton.1 member
          rfl
      rw [List.map_cons, Element.withDescendants_cons, below, inductionHypothesis, List.flatMap_cons]
      rfl

/-- A block releases what is written in it. -/
theorem blockAttributes_blockElement (user : String) {pairs : List (String × String)}
    (released : ∀ pair ∈ pairs, IsReleasable pair) :
    blockAttributes (successElement user [blockElement pairs]) = AttributeBag.ofPairs pairs := by
  have block : (successElement user [blockElement pairs]).child? "attributes" =
      some (blockElement pairs) := rfl
  have entries : (pairs.map entryElement).map (fun entry => (entry.name, entry.text)) = pairs := by
    have same : ∀ pair ∈ pairs, ((entryElement pair).name, (entryElement pair).text) = id pair := by
      intro pair member
      have text : (entryElement pair).text = pair.2 := by
        rw [entryElement, text_textElement, (released pair member).trimmed]
      rw [text]
      rfl
    rw [List.map_map, ← List.map_id pairs, List.map_id]
    exact (List.map_congr_left same).trans (List.map_id pairs)
  rw [blockAttributes, blockPairs, block]
  exact congrArg AttributeBag.ofPairs entries

/-- Without attributes of its own no element is taken for an inline attribute. -/
theorem inlineOrBlockAttributes_of_plain {success : Element}
    (plain : ∀ element ∈ success.descendants, element.attributes = []) :
    inlineOrBlockAttributes success = blockAttributes success := by
  have keyless {key : String} {element : Element} (member : element ∈ success.descendants) :
      element.attribute? key = none := by
    rw [Element.attribute?, plain element member, List.lookup_nil]
  have flattened : flattenedPairs success = [] := by
    rw [flattenedPairs, Element.descendantsNamed_eq_filter, List.filterMap_eq_nil_iff]
    intro element member
    have nameless : element.attribute? "name" = none := keyless (List.mem_of_mem_filter member)
    rw [flattenedPair?, nameless, Option.map_none]
  have qualified : qualifiedElements success = [] := by
    rw [qualifiedElements, Element.descendantsNamed_eq_filter, List.filterMap_eq_nil_iff]
    intro element member
    have among := List.mem_of_mem_filter (List.mem_of_mem_filter member)
    rw [samlName?, keyless among, keyless among, Option.map_none]
  rw [inlineOrBlockAttributes, flattened, qualified]
  rfl

/-- Without a block the inline attributes are all there is. -/
theorem inlineOrBlockAttributes_of_no_block {success : Element}
    (noBlock : success.child? "attributes" = none) :
    inlineOrBlockAttributes success =
      AttributeBag.ofPairs (flattenedPairs success ++ qualifiedPairs success) := by
  rw [inlineOrBlockAttributes]
  split
  -- If nothing is inline either, the bag is empty in both ways.
  · rename_i nothing
    obtain ⟨flattened, qualified⟩ := Bool.and_eq_true_iff.1 nothing
    rw [List.isEmpty_iff] at flattened qualified
    rw [blockAttributes, blockPairs, noBlock, flattened, qualifiedPairs, qualified]
    rfl
  · rfl

/-- A block without inline attributes gives its own. -/
theorem inlineOrBlockAttributes_blockElement (user : String) {pairs : List (String × String)}
    (released : ∀ pair ∈ pairs, IsReleasable pair) :
    inlineOrBlockAttributes (successElement user [blockElement pairs]) =
      AttributeBag.ofPairs pairs := by
  rw [inlineOrBlockAttributes_of_plain, blockAttributes_blockElement user released]
  intro element member
  rw [descendants_successElement, withDescendants_blockElement] at member
  rcases List.mem_cons.1 member with rfl | member
  · rfl
  rcases List.mem_cons.1 member with rfl | member
  · rfl
  obtain ⟨pair, -, rfl⟩ := List.mem_map.1 member
  rfl

/-- Behind the user nothing that has another name is a block. -/
theorem child?_successElement (user : String) {released : List Element}
    (noBlock : ∀ element ∈ released, element.name ≠ "attributes") :
    (successElement user released).child? "attributes" = none := by
  rw [Element.child?, List.find?_eq_none]
  intro element member
  rw [beq_iff_eq]
  rcases List.mem_cons.1 member with rfl | member
  · exact show "user" ≠ "attributes" by decide
  · exact noBlock element member

/-- A search below a success passes the user by. -/
theorem descendantsNamed_successElement {name : String} (other : name ≠ "user") (user : String)
    (released : List Element) :
    (successElement user released).descendantsNamed name =
      (Element.withDescendants released).filter (·.name == name) := by
  have unequal : ((textElement "user" user).name == name) = false :=
    beq_eq_false_iff_ne.2 other.symm
  rw [Element.descendantsNamed_eq_filter, descendants_successElement, List.filter_cons, unequal]
  rfl

/-- Flattened attributes are given as they are. -/
theorem inlineOrBlockAttributes_flattenedElement (user : String) (pairs : List (String × String)) :
    inlineOrBlockAttributes (successElement user (pairs.map flattenedElement)) =
      AttributeBag.ofPairs pairs := by
  have noBlock : ∀ element ∈ pairs.map flattenedElement, element.name ≠ "attributes" := by
    intro element member
    obtain ⟨pair, -, rfl⟩ := List.mem_map.1 member
    exact show "attribute" ≠ "attributes" by decide
  have name (pair : String × String) : (flattenedElement pair).name = "attribute" := rfl
  have named := Element.filter_map_of_name name pairs
  have flattened : flattenedPairs (successElement user (pairs.map flattenedElement)) = pairs := by
    rw [flattenedPairs, descendantsNamed_successElement (by decide),
      withDescendants_flattenedElement, named, if_pos rfl, List.filterMap_map]
    exact List.filterMap_some
  have qualified : qualifiedPairs (successElement user (pairs.map flattenedElement)) = [] := by
    rw [qualifiedPairs, qualifiedElements, descendantsNamed_successElement (by decide),
      withDescendants_flattenedElement, named, if_neg (by decide)]
    rfl
  rw [inlineOrBlockAttributes_of_no_block (child?_successElement user noBlock), flattened,
    qualified, List.append_nil]

/-- The values of qualified attributes are not taken for attributes. -/
theorem filter_qualifiedElement (version key : String) (pairs : List (String × String)) :
    (Element.withDescendants (pairs.map (qualifiedElement version key))).filter
        (·.name == "Attribute") = pairs.map (qualifiedElement version key) ∧
      (Element.withDescendants (pairs.map (qualifiedElement version key))).filter
        (·.name == "attribute") = [] := by
  rw [withDescendants_qualifiedElement]
  induction pairs with
  | nil => exact ⟨rfl, rfl⟩
  | cons pair others inductionHypothesis =>
      rw [List.flatMap_cons, List.filter_append, List.filter_append, inductionHypothesis.1,
        inductionHypothesis.2]
      exact ⟨rfl, rfl⟩

/-- All qualified attributes are found, whichever key they have. -/
theorem qualifiedElements_successElement (user version : String) {key : String}
    (isKey : key = "AttributeName" ∨ key = "Name") (pairs : List (String × String)) :
    qualifiedElements (successElement user (pairs.map (qualifiedElement version key))) =
      pairs.map fun pair => (pair.1, qualifiedElement version key pair) := by
  have inFamily : (pairs.map (qualifiedElement version key)).filter (·.isInFamily samlFamily) =
      pairs.map (qualifiedElement version key) := by
    rw [List.filter_eq_self]
    intro element member
    obtain ⟨pair, -, rfl⟩ := List.mem_map.1 member
    change samlFamily.toList.isPrefixOf (samlFamily ++ version).toList = true
    rw [String.toList_append, List.isPrefixOf_iff_prefix]
    exact List.prefix_append _ _
  have name (pair : String × String) : samlName? (qualifiedElement version key pair) = some pair.1 := by
    rcases isKey with rfl | rfl <;> rfl
  rw [qualifiedElements, descendantsNamed_successElement (by decide),
    (filter_qualifiedElement version key pairs).1, inFamily, List.filterMap_map,
    ← List.filterMap_eq_map]
  refine List.filterMap_congr fun pair _ => ?_
  change (samlName? (qualifiedElement version key pair)).map _ = _
  rw [name]
  rfl

/-- Qualified attributes are given as they are, whichever key they have. -/
theorem inlineOrBlockAttributes_qualifiedElement (user version : String) {key : String}
    (isKey : key = "AttributeName" ∨ key = "Name") {pairs : List (String × String)}
    (released : ∀ pair ∈ pairs, IsReleasable pair) :
    inlineOrBlockAttributes (successElement user (pairs.map (qualifiedElement version key))) =
      AttributeBag.ofPairs pairs := by
  have noBlock : ∀ element ∈ pairs.map (qualifiedElement version key),
      element.name ≠ "attributes" := by
    intro element member
    obtain ⟨pair, -, rfl⟩ := List.mem_map.1 member
    exact show "Attribute" ≠ "attributes" by decide
  have flattened :
      flattenedPairs (successElement user (pairs.map (qualifiedElement version key))) = [] := by
    rw [flattenedPairs, descendantsNamed_successElement (by decide),
      (filter_qualifiedElement version key pairs).2]
    rfl
  have values : ∀ pair ∈ pairs,
      valuePairs pair.1 (qualifiedElement version key pair) = [pair] := by
    intro pair member
    have text : (valueElement version pair.2).text = pair.2 := by
      rw [text_valueElement, (released pair member).trimmed]
    change [(pair.1, (valueElement version pair.2).text)] = [pair]
    rw [text]
  have qualified :
      qualifiedPairs (successElement user (pairs.map (qualifiedElement version key))) = pairs := by
    rw [qualifiedPairs, qualifiedElements_successElement user version isKey, List.flatMap_map]
    exact (List.flatMap_congr values).trans (List.flatMap_singleton' pairs)
  rw [inlineOrBlockAttributes_of_no_block (child?_successElement user noBlock), flattened,
    qualified, List.nil_append]

/-- What an answer releases is read as the attributes of its user. -/
theorem readRoot_answerElement (attributesOf : Element → AttributeBag) {user : String}
    (named : trim user ≠ "") {released : List Element}
    (noFailure : ∀ element ∈ Element.withDescendants released,
      element.name ≠ "authenticationFailure") (now : Instant) :
    ∃ reply, readRoot attributesOf (answerElement user released) now = .ok reply ∧
      reply.assertion.principal =
        ⟨trim user, attributesOf (successElement user released), none⟩ := by
  have harmless : (answerElement user released).descendant? "authenticationFailure" = none := by
    rw [Element.descendant?_eq_find?, List.find?_eq_none]
    intro element member
    rw [Element.descendants_eq, answerElement, Element.withDescendants_cons,
      descendants_successElement, Element.withDescendants_nil, List.append_nil] at member
    rw [beq_iff_eq]
    rcases List.mem_cons.1 member with rfl | member
    · exact show "authenticationSuccess" ≠ "authenticationFailure" by decide
    rcases List.mem_cons.1 member with rfl | member
    · exact show "user" ≠ "authenticationFailure" by decide
    exact noFailure element member
  have success : (answerElement user released).descendant? "authenticationSuccess" =
      some (successElement user released) := by
    rw [Element.descendant?_eq]
    exact (Element.firstAmong?_cons _ _ _).trans (if_pos rfl)
  have userElement : (successElement user released).descendant? "user" =
      some (textElement "user" user) := by
    rw [Element.descendant?_eq]
    exact (Element.firstAmong?_cons _ _ _).trans (if_pos rfl)
  have userOf : userOf? (successElement user released) = some (trim user) := by
    rw [userOf?, userElement, Option.bind_some, nonemptyText?_eq_some_iff]
    exact ⟨text_textElement "user" user, named⟩
  exact ⟨_, (readRoot_eq_ok_iff attributesOf _ now _).2
    ⟨rfl, harmless, _, success, _, userOf, rfl⟩, rfl⟩

end Reading

end ServiceResponse

end SignOn
