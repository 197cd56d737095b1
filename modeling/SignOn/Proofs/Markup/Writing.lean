import SignOn.Proofs.Markup.Progress
import SignOn.Proofs.Markup.Tag

/-
This file shows that a document is read back as the tree of elements that it was written for.
-/

namespace SignOn.Markup

open SignOn.Text

/-- The element that a tag opens, among the scopes of the elements around it. -/
def Tag.element (tag : Tag) (scopes : List Scope) (children : List Element)
    (characterData : List Char) : Element where
  name := localName tag.name
  namespaceUri := resolve? (tag.scope :: scopes) (splitName tag.name).1
  attributes := tag.plainAttributes
  children := children
  characterData := String.ofList characterData

namespace Tag

variable {tag : Tag}

/-- A tag whose keys declare nothing has an empty scope. -/
theorem scope_of_undeclared (undeclared : ∀ pair ∈ tag.attributes, declaration? pair.1 = none) :
    tag.scope = [] := by
  rw [scope, List.filterMap_eq_nil_iff]
  intro pair member
  rw [undeclared pair member]
  rfl

/-- A tag whose keys declare nothing keeps its attributes under their local names. -/
theorem plainAttributes_of_undeclared
    (undeclared : ∀ pair ∈ tag.attributes, declaration? pair.1 = none) :
    tag.plainAttributes = tag.attributes.map fun pair => (localName pair.1, pair.2) := by
  have kept : (tag.attributes.filter fun pair => (declaration? pair.1).isNone) =
      tag.attributes := by
    rw [List.filter_eq_self]
    intro pair member
    rw [undeclared pair member]
    rfl
  rw [plainAttributes, kept]

/-- The values of its attributes do not decide whether a tag keeps all of them as they are. -/
theorem keeps_of_keys (tag : Tag) (keys : List String)
    (listed : tag.attributes.map Prod.fst = keys)
    (short : ∀ key ∈ keys, declaration? key = none ∧ localName key = key) :
    tag.scope = [] ∧ tag.plainAttributes = tag.attributes := by
  have plain : ∀ pair ∈ tag.attributes, declaration? pair.1 = none ∧ localName pair.1 = pair.1 :=
    fun pair member => short pair.1 (listed ▸ List.mem_map_of_mem member)
  have same : ∀ pair ∈ tag.attributes, (localName pair.1, pair.2) = id pair :=
    fun pair member => Prod.ext (plain pair member).2 rfl
  refine ⟨scope_of_undeclared fun pair member => (plain pair member).1, ?_⟩
  rw [plainAttributes_of_undeclared fun pair member => (plain pair member).1,
    List.map_congr_left same, List.map_id]

end Tag

namespace Node

/-- Text goes on over neighbouring nodes of text, and each run loses the spaces around it. -/
def characterData (run : List Char) : List Node → List Char
  | [] => strip isSpace run
  | .text characters :: others => characterData (run ++ characters.toList) others
  | .element _ _ _ :: others => strip isSpace run ++ characterData [] others
  | .standalone _ _ :: others => strip isSpace run ++ characterData [] others

mutual

/-- A node stands for an element, unless it is text. -/
def element? (scopes : List Scope) (node : Node) : Option Element :=
  match node with
  | .text _ => none
  | .standalone name attributes => some (Tag.element ⟨name, attributes⟩ scopes [] [])
  | .element name attributes content =>
    some (Tag.element ⟨name, attributes⟩ scopes
      (elements (Tag.scope ⟨name, attributes⟩ :: scopes) content) (characterData [] content))

/-- The elements that a list of nodes stands for. -/
def elements (scopes : List Scope) (nodes : List Node) : List Element :=
  match nodes with
  | [] => []
  | node :: others => (node.element? scopes).toList ++ elements scopes others

end

mutual

/-- A node can be written when its tags can and none of them opens below the depth limit. -/
def IsWritable (depth : Nat) (node : Node) : Prop :=
  match node with
  | .text _ => True
  | .standalone name attributes => depth < depthLimit ∧ Tag.IsWritable ⟨name, attributes⟩
  | .element name attributes content =>
    depth < depthLimit ∧ Tag.IsWritable ⟨name, attributes⟩ ∧ AreWritable (depth + 1) content

def AreWritable (depth : Nat) (nodes : List Node) : Prop :=
  match nodes with
  | [] => True
  | node :: others => node.IsWritable depth ∧ AreWritable depth others

end

mutual

/-- Something is true of every element of a node, by its depth, its tag and its content. -/
def Every (isTrue : Nat → Tag → List Node → Prop) (depth : Nat) (node : Node) : Prop :=
  match node with
  | .text _ => True
  | .standalone name attributes => isTrue depth ⟨name, attributes⟩ []
  | .element name attributes content =>
    isTrue depth ⟨name, attributes⟩ content ∧ EveryAmong isTrue (depth + 1) content

def EveryAmong (isTrue : Nat → Tag → List Node → Prop) (depth : Nat) (nodes : List Node) : Prop :=
  match nodes with
  | [] => True
  | node :: others => node.Every isTrue depth ∧ EveryAmong isTrue depth others

end

/-- An element can be read back when its tag can and it does not open below the depth limit. -/
def IsLegibleAt (depth : Nat) (tag : Tag) (_content : List Node) : Prop :=
  depth < depthLimit ∧ tag.IsLegible

mutual

/-- In a node that can be written every element can be read back. -/
theorem IsWritable.every {node : Node} {depth : Nat} (writable : node.IsWritable depth) :
    node.Every IsLegibleAt depth := by
  match node with
  | .text characters => trivial
  | .standalone name attributes => exact ⟨writable.1, writable.2.isLegible⟩
  | .element name attributes content =>
      exact ⟨⟨writable.1, writable.2.1.isLegible⟩, AreWritable.every writable.2.2⟩

/-- In nodes that can be written every element can be read back. -/
theorem AreWritable.every {nodes : List Node} {depth : Nat} (writable : AreWritable depth nodes) :
    EveryAmong IsLegibleAt depth nodes := by
  match nodes with
  | [] => trivial
  | node :: others => exact ⟨writable.1.every, AreWritable.every writable.2⟩

end

mutual

theorem Every.imp {first second : Nat → Tag → List Node → Prop}
    (implies : ∀ depth tag content, first depth tag content → second depth tag content)
    {node : Node} {depth : Nat} (every : node.Every first depth) : node.Every second depth := by
  match node with
  | .text characters => trivial
  | .standalone name attributes => exact implies _ _ _ every
  | .element name attributes content =>
      exact ⟨implies _ _ _ every.1, EveryAmong.imp implies every.2⟩

theorem EveryAmong.imp {first second : Nat → Tag → List Node → Prop}
    (implies : ∀ depth tag content, first depth tag content → second depth tag content)
    {nodes : List Node} {depth : Nat} (every : EveryAmong first depth nodes) :
    EveryAmong second depth nodes := by
  match nodes with
  | [] => trivial
  | node :: others => exact ⟨every.1.imp implies, EveryAmong.imp implies every.2⟩

end

end Node

/-- What an open element holds once elements and text have been read inside of it. -/
def OpenElement.hold (element : OpenElement) (children : List Element)
    (characters : List Char) : OpenElement :=
  { element with
    newestFirst := children.reverse ++ element.newestFirst
    characterData := element.characterData ++ String.ofList characters }

namespace OpenElement

@[simp] theorem scope_hold (element : OpenElement) (children : List Element)
    (characters : List Char) : (element.hold children characters).scope = element.scope := rfl

theorem hold_nil (element : OpenElement) : element.hold [] [] = element := by
  simp [hold]

/-- What is read later stands behind what was read earlier. -/
theorem hold_hold (element : OpenElement) (earlier later : List Element)
    (first second : List Char) :
    (element.hold earlier first).hold later second =
      element.hold (earlier ++ later) (first ++ second) := by
  simp [hold, String.append_assoc]

/-- An open element is closed as the element of its tag, with all that it holds. -/
theorem close_hold_ofTag (enclosing : List OpenElement) (tag : Tag) (children : List Element)
    (characters : List Char) :
    ((ofTag enclosing tag).hold children characters).close =
      tag.element (enclosing.map (·.scope)) children characters := by
  simp [hold, ofTag, close, Tag.element, localName]

end OpenElement

theorem Progress.attach_cons (element : Element) (parent : OpenElement)
    (outer : List OpenElement) :
    attach element (parent :: outer) = ⟨parent.hold [element] [] :: outer, none⟩ := by
  simp [attach, OpenElement.hold]

namespace Node

/-- Only text stands for no element. -/
theorem exists_text_of_element? {node : Node} {scopes : List Scope}
    (stands : node.element? scopes = none) : ∃ characters, node = .text characters := by
  cases node with
  | text characters => exact ⟨characters, rfl⟩
  | standalone name attributes => simp [element?] at stands
  | element name attributes content => simp [element?] at stands

/-- What is written for an element begins with an opening mark. -/
theorem exists_write_of_element? {node : Node} {scopes : List Scope} {element : Element}
    (stands : node.element? scopes = some element) : ∃ tail, node.write = '<' :: tail := by
  cases node with
  | text characters => simp [element?] at stands
  | standalone name attributes => exact ⟨_, by rw [write, List.cons_append]⟩
  | element name attributes content => exact ⟨_, by rw [write]; simp only [List.cons_append]; rfl⟩

/-- An element ends a run of text. -/
theorem characterData_of_element? {node : Node} {scopes : List Scope} {element : Element}
    (stands : node.element? scopes = some element) (run : List Char) (others : List Node) :
    characterData run (node :: others) = strip isSpace run ++ characterData [] others := by
  cases node with
  | text characters => simp [element?] at stands
  | standalone name attributes => rw [characterData]
  | element name attributes content => rw [characterData]

section Items

variable {Item : Type} {node : Item → Node} {items : List Item}

theorem elements_map {element : Item → Element} {scopes : List Scope}
    (stands : ∀ item ∈ items, (node item).element? scopes = some (element item)) :
    elements scopes (items.map node) = items.map element := by
  induction items with
  | nil => rw [List.map_nil, List.map_nil, elements]
  | cons item others inductionHypothesis =>
      rw [List.map_cons, List.map_cons, elements, stands item List.mem_cons_self,
        inductionHypothesis fun other member => stands other (List.mem_cons_of_mem item member)]
      rfl

/-- Elements alone have no text between them. -/
theorem characterData_map {element : Item → Element} {scopes : List Scope}
    (stands : ∀ item ∈ items, (node item).element? scopes = some (element item)) :
    characterData [] (items.map node) = [] := by
  induction items with
  | nil => rw [List.map_nil, characterData]; rfl
  | cons item others inductionHypothesis =>
      rw [List.map_cons, characterData_of_element? (stands item List.mem_cons_self),
        inductionHypothesis fun other member => stands other (List.mem_cons_of_mem item member)]
      rfl

/-- Items can be written when each of them can. -/
theorem areWritable_map {depth : Nat} (each : ∀ item ∈ items, (node item).IsWritable depth) :
    AreWritable depth (items.map node) := by
  induction items with
  | nil => rw [List.map_nil, AreWritable]; trivial
  | cons item others inductionHypothesis =>
      rw [List.map_cons, AreWritable]
      exact ⟨each item List.mem_cons_self,
        inductionHypothesis fun other member => each other (List.mem_cons_of_mem item member)⟩

end Items

end Node

variable {innermost : OpenElement} {outer enclosing : List OpenElement}

/-- A run of text goes on to the next opening mark. -/
theorem scan_of_text {run : List Char} (nonempty : run ≠ []) (noMark : '<' ∉ run)
    (rest : List Char) :
    scan (run ++ '<' :: rest) = .found (.text (strip isSpace run)) ('<' :: rest) := by
  have within := bne_of_not_mem noMark
  unfold scan
  split
  case h_1 none => simp at none
  case h_2 tail marked =>
    cases run with
    | nil => exact absurd rfl nonempty
    | cons first others =>
        obtain ⟨rfl, -⟩ := List.cons.inj marked
        exact absurd List.mem_cons_self noMark
  case h_3 =>
    rw [List.takeWhile_append_of_pos within, List.dropWhile_append_of_pos within]
    simp

/-- A run of text joins what the innermost element holds. -/
theorem readFrom_run (run rest : List Char) :
    readFrom ⟨innermost :: outer, none⟩ (escape run ++ '<' :: rest) =
      readFrom ⟨innermost.hold [] (strip isSpace run) :: outer, none⟩ ('<' :: rest) := by
  cases run with
  | nil =>
      change readFrom ⟨innermost :: outer, none⟩ ('<' :: rest) =
        readFrom ⟨innermost.hold [] [] :: outer, none⟩ _
      rw [OpenElement.hold_nil]
  | cons character others =>
      have nonempty : escape (character :: others) ≠ [] := by
        rw [escape_cons]
        exact List.append_ne_nil_of_left_ne_nil (escapeCharacter_ne_nil character) _
      refine readFrom_of_scan (scan_of_text nonempty (not_mem_escape (by decide) _) rest) ?_
      simp only [Progress.step, Progress.addText, strip_isSpace_escape, unescape?_escape]
      rfl

/-- A tag that is written is entered as it was. -/
theorem enter_writeTag {tag : Tag} (legible : tag.IsLegible)
    (shallow : enclosing.length < depthLimit) :
    Progress.enter ⟨enclosing, none⟩ (Node.writeTag tag.name tag.attributes) =
      .ok (.ofTag enclosing tag) :=
  Progress.enter_of_shallow shallow (Tag.read_writeTag legible)

/-- An element without content is attached at once. -/
theorem readFrom_standalone {tag : Tag} (legible : tag.IsLegible)
    (shallow : enclosing.length < depthLimit) (rest : List Char) :
    readFrom ⟨enclosing, none⟩
        ('<' :: (Node.writeTag tag.name tag.attributes ++ '/' :: '>' :: rest)) =
      readFrom (Progress.attach (tag.element (enclosing.map (·.scope)) [] []) enclosing) rest := by
  refine readFrom_of_scan (scan_standalone legible rest) ?_
  rw [Progress.step, enter_writeTag legible shallow, ← OpenElement.close_hold_ofTag,
    OpenElement.hold_nil]

/-- Reading on behind an opening tag goes on inside of its element. -/
theorem readFrom_opening {tag : Tag} (legible : tag.IsLegible)
    (shallow : enclosing.length < depthLimit) (rest : List Char) :
    readFrom ⟨enclosing, none⟩ ('<' :: (Node.writeTag tag.name tag.attributes ++ '>' :: rest)) =
      readFrom ⟨.ofTag enclosing tag :: enclosing, none⟩ rest := by
  refine readFrom_of_scan (scan_opening legible rest) ?_
  rw [Progress.step, enter_writeTag legible shallow]

/-- Reading on behind a closing tag goes on outside of its element. -/
theorem readFrom_closing {name : String} (named : isLegibleName name = true)
    (opened : innermost.tagName = name) (rest : List Char) :
    readFrom ⟨innermost :: outer, none⟩ ('<' :: '/' :: (name.toList ++ '>' :: rest)) =
      readFrom (Progress.attach innermost.close outer) rest := by
  refine readFrom_of_scan (scan_closing named rest) ?_
  have named : closingName name.toList = innermost.tagName.toList := by
    rw [closingName_of_isLegibleName named, opened]
  exact if_pos named

mutual

/-- An element that is read where it was written is attached to what encloses it. -/
theorem readFrom_write {node : Node} {element : Element} (enclosing : List OpenElement)
    (legible : node.Every Node.IsLegibleAt enclosing.length)
    (stands : node.element? (enclosing.map (·.scope)) = some element) (rest : List Char) :
    readFrom ⟨enclosing, none⟩ (node.write ++ rest) =
      readFrom (Progress.attach element enclosing) rest := by
  match node with
  | .text characters => simp [Node.element?] at stands
  | .standalone name attributes =>
      obtain ⟨shallow, tagLegible⟩ := legible
      obtain rfl := Option.some.inj stands
      have shape : (Node.standalone name attributes).write ++ rest =
          '<' :: (Node.writeTag name attributes ++ '/' :: '>' :: rest) := by
        simp [Node.write]
      rw [shape]
      exact readFrom_standalone tagLegible shallow rest
  | .element name attributes content =>
      obtain ⟨⟨shallow, tagLegible⟩, contentLegible⟩ := legible
      obtain rfl := Option.some.inj stands
      have shape : (Node.element name attributes content).write ++ rest =
          '<' :: (Node.writeTag name attributes ++ '>' ::
            (escape [] ++ Node.writeContent content ++ '<' ::
              ('/' :: (name.toList ++ '>' :: rest)))) := by
        simp [Node.write, escape]
      rw [shape, readFrom_opening tagLegible shallow, readFrom_writeContent contentLegible,
        readFrom_closing tagLegible.named rfl, OpenElement.close_hold_ofTag]
      rfl

/-- Content that is read where it was written joins what the innermost element holds. -/
theorem readFrom_writeContent {nodes : List Node} {innermost : OpenElement}
    {outer : List OpenElement} (legible : Node.EveryAmong Node.IsLegibleAt (outer.length + 1) nodes)
    (run rest : List Char) :
    readFrom ⟨innermost :: outer, none⟩ (escape run ++ Node.writeContent nodes ++ '<' :: rest) =
      readFrom
        ⟨innermost.hold (Node.elements (innermost.scope :: outer.map (·.scope)) nodes)
          (Node.characterData run nodes) :: outer, none⟩ ('<' :: rest) := by
  match nodes with
  | [] =>
      rw [Node.writeContent, List.append_nil, readFrom_run, Node.elements, Node.characterData]
  | node :: others =>
      cases stands : node.element? (innermost.scope :: outer.map (·.scope)) with
      | none =>
          obtain ⟨characters, rfl⟩ := Node.exists_text_of_element? stands
          have shape : escape run ++ Node.writeContent (.text characters :: others) ++ '<' :: rest =
              escape (run ++ characters.toList) ++ Node.writeContent others ++ '<' :: rest := by
            simp [Node.writeContent, Node.write, escape_append]
          rw [shape, readFrom_writeContent legible.2, Node.elements, stands, Node.characterData]
          rfl
      | some element =>
          obtain ⟨tail, written⟩ := Node.exists_write_of_element? stands
          have shape : escape run ++ Node.writeContent (node :: others) ++ '<' :: rest =
              escape run ++ '<' :: (tail ++ Node.writeContent others ++ '<' :: rest) := by
            simp [Node.writeContent, written]
          have onward : '<' :: (tail ++ Node.writeContent others ++ '<' :: rest) =
              node.write ++ (escape [] ++ Node.writeContent others ++ '<' :: rest) := by
            simp [written, escape]
          rw [shape, readFrom_run, onward,
            readFrom_write (innermost.hold [] (strip isSpace run) :: outer) legible.1 stands,
            Progress.attach_cons, readFrom_writeContent legible.2, OpenElement.hold_hold,
            OpenElement.hold_hold, Node.elements, stands, Node.characterData_of_element? stands]
          simp

end

/-- A document with legible tags is read back as the element that it was written for. -/
theorem Element.parse_write_of_every {node : Node} {root : Element}
    (legible : node.Every Node.IsLegibleAt 0) (stands : node.element? [] = some root) :
    Element.parse (String.ofList node.write) = .ok root := by
  obtain ⟨tail, written⟩ := Node.exists_write_of_element? stands
  have read := readFrom_write [] legible stands []
  have unmarked : skipByteOrderMark node.write = node.write := by
    rw [written]
    rfl
  rw [Element.parse, Element.read, String.toList_ofList, unmarked]
  rw [List.append_nil] at read
  rw [Progress.start, read, Progress.attach, readFrom]
  rfl

/-- A document is read back as the element that it was written for. -/
theorem Element.parse_write {node : Node} {root : Element} (writable : node.IsWritable 0)
    (stands : node.element? [] = some root) :
    Element.parse (String.ofList node.write) = .ok root :=
  Element.parse_write_of_every writable.every stands

end SignOn.Markup
