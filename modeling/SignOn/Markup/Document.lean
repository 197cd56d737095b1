import SignOn.Markup.Element
import SignOn.Markup.Tag

/-
This file reads a document into its root element, one token after the other.
-/

namespace SignOn.Markup

open SignOn.Text

/-- The namespaces that one tag declares, each for a prefix or for names without one. -/
abbrev Scope := List (Option String × String)

/-- An element whose closing tag has not come yet holds its children newest first. -/
structure OpenElement where
  tagName : String
  scope : Scope
  name : String
  namespaceUri : Option String
  attributes : List (String × String)
  newestFirst : List Element
  characterData : String
  deriving Repr

/-- The elements that are open, innermost first, and the root once it is closed. -/
structure Progress where
  enclosing : List OpenElement
  root : Option Element
  deriving Repr

/-- An attribute declares a namespace when its name is the reserved word, alone or before a colon. -/
def declaration? (attributeName : String) : Option (Option String) :=
  if attributeName = "xmlns" then some none
  else
    match splitName attributeName with
    | (some "xmlns", declared) => some (some declared)
    | _ => none

/-- The declarations of a tag in document order. -/
def Tag.scope (tag : Tag) : Scope :=
  tag.attributes.filterMap fun pair => (declaration? pair.1).map (·, pair.2)

/-- The other attributes of a tag under the local parts of their names. -/
def Tag.plainAttributes (tag : Tag) : List (String × String) :=
  (tag.attributes.filter fun pair => (declaration? pair.1).isNone).map
    fun pair => (localName pair.1, pair.2)

/-- The nearest tag that declares a prefix binds it. -/
def resolve? (scopes : List Scope) (declared : Option String) : Option String :=
  scopes.findSome? (·.lookup declared)

namespace OpenElement

def ofTag (enclosing : List OpenElement) (tag : Tag) : OpenElement :=
  let (before, behind) := splitName tag.name
  { tagName := tag.name
    scope := tag.scope
    name := behind
    namespaceUri := resolve? (tag.scope :: enclosing.map (·.scope)) before
    attributes := tag.plainAttributes
    newestFirst := []
    characterData := "" }

def close (element : OpenElement) : Element where
  name := element.name
  namespaceUri := element.namespaceUri
  attributes := element.attributes
  children := element.newestFirst.reverse
  characterData := element.characterData

def append (element : OpenElement) (characters : List Char) : OpenElement :=
  { element with characterData := element.characterData ++ String.ofList characters }

end OpenElement

/-- Spaces at the end of a closing tag do not count, unless there is nothing else in it. -/
def closingName (content : List Char) : List Char :=
  if content.all isSpace then content else dropTrailing isSpace content

namespace Progress

def start : Progress := ⟨[], none⟩

/-- A closed element is a child of the innermost open one, or the root. -/
def attach (element : Element) : List OpenElement → Progress
  | [] => ⟨[], some element⟩
  | parent :: outer => ⟨{ parent with newestFirst := element :: parent.newestFirst } :: outer, none⟩

/-- Only one root may be opened, and no element below the depth limit. -/
def enter (progress : Progress) (content : List Char) : Except Fault OpenElement :=
  if progress.root.isSome then .error .multipleRoots
  else if depthLimit ≤ progress.enclosing.length then .error .nestedTooDeep
  else
    match Tag.read content with
    | .error fault => .error fault
    | .ok tag => .ok (.ofTag progress.enclosing tag)

/-- Text counts inside elements, and outside of them only blanks are allowed. -/
def addText (progress : Progress) (written : List Char) : Except Fault Progress :=
  match unescape? written with
  | none => .error .badText
  | some characters =>
    match progress.enclosing with
    | [] => if characters.all isBlank then .ok progress else .error .textOutsideRoot
    | innermost :: outer => .ok ⟨innermost.append characters :: outer, progress.root⟩

/-- A closing tag must name the innermost open element. -/
def leave (progress : Progress) (content : List Char) : Except Fault Progress :=
  match progress.enclosing with
  | [] => .error .malformed
  | innermost :: outer =>
    if closingName content = innermost.tagName.toList then .ok (attach innermost.close outer)
    else .error .malformed

def step (progress : Progress) : Token → Except Fault Progress
  | .text written => progress.addText written
  | .opening content =>
    match progress.enter content with
    | .error fault => .error fault
    | .ok element => .ok ⟨element :: progress.enclosing, none⟩
  | .standalone content =>
    match progress.enter content with
    | .error fault => .error fault
    | .ok element => .ok (attach element.close progress.enclosing)
  | .closing content => progress.leave content
  | .literal characters =>
    match progress.enclosing with
    | [] => .ok progress
    | innermost :: outer => .ok ⟨innermost.append characters :: outer, progress.root⟩
  | .remark => .ok progress

/-- A document is complete when nothing is open and there was a root. -/
def finish (progress : Progress) : Except Fault Element :=
  if progress.enclosing.isEmpty then
    match progress.root with
    | none => .error .noRoot
    | some root => .ok root
  else .error .unexpectedEnd

end Progress

/-- Tokens are read from the left, and the first fault met is reported. -/
def readFrom (progress : Progress) (characters : List Char) : Except Fault Element :=
  match _scanned : scan characters with
  | .finished => progress.finish
  | .broken => .error .malformed
  | .found token rest =>
    match progress.step token with
    | .error fault => .error fault
    | .ok next => readFrom next rest
termination_by characters.length
decreasing_by exact length_of_scan (by assumption)

/-- A byte order mark before the document does not belong to it. -/
def skipByteOrderMark : List Char → List Char
  | '\uFEFF' :: rest => rest
  | characters => characters

def Element.read (characters : List Char) : Except Fault Element :=
  readFrom .start (skipByteOrderMark characters)

def Element.parse (document : String) : Except Fault Element :=
  Element.read document.toList

end SignOn.Markup
