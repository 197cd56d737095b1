/-
This file lists what can be wrong with a document.
-/

namespace SignOn.Markup

/-- The deepest nesting of elements that a document may have. -/
def depthLimit : Nat := 64

inductive Fault
  | malformed
  | badText
  | malformedAttribute
  | badAttributeValue
  | multipleRoots
  | nestedTooDeep
  | textOutsideRoot
  | unexpectedEnd
  | noRoot
  deriving DecidableEq, Repr

/--
A message says what is wrong. The byte at which a document is malformed is left out, and so is the
detail that would follow each of the first four messages in the words of whoever found the fault.
-/
def Fault.message : Fault → String
  | .malformed => "malformed XML"
  | .badText => "bad text content"
  | .malformedAttribute => "malformed attribute"
  | .badAttributeValue => "bad attribute value"
  | .multipleRoots => "multiple root elements"
  | .nestedTooDeep => "XML nesting too deep"
  | .textOutsideRoot => "text content outside of the root element"
  | .unexpectedEnd => "unexpected end of XML document"
  | .noRoot => "XML document has no root element"

end SignOn.Markup
