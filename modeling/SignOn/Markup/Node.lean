import SignOn.Markup.Reference

/-
This file writes documents.
-/

namespace SignOn.Markup

/-- A document to be written has full names, and its text stands between its elements. -/
inductive Node
  | text (characters : String)
  | element (name : String) (attributes : List (String × String)) (content : List Node)
  /-- An element without content is written as one tag. -/
  | standalone (name : String) (attributes : List (String × String))
  deriving Repr, Inhabited

namespace Node

/-- Values stand in double quotes with their references written out. -/
def writeAttribute (pair : String × String) : List Char :=
  ' ' :: pair.1.toList ++ ['=', '"'] ++ escape pair.2.toList ++ ['"']

def writeTag (name : String) (attributes : List (String × String)) : List Char :=
  name.toList ++ attributes.flatMap writeAttribute

mutual

def write (node : Node) : List Char :=
  match node with
  | .text characters => escape characters.toList
  | .standalone name attributes => '<' :: writeTag name attributes ++ ['/', '>']
  | .element name attributes content =>
    '<' :: writeTag name attributes ++ '>' :: writeContent content ++
      '<' :: '/' :: name.toList ++ ['>']

def writeContent (nodes : List Node) : List Char :=
  match nodes with
  | [] => []
  | node :: others => node.write ++ writeContent others

end

end Node

end SignOn.Markup
