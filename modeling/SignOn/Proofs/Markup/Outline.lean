import SignOn.Markup.Document

/-
This file shows that the tags of a document nest in one way at most.
-/

namespace SignOn.Markup

open SignOn.Text

/-- Only an empty text has no tokens. -/
theorem scan_eq_finished_iff {characters : List Char} :
    scan characters = .finished ↔ characters = [] := by
  have notFound (cut : Option (List Char × List Char)) (toToken : List Char → Option Token) :
      foundIf cut toToken ≠ .finished := by
    unfold foundIf
    split
    · exact nofun
    · split <;> exact nofun
  constructor
  · intro finished
    unfold scan at finished
    split at finished
    case h_1 => rfl
    case h_2 others =>
      unfold scanMarkup at finished
      split at finished
      case h_1 => exact absurd finished (notFound _ _)
      case h_2 =>
        unfold scanDeclaration at finished
        split at finished
        all_goals exact absurd finished (notFound _ _)
      case h_3 => cases finished
      case h_4 => exact absurd finished (notFound _ _)
      case h_5 => exact absurd finished (notFound _ _)
    case h_3 => cases finished
  · rintro rfl
    rfl

/-- A text has these tokens up to a place in it. -/
inductive Yields : List Char → List Token → List Char → Prop
  | nil {characters : List Char} : Yields characters [] characters
  | cons {characters rest left : List Char} {token : Token} {tokens : List Token}
      (scanned : scan characters = .found token rest) (others : Yields rest tokens left) :
      Yields characters (token :: tokens) left

namespace Yields

theorem one {characters rest : List Char} {token : Token}
    (scanned : scan characters = .found token rest) : Yields characters [token] rest :=
  .cons scanned .nil

/-- The tokens of a text are those of its parts, one behind the other. -/
theorem append {characters rest left : List Char} {first second : List Token}
    (before : Yields characters first rest) (after : Yields rest second left) :
    Yields characters (first ++ second) left := by
  induction before with
  | nil => exact after
  | cons scanned _ inductionHypothesis => exact .cons scanned (inductionHypothesis after)

theorem length_le {characters left : List Char} {tokens : List Token}
    (yields : Yields characters tokens left) : left.length ≤ characters.length := by
  induction yields with
  | nil => exact Nat.le_refl _
  | cons scanned _ inductionHypothesis =>
      have := length_of_scan scanned
      omega

/-- A text that is read to its end has no other tokens. -/
theorem unique {characters : List Char} {first second : List Token}
    (yields : Yields characters first []) (again : Yields characters second []) :
    first = second := by
  generalize ended : ([] : List Char) = left at yields
  induction yields generalizing second with
  | nil =>
      subst ended
      cases again with
      | nil => rfl
      | cons scanned => cases scanned
  | cons scanned _ inductionHypothesis =>
      cases again with
      | nil => cases scanned
      | cons scannedAgain others =>
          obtain ⟨rfl, rfl⟩ := Scan.found.inj (scanned.symm.trans scannedAgain)
          rw [inductionHypothesis others ended]

end Yields

/-- A tag holds the tags between it and the closing tag that belongs to it. -/
inductive TagTree
  | node (tag : Tag) (inner : List TagTree)

def Token.IsTag : Token → Prop
  | .opening _ => True
  | .standalone _ => True
  | .closing _ => True
  | _ => False

/-- Tokens are nested when every opening tag has its closing tag behind what is nested inside. -/
inductive Nests : List Token → List TagTree → Prop
  | nil : Nests [] []
  | other {token : Token} {tokens : List Token} {trees : List TagTree} (noTag : ¬ token.IsTag)
      (others : Nests tokens trees) : Nests (token :: tokens) trees
  | standalone {content : List Char} {tag : Tag} {tokens : List Token} {trees : List TagTree}
      (read : Tag.read content = .ok tag) (others : Nests tokens trees) :
      Nests (.standalone content :: tokens) (.node tag [] :: trees)
  | element {content closing : List Char} {tag : Tag} {inside tokens : List Token}
      {inner trees : List TagTree} (read : Tag.read content = .ok tag)
      (within : Nests inside inner) (named : closingName closing = tag.name.toList)
      (others : Nests tokens trees) :
      Nests (.opening content :: (inside ++ .closing closing :: tokens)) (.node tag inner :: trees)

namespace Nests

/-- Tokens that are nested stay so one behind the other. -/
theorem append {first second : List Token} {trees others : List TagTree}
    (before : Nests first trees) (after : Nests second others) :
    Nests (first ++ second) (trees ++ others) := by
  induction before with
  | nil => exact after
  | other noTag _ inductionHypothesis => exact .other noTag inductionHypothesis
  | standalone read _ inductionHypothesis => exact .standalone read inductionHypothesis
  | element read within named _ _ inductionHypothesis =>
      simpa using Nests.element read within named inductionHypothesis

/-- What is nested before a closing tag ends at that tag, and it nests in no other way. -/
theorem unique_before {first second rest further : List Token} {trees others : List TagTree}
    {closing following : List Char} (nests : Nests first trees) (again : Nests second others)
    (same : first ++ .closing closing :: rest = second ++ .closing following :: further) :
    first = second ∧ trees = others := by
  induction nests generalizing second others closing following rest further with
  | nil =>
      cases again with
      | nil => exact ⟨rfl, rfl⟩
      | other noTag =>
          obtain ⟨rfl, -⟩ := List.cons.inj same
          exact absurd trivial noTag
      | standalone => cases same
      | element => cases same
  | other noTag _ inductionHypothesis =>
      cases again with
      | nil =>
          obtain ⟨rfl, -⟩ := List.cons.inj same
          exact absurd trivial noTag
      | other _ others =>
          obtain ⟨rfl, tails⟩ := List.cons.inj same
          obtain ⟨rfl, rfl⟩ := inductionHypothesis others tails
          exact ⟨rfl, rfl⟩
      | standalone =>
          obtain ⟨rfl, -⟩ := List.cons.inj same
          exact absurd trivial noTag
      | element =>
          obtain ⟨rfl, -⟩ := List.cons.inj same
          exact absurd trivial noTag
  | standalone read _ inductionHypothesis =>
      cases again with
      | nil => cases same
      | other noTag =>
          obtain ⟨rfl, -⟩ := List.cons.inj same
          exact absurd trivial noTag
      | standalone readAgain others =>
          obtain ⟨heads, tails⟩ := List.cons.inj same
          obtain rfl := Token.standalone.inj heads
          obtain rfl := Except.ok.inj (read.symm.trans readAgain)
          obtain ⟨rfl, rfl⟩ := inductionHypothesis others tails
          exact ⟨rfl, rfl⟩
      | element => cases same
  | element read _ _ _ innerHypothesis inductionHypothesis =>
      cases again with
      | nil => cases same
      | other noTag =>
          obtain ⟨rfl, -⟩ := List.cons.inj same
          exact absurd trivial noTag
      | standalone => cases same
      | element readAgain within _ others =>
          rw [List.cons_append, List.cons_append, List.append_assoc, List.append_assoc] at same
          obtain ⟨heads, tails⟩ := List.cons.inj same
          obtain rfl := Token.opening.inj heads
          obtain rfl := Except.ok.inj (read.symm.trans readAgain)
          obtain ⟨rfl, rfl⟩ := innerHypothesis within tails
          obtain ⟨ends, behind⟩ := List.cons.inj (List.append_cancel_left tails)
          obtain rfl := Token.closing.inj ends
          obtain ⟨rfl, rfl⟩ := inductionHypothesis others behind
          exact ⟨rfl, rfl⟩

/-- Tokens are nested in one way only. -/
theorem unique {tokens : List Token} {trees others : List TagTree} (nests : Nests tokens trees)
    (again : Nests tokens others) : trees = others :=
  (@unique_before tokens tokens [] [] trees others [] [] nests again rfl).2

end Nests

/-- The tags of a document, from its beginning to its end, nest inside of one root. -/
def Outlines (document : String) (tree : TagTree) : Prop :=
  ∃ tokens, Yields (skipByteOrderMark document.toList) tokens [] ∧ Nests tokens [tree]

/-- A document has one outline at most. -/
theorem Outlines.unique {document : String} {tree other : TagTree}
    (outlines : Outlines document tree) (again : Outlines document other) : tree = other := by
  obtain ⟨tokens, yields, nests⟩ := outlines
  obtain ⟨tokensAgain, yieldsAgain, nestsAgain⟩ := again
  obtain rfl := yields.unique yieldsAgain
  exact (List.cons.inj (nests.unique nestsAgain)).1

end SignOn.Markup
