import SignOn.Proofs.Markup.Search

/-
This file gives every element below another one a position of its own, and shows that both searches of
a tree find the elements of a name at their positions, in the order in which a document opens them.
-/

namespace SignOn.Markup.Element

/--
A position tells which child to enter at each level, from the outside in. Positions are in document
order when they are in the order of dictionaries: what holds an element comes before it, and what
stands below an earlier child before what stands below a later one.
-/
abbrev Position := List Nat

/-- The element at a position, which may be missing. The empty position is that of the element itself. -/
def elementAt? (element : Element) : Position → Option Element
  | [] => some element
  | index :: deeper => (element.children[index]?).bind (·.elementAt? deeper)

/-- The element at a position that begins with an index among elements. -/
def atAmong? (elements : List Element) : Position → Option Element
  | [] => none
  | index :: deeper => (elements[index]?).bind (·.elementAt? deeper)

/-- The position that is meant when one more element stands in front. -/
def moved : Position → Position
  | [] => []
  | index :: deeper => (index + 1) :: deeper

mutual

/-- The positions below an element, in the order of a walk that enters each child when it meets it. -/
def positions (element : Element) : List Position :=
  match element with
  | ⟨_, _, _, children, _⟩ => positionsAmong children

def positionsAmong (elements : List Element) : List Position :=
  match elements with
  | [] => []
  | element :: others =>
    [0] :: (element.positions.map (0 :: ·) ++ (positionsAmong others).map moved)

end

/--
Positions count up elements when they are in document order, none is missing, and the elements at them
are those listed.
-/
structure CountsUp (find? : Position → Option Element) (positions : List Position)
    (elements : List Element) : Prop where
  ordered : positions.Pairwise (· < ·)
  complete : ∀ position, position ∈ positions ↔ position ≠ [] ∧ (find? position).isSome = true
  listed : positions.map find? = elements.map some

/-- The positions below an element at which the elements of a name stand, all of them and in order. -/
structure Locates (element : Element) (name : String) (positions : List Position) : Prop where
  ordered : positions.Pairwise (· < ·)
  complete : ∀ position, position ∈ positions ↔
    position ≠ [] ∧ ∃ found, element.elementAt? position = some found ∧ found.name = name

theorem elementAt?_eq_atAmong? (element : Element) {position : Position} (inside : position ≠ []) :
    element.elementAt? position = atAmong? element.children position := by
  cases position with
  | nil => exact absurd rfl inside
  | cons index deeper => rfl

theorem moved_eq_cons_iff {position deeper : Position} {index : Nat} :
    moved position = index :: deeper ↔ ∃ before, index = before + 1 ∧ position = before :: deeper := by
  cases position with
  | nil => simp [moved]
  | cons first below =>
      rw [moved, List.cons_eq_cons]
      constructor
      · rintro ⟨rfl, rfl⟩
        exact ⟨first, rfl, rfl⟩
      · rintro ⟨before, rfl, same⟩
        cases same
        exact ⟨rfl, rfl⟩

/-- Positions keep their order when one more element stands in front. -/
theorem moved_lt_moved {first second : Position} (inOrder : first < second) :
    moved first < moved second := by
  cases first with
  | nil =>
      cases second with
      | nil => exact inOrder
      | cons index deeper => exact List.nil_lt_cons _ _
  | cons index deeper =>
      cases second with
      | nil => exact absurd inOrder (List.not_lt_nil _)
      | cons other below =>
          rw [moved, moved, List.cons_lt_cons_iff]
          simpa using List.cons_lt_cons_iff.1 inOrder

/-- What is meant by a position stays the same when one more element stands in front. -/
theorem atAmong?_moved (element : Element) (others : List Element) (position : Position) :
    atAmong? (element :: others) (moved position) = atAmong? others position := by
  cases position with
  | nil => rfl
  | cons index deeper => rw [moved, atAmong?, atAmong?, List.getElem?_cons_succ]

namespace CountsUp

variable {find? : Position → Option Element} {positions : List Position} {elements : List Element}

/-- Positions among the children of an element count up below the element. -/
theorem of_children (element : Element)
    (counts : CountsUp (atAmong? element.children) positions elements) :
    CountsUp element.elementAt? positions elements := by
  have same (position : Position) (inside : position ≠ []) := element.elementAt?_eq_atAmong? inside
  refine ⟨counts.ordered, fun position => ?_, ?_⟩
  · rw [counts.complete position]
    exact and_congr_right fun inside => by rw [same position inside]
  · rw [← counts.listed]
    exact List.map_congr_left fun position member =>
      same position ((counts.complete position).1 member).1

/-- An element in front comes first, then what it holds, and then the others with what they hold. -/
theorem cons {element : Element} {inner : List Position} {held : List Element}
    (inside : CountsUp element.elementAt? inner held) {others : List Element}
    (behind : CountsUp (atAmong? others) positions elements) :
    CountsUp (atAmong? (element :: others))
      ([0] :: (inner.map (0 :: ·) ++ positions.map moved)) (element :: (held ++ elements)) := by
  refine ⟨?ordered, ?complete, ?listed⟩
  case ordered =>
    refine List.pairwise_cons.2 ⟨?first, List.pairwise_append.2 ⟨?held, ?later, ?between⟩⟩
    case first =>
      intro position member
      rcases List.mem_append.1 member with isHeld | isLater
      · obtain ⟨deeper, isInner, rfl⟩ := List.mem_map.1 isHeld
        cases deeper with
        | nil => exact absurd rfl ((inside.complete []).1 isInner).1
        | cons index deeper =>
            exact List.cons_lt_cons_iff.2 (Or.inr ⟨rfl, List.nil_lt_cons _ _⟩)
      · obtain ⟨other, isOther, rfl⟩ := List.mem_map.1 isLater
        cases other with
        | nil => exact absurd rfl ((behind.complete []).1 isOther).1
        | cons index deeper => exact List.cons_lt_cons_iff.2 (Or.inl (Nat.succ_pos index))
    case held =>
      refine List.pairwise_map.2 (inside.ordered.imp fun inOrder => ?_)
      exact List.cons_lt_cons_iff.2 (Or.inr ⟨rfl, inOrder⟩)
    case later => exact List.pairwise_map.2 (behind.ordered.imp moved_lt_moved)
    case between =>
      intro earlier isEarlier later isLater
      obtain ⟨deeper, -, rfl⟩ := List.mem_map.1 isEarlier
      obtain ⟨other, isOther, rfl⟩ := List.mem_map.1 isLater
      cases other with
      | nil => exact absurd rfl ((behind.complete []).1 isOther).1
      | cons index below => exact List.cons_lt_cons_iff.2 (Or.inl (Nat.succ_pos index))
  case complete =>
    intro position
    rw [List.mem_cons, List.mem_append, List.mem_map, List.mem_map]
    cases position with
    | nil =>
        have unmoved : ∀ other ∈ positions, moved other ≠ [] := by
          intro other member
          cases other with
          | nil => exact absurd rfl ((behind.complete []).1 member).1
          | cons index deeper => simp [moved]
        simpa using unmoved
    | cons index deeper =>
        cases index with
        | zero =>
            -- What stands at an index of zero is the element in front or below it.
            change _ ↔ _ ∧ (element.elementAt? deeper).isSome = true
            have isHeld := inside.complete deeper
            by_cases isFront : deeper = []
            · subst isFront
              simp [elementAt?]
            · simpa [isFront, moved_eq_cons_iff] using isHeld
        | succ index =>
            have isLater := behind.complete (index :: deeper)
            rw [← atAmong?_moved element, moved] at isLater
            simpa [moved_eq_cons_iff] using isLater
  case listed =>
    have held : (inner.map (0 :: ·)).map (atAmong? (element :: others)) =
        inner.map element.elementAt? := by
      rw [List.map_map]
      rfl
    have later : (positions.map moved).map (atAmong? (element :: others)) =
        positions.map (atAmong? others) := by
      rw [List.map_map]
      exact List.map_congr_left fun position _ => atAmong?_moved element others position
    rw [List.map_cons, List.map_append, held, later, inside.listed, behind.listed, List.map_cons,
      List.map_append]
    rfl

end CountsUp

mutual

/-- A walk meets every element below another one once, in document order. -/
theorem positions_countsUp (element : Element) :
    CountsUp element.elementAt? element.positions element.descendants := by
  match element with
  | ⟨name, namespaceUri, attributes, children, characterData⟩ =>
      rw [positions, descendants]
      exact (positionsAmong_countsUp children).of_children _

/-- The positions among elements count up these and all below them. -/
theorem positionsAmong_countsUp (elements : List Element) :
    CountsUp (atAmong? elements) (positionsAmong elements) (withDescendants elements) := by
  match elements with
  | [] =>
      rw [positionsAmong, withDescendants_nil]
      refine ⟨.nil, fun position => ?_, rfl⟩
      cases position with
      | nil => simp
      | cons index deeper => simp [atAmong?]
  | element :: others =>
      rw [positionsAmong, withDescendants_cons]
      exact (positions_countsUp element).cons (positionsAmong_countsUp others)

end

/-- The search for all elements of a name finds them at their positions, in order. -/
theorem exists_locates (element : Element) (name : String) :
    ∃ positions, Locates element name positions ∧
      positions.map element.elementAt? = (element.descendantsNamed name).map some := by
  have counts := positions_countsUp element
  let isNamed (found : Option Element) : Bool := found.any (·.name == name)
  refine ⟨element.positions.filter (isNamed ∘ element.elementAt?),
    ⟨counts.ordered.filter _, fun position => ?_⟩, ?_⟩
  · rw [List.mem_filter, counts.complete, and_assoc, Function.comp_apply, Option.any_eq_true]
    refine and_congr_right fun _ => ⟨?_, ?_⟩
    · rintro ⟨-, found, isThere, named⟩
      exact ⟨found, isThere, beq_iff_eq.1 named⟩
    · rintro ⟨found, isThere, named⟩
      exact ⟨Option.isSome_of_mem isThere, found, isThere, beq_iff_eq.2 named⟩
  · rw [← List.filter_map, counts.listed, List.filter_map, descendantsNamed_eq_filter]
    rfl

/-- A child is not before the first element of its name. -/
theorem Locates.head_le_child {element child : Element} {name : String} {positions : List Position}
    (locates : Locates element name positions) (found : element.child? name = some child) :
    ∃ index first, element.children[index]? = some child ∧
      (∀ earlier < index, ∀ other, element.children[earlier]? = some other → other.name ≠ name) ∧
      positions.head? = some first ∧ (first = [index] ∨ first < [index]) := by
  obtain ⟨named, before, after, split, unnamed⟩ := child?_eq_some_iff.1 found
  have isThere : element.children[before.length]? = some child := by simp [split]
  have member : [before.length] ∈ positions := by
    refine (locates.complete _).2 ⟨List.cons_ne_nil _ _, child, ?_, named⟩
    rw [elementAt?, isThere]
    rfl
  cases positions with
  | nil => cases member
  | cons first others =>
      refine ⟨before.length, first, isThere, ?_, rfl, ?_⟩
      · intro earlier isBefore other isOther
        rw [split, List.getElem?_append_left isBefore] at isOther
        exact unnamed other (List.mem_of_getElem? isOther)
      · rcases List.mem_cons.1 member with same | isLater
        · exact Or.inl same.symm
        · exact Or.inr ((List.pairwise_cons.1 locates.ordered).1 _ isLater)

/--
Both searches find the elements of a name at their positions. The search for all of them lists each
one once, in document order and also inside of other matches; the search for one finds the first of
these, and nothing exactly when there is none. A child of the name is at or behind what is found.
-/
theorem searches_follow_document_order (element : Element) (name : String) :
    ∃ positions, Locates element name positions ∧
      positions.map element.elementAt? = (element.descendantsNamed name).map some ∧
      element.descendant? name = (element.descendantsNamed name).head? ∧
      (element.descendant? name = none ↔ element.descendantsNamed name = []) ∧
      element.descendant? name = positions.head?.bind element.elementAt? ∧
      ∀ child, element.child? name = some child →
        ∃ index first, element.children[index]? = some child ∧
          (∀ earlier < index, ∀ other,
            element.children[earlier]? = some other → other.name ≠ name) ∧
          positions.head? = some first ∧ (first = [index] ∨ first < [index]) := by
  obtain ⟨positions, locates, listed⟩ := element.exists_locates name
  have first := element.descendant?_eq_head? name
  refine ⟨positions, locates, listed, first, ?none, ?head, fun child found =>
    locates.head_le_child found⟩
  case none => rw [first, List.head?_eq_none_iff]
  case head =>
    have heads : positions.head?.map element.elementAt? = (element.descendant? name).map some := by
      rw [first, ← List.head?_map, ← List.head?_map, listed]
    cases foremost : positions.head? with
    | none =>
        rw [foremost] at heads
        exact Option.map_eq_none_iff.1 heads.symm
    | some position =>
        rw [foremost] at heads
        obtain ⟨found, isFirst, isThere⟩ := Option.map_eq_some_iff.1 heads.symm
        rw [isFirst, isThere]
        rfl

/-- A match inside of another match is listed behind it, and both come before a later child. -/
theorem searches_follow_document_order_into_matches :
    let named (name : String) (children : List Element) : Element := ⟨name, none, [], children, ""⟩
    let holder := named "p" [named "p" []]
    let last := named "p" []
    let root := named "r" [named "q" [holder], last]
    root.descendantsNamed "p" = [holder, named "p" [], last] ∧ root.child? "p" = some last ∧
      ∃ positions, Locates root "p" positions ∧
        positions.map root.elementAt? = [some holder, some (named "p" []), some last] ∧
        ∃ index first, root.children[index]? = some last ∧ positions.head? = some first ∧
          (first = [index] ∨ first < [index]) := by
  intro named holder last root
  have isChild : root.child? "p" = some last := rfl
  obtain ⟨positions, locates, listed, -, -, -, children⟩ := searches_follow_document_order root "p"
  obtain ⟨index, first, isThere, -, isHead, notBehind⟩ := children last isChild
  exact ⟨rfl, isChild, positions, locates, listed, index, first, isThere, isHead, notBehind⟩

end SignOn.Markup.Element
