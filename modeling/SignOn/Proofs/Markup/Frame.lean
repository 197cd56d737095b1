import SignOn.Proofs.Markup.Search

/-
This file puts an element into the place that frames leave open, and shows what a search through
the whole finds before, inside and behind that place.
-/

namespace SignOn.Markup

/-- A frame is an element with one of its children left open. -/
structure Frame where
  name : String
  namespaceUri : Option String
  attributes : List (String × String)
  before : List Element
  after : List Element
  characterData : String

def Frame.fill (frame : Frame) (inner : Element) : Element where
  name := frame.name
  namespaceUri := frame.namespaceUri
  attributes := frame.attributes
  children := frame.before ++ inner :: frame.after
  characterData := frame.characterData

/-- Frames stand around a place from the outermost one to the innermost one. -/
def enclose (frames : List Frame) (element : Element) : Element :=
  frames.foldr Frame.fill element

/-- What a search meets before it goes into the children of the enclosed element. -/
def opened? : List Frame → Element → String → Option Element
  | [], _, _ => none
  | outer :: inner, element, name =>
    match Element.firstAmong? outer.before name with
    | some found => some found
    | none =>
      if (enclose inner element).name = name then some (enclose inner element)
      else opened? inner element name

/-- What a search meets after it has come out of the enclosed element. -/
def following : List Frame → List Element
  | [] => []
  | outer :: inner => following inner ++ outer.after

@[simp] theorem enclose_nil (element : Element) : enclose [] element = element := rfl

@[simp] theorem enclose_cons (outer : Frame) (inner : List Frame) (element : Element) :
    enclose (outer :: inner) element = outer.fill (enclose inner element) := rfl

/-- A search finds what opens first, then what the enclosed element holds, then what follows. -/
theorem descendant?_enclose (frames : List Frame) (element : Element) (name : String) :
    (enclose frames element).descendant? name =
      (opened? frames element name).or
        (Element.firstAmong? (element.children ++ following frames) name) := by
  induction frames with
  | nil => simp [Element.descendant?_eq, opened?, following]
  | cons outer inner inductionHypothesis =>
      rw [enclose_cons, Element.descendant?_eq, Frame.fill, Element.firstAmong?_append,
        Element.firstAmong?_cons, inductionHypothesis, opened?, following]
      cases Element.firstAmong? outer.before name with
      | some found => rfl
      | none =>
          simp only [Option.none_or]
          split
          · rfl
          · rw [Option.or_assoc, ← Element.firstAmong?_append, List.append_assoc]

namespace Element

def withChildren (element : Element) (children : List Element) : Element :=
  { element with children := children }

@[simp] theorem withChildren_children (element : Element) :
    element.withChildren element.children = element := by
  cases element
  rfl

def bare (element : Element) : Element := element.withChildren []

/-- The outline of an element shows its children without what they hold. -/
def outline (element : Element) : Element :=
  element.withChildren (element.children.map bare)

end Element

/-- The children of an enclosed element do not matter to what stands around it. -/
theorem bare_enclose (frames : List Frame) (element : Element) (first second : List Element) :
    (enclose frames (element.withChildren first)).bare =
      (enclose frames (element.withChildren second)).bare := by
  cases frames <;> rfl

/-- The children of an enclosed element do not matter to the outermost name. -/
theorem name_enclose (frames : List Frame) (element : Element) (first second : List Element) :
    (enclose frames (element.withChildren first)).name =
      (enclose frames (element.withChildren second)).name := by
  cases frames <;> rfl

/-- Behind a frame the outline does not show what the enclosed element holds. -/
theorem outline_enclose {frames : List Frame} (enclosed : frames ≠ []) (element : Element)
    (first second : List Element) :
    (enclose frames (element.withChildren first)).outline =
      (enclose frames (element.withChildren second)).outline := by
  cases frames with
  | nil => exact absurd rfl enclosed
  | cons outer inner =>
      have same := bare_enclose inner element first second
      simp only [enclose_cons, Frame.fill, Element.outline, List.map_append, List.map_cons, same]
      rfl

/-- What opens before the place looks the same whatever the enclosed element holds. -/
theorem outline_opened? (frames : List Frame) (element : Element) {name : String}
    (other : element.name ≠ name) (first second : List Element) :
    (opened? frames (element.withChildren first) name).map Element.outline =
      (opened? frames (element.withChildren second) name).map Element.outline := by
  induction frames with
  | nil => rfl
  | cons outer inner inductionHypothesis =>
      rw [opened?, opened?]
      cases Element.firstAmong? outer.before name with
      | some found => rfl
      | none =>
          simp only [name_enclose inner element first second]
          split
          · rename_i found
            have enclosed : inner ≠ [] := by
              rintro rfl
              exact other found
            rw [Option.map_some, Option.map_some, outline_enclose enclosed]
          · exact inductionHypothesis

/-- Every frame but the outermost one opens before the place. -/
theorem isSome_opened? {frames : List Frame} {frame : Frame} (inside : frame ∈ frames.tail)
    (element : Element) : (opened? frames element frame.name).isSome = true := by
  induction frames with
  | nil => cases inside
  | cons outer inner inductionHypothesis =>
      rw [opened?]
      cases Element.firstAmong? outer.before frame.name with
      | some found => rfl
      | none =>
          simp only
          split
          · rfl
          · rename_i different
            cases inner with
            | nil => cases inside
            | cons next deeper =>
                rcases List.mem_cons.1 inside with same | further
                · exact absurd (congrArg Frame.name same.symm) different
                · exact inductionHypothesis further

/-- The frames inside the first element of a name, when the place is reached through that element. -/
def innerFrames? : List Frame → String → Option (List Frame)
  | [], _ => none
  | outer :: inner, name =>
    if (Element.firstAmong? outer.before name).isSome then none
    else if inner.head?.map Frame.name = some name then some inner
    else innerFrames? inner name

/-- A search for the name of a frame that the place is reached through meets that frame. -/
theorem opened?_of_innerFrames? {frames within : List Frame} {name : String}
    (reached : innerFrames? frames name = some within) (element : Element) :
    opened? frames element name = some (enclose within element) := by
  induction frames with
  | nil => simp [innerFrames?] at reached
  | cons outer inner inductionHypothesis =>
      rw [innerFrames?] at reached
      split at reached
      · simp at reached
      · rename_i unopened
        have unopened : Element.firstAmong? outer.before name = none := by simpa using unopened
        rw [opened?, unopened]
        cases inner with
        | nil => simp [innerFrames?] at reached
        | cons next deeper =>
            by_cases same : next.name = name
            · have whole : next :: deeper = within := by simpa [same] using reached
              rw [← whole]
              exact if_pos same
            · have deeper : innerFrames? (next :: deeper) name = some within := by
                simpa [same] using reached
              exact (if_neg same).trans (inductionHypothesis deeper)

/-- When the place is not reached through the first element of a name, that element stands apart. -/
theorem opened?_of_not_reached {frames : List Frame} {name : String} {element : Element}
    (unreached : innerFrames? frames name = none) (other : element.name ≠ name)
    (first second : List Element) :
    opened? frames (element.withChildren first) name =
      opened? frames (element.withChildren second) name := by
  induction frames with
  | nil => rfl
  | cons outer inner inductionHypothesis =>
      rw [innerFrames?] at unreached
      rw [opened?, opened?]
      cases before : Element.firstAmong? outer.before name with
      | some found => rfl
      | none =>
          rw [before] at unreached
          cases inner with
          | nil => simp [opened?, Element.withChildren, other]
          | cons next deeper =>
              have different : next.name ≠ name := by
                rintro same
                simp [same] at unreached
              have deeper : innerFrames? (next :: deeper) name = none := by
                simpa [different] using unreached
              have step := inductionHypothesis deeper
              exact (if_neg different).trans (step.trans (if_neg different).symm)

end SignOn.Markup
