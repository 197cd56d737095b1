import SignOn.Markup.Element

/-
This file shows that both searches of a tree go through its elements in document order.
-/

namespace SignOn.Markup.Element

@[simp] theorem firstAmong?_nil (name : String) : firstAmong? [] name = none := by
  rw [firstAmong?]

theorem firstAmong?_cons (element : Element) (others : List Element) (name : String) :
    firstAmong? (element :: others) name =
      if element.name = name then some element
      else (element.descendant? name).or (firstAmong? others name) := by
  rw [firstAmong?]
  cases element.descendant? name <;> rfl

theorem descendant?_eq (element : Element) (name : String) :
    element.descendant? name = firstAmong? element.children name := by
  cases element
  rw [descendant?]

/-- A search of two lists goes through the first one before it reaches the second. -/
theorem firstAmong?_append (before after : List Element) (name : String) :
    firstAmong? (before ++ after) name =
      (firstAmong? before name).or (firstAmong? after name) := by
  induction before with
  | nil => simp
  | cons element others inductionHypothesis =>
      rw [List.cons_append, firstAmong?_cons, firstAmong?_cons]
      split
      · rfl
      · rw [inductionHypothesis, Option.or_assoc]

theorem descendants_eq (element : Element) :
    element.descendants = withDescendants element.children := by
  cases element
  rw [descendants]

@[simp] theorem withDescendants_nil : withDescendants [] = [] := by
  rw [withDescendants]

theorem withDescendants_cons (element : Element) (others : List Element) :
    withDescendants (element :: others) =
      element :: (element.descendants ++ withDescendants others) := by
  rw [withDescendants]

theorem withDescendants_append (before after : List Element) :
    withDescendants (before ++ after) = withDescendants before ++ withDescendants after := by
  induction before with
  | nil => simp
  | cons element others inductionHypothesis =>
      rw [List.cons_append, withDescendants_cons, withDescendants_cons, inductionHypothesis,
        List.cons_append, List.append_assoc]

/-- Elements without children have nothing below them. -/
theorem withDescendants_of_leaves {elements : List Element}
    (leaves : ∀ element ∈ elements, element.children = []) : withDescendants elements = elements := by
  induction elements with
  | nil => rw [withDescendants_nil]
  | cons element others inductionHypothesis =>
      rw [withDescendants_cons, descendants_eq, leaves element List.mem_cons_self,
        withDescendants_nil, List.nil_append,
        inductionHypothesis fun other member => leaves other (List.mem_cons_of_mem element member)]

mutual

/-- The search for one element finds the first one in document order. -/
theorem descendant?_eq_find? (element : Element) (name : String) :
    element.descendant? name = element.descendants.find? (·.name == name) := by
  match element with
  | ⟨_, _, _, children, _⟩ =>
      rw [descendant?, descendants]
      exact firstAmong?_eq_find? children name

/-- A search among elements finds the first one of its name in document order. -/
theorem firstAmong?_eq_find? (elements : List Element) (name : String) :
    firstAmong? elements name = (withDescendants elements).find? (·.name == name) := by
  match elements with
  | [] => simp
  | element :: others =>
      rw [firstAmong?_cons, withDescendants_cons, List.find?_cons, List.find?_append,
        ← descendant?_eq_find? element name, ← firstAmong?_eq_find? others name]
      by_cases same : element.name = name
      · simp [same]
      · rw [if_neg same, beq_eq_false_iff_ne.mpr same]

end

mutual

/-- The search for all elements adds those in document order to what it has collected. -/
theorem collectBelow_eq (element : Element) (name : String) (newestFirst : List Element) :
    element.collectBelow name newestFirst =
      (element.descendants.filter (·.name == name)).reverse ++ newestFirst := by
  match element with
  | ⟨_, _, _, children, _⟩ =>
      rw [collectBelow, descendants]
      exact collectAmong_eq children name newestFirst

/-- All elements of a name are collected, the latest one first. -/
theorem collectAmong_eq (elements : List Element) (name : String) (newestFirst : List Element) :
    collectAmong elements name newestFirst =
      ((withDescendants elements).filter (·.name == name)).reverse ++ newestFirst := by
  match elements with
  | [] => simp [collectAmong]
  | element :: others =>
      rw [collectAmong, collectAmong_eq others name, collectBelow_eq element name,
        withDescendants_cons, List.filter_cons, List.filter_append]
      by_cases same : element.name = name <;> simp [same]

end

/-- The descendants of a name are all of that name, in document order. -/
theorem descendantsNamed_eq_filter (element : Element) (name : String) :
    element.descendantsNamed name = element.descendants.filter (·.name == name) := by
  rw [descendantsNamed, collectBelow_eq, List.append_nil, List.reverse_reverse]

/-- An element is the first of its name in a list when all others of that name stand behind it. -/
def IsFirstNamed (name : String) (elements : List Element) (found : Element) : Prop :=
  found.name = name ∧
    ∃ before after, elements = before ++ found :: after ∧ ∀ earlier ∈ before, earlier.name ≠ name

/-- A list is searched for the first element of a name. -/
theorem find?_eq_some_iff_isFirstNamed {name : String} {elements : List Element} {found : Element} :
    elements.find? (·.name == name) = some found ↔ IsFirstNamed name elements found := by
  rw [List.find?_eq_some_iff_append, IsFirstNamed, beq_iff_eq]
  simp

/-- The search for one element finds the first one of the name below an element. -/
theorem descendant?_eq_some_iff {element found : Element} {name : String} :
    element.descendant? name = some found ↔ IsFirstNamed name element.descendants found := by
  rw [descendant?_eq_find?, find?_eq_some_iff_isFirstNamed]

/-- The search for one element fails when there is none of the name at any depth. -/
theorem descendant?_eq_none_iff {element : Element} {name : String} :
    element.descendant? name = none ↔ ∀ below ∈ element.descendants, below.name ≠ name := by
  rw [descendant?_eq_find?, List.find?_eq_none]
  simp

/-- Among the elements of a name below an element there is a first one. -/
theorem exists_isFirstNamed_iff {element : Element} {name : String} :
    (∃ found, IsFirstNamed name element.descendants found) ↔
      ∃ below ∈ element.descendants, below.name = name := by
  constructor
  · rintro ⟨found, named, before, after, split, -⟩
    exact ⟨found, split ▸ List.mem_append_right before List.mem_cons_self, named⟩
  · rintro ⟨below, member, named⟩
    cases search : element.descendant? name with
    | none => exact absurd named (descendant?_eq_none_iff.1 search below member)
    | some found => exact ⟨found, descendant?_eq_some_iff.1 search⟩

/-- A child that is found is the first one of its name. -/
theorem child?_eq_some_iff {element found : Element} {name : String} :
    element.child? name = some found ↔ IsFirstNamed name element.children found :=
  find?_eq_some_iff_isFirstNamed

/-- A choice by name keeps all or none of the elements that have one name. -/
theorem filter_map_of_name {Item : Type} {written : Item → Element} {name : String}
    (named : ∀ item, (written item).name = name) (items : List Item) (wanted : String) :
    (items.map written).filter (·.name == wanted) =
      if name = wanted then items.map written else [] := by
  by_cases same : name = wanted
  · rw [if_pos same, List.filter_eq_self]
    intro element member
    obtain ⟨item, -, rfl⟩ := List.mem_map.1 member
    exact beq_iff_eq.2 ((named item).trans same)
  · rw [if_neg same, List.filter_eq_nil_iff]
    intro element member kept
    obtain ⟨item, -, rfl⟩ := List.mem_map.1 member
    exact same ((named item).symm.trans (eq_of_beq kept))

/-- The search for one element finds the first of all. -/
theorem descendant?_eq_head? (element : Element) (name : String) :
    element.descendant? name = (element.descendantsNamed name).head? := by
  rw [descendant?_eq_find?, descendantsNamed_eq_filter, List.head?_filter]

end SignOn.Markup.Element
