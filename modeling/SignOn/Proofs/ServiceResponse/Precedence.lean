import Mathlib.Tactic.Common
import SignOn.Proofs.AttributeBag
import SignOn.Proofs.ServiceResponse.Isolation

/-
This file shows that inline attributes replace those of the block, and that nothing but the attributes
depends on the version of the protocol.
-/

namespace SignOn.ServiceResponse

open SignOn.Markup

/-- The flattened attributes of a success stand anywhere inside of it and carry a name. -/
def flattened (success : Element) : List Element :=
  success.descendants.filter fun element =>
    element.name == "attribute" && (element.attribute? "name").isSome

/-- A qualified attribute has one of two keys for its name, and the first one counts before the second. -/
def qualifiedName? (element : Element) : Option String :=
  (element.attribute? "AttributeName").or (element.attribute? "Name")

/-- The qualified attributes of a success stand anywhere inside of it and carry a name. -/
def qualified (success : Element) : List Element :=
  success.descendants.filter fun element =>
    element.name == "Attribute" && element.isInFamily samlFamily && (qualifiedName? element).isSome

/-- The values of inline attributes under a name, those of the flattened ones first. -/
def inlineValues (flattened qualified : List Element) (name : String) : List String :=
  ((flattened.filter (·.attribute? "name" == some name)).map fun element =>
      (element.attribute? "value").getD "") ++
    (qualified.filter (qualifiedName? · == some name)).flatMap fun element =>
      (element.childrenNamed "AttributeValue").map (·.text)

/-- A qualified attribute is named by its first key, or else by its second one. -/
theorem samlName?_eq (element : Element) : samlName? element = qualifiedName? element := by
  rw [samlName?, qualifiedName?]
  cases element.attribute? "AttributeName" <;> rfl

/-- What is not named releases nothing. -/
theorem filterMap_filter_isSome {Item Named : Type} {name? : Item → Option String}
    (pair : Item → String → Named) (isKind : Item → Bool) (items : List Item) :
    (items.filter isKind).filterMap (fun item => (name? item).map (pair item)) =
      (items.filter fun item => isKind item && (name? item).isSome).filterMap fun item =>
        (name? item).map (pair item) := by
  induction items with
  | nil => rfl
  | cons item others inductionHypothesis =>
      rw [List.filter_cons, List.filter_cons]
      cases isKind item with
      | false => simpa using inductionHypothesis
      | true =>
          cases named : name? item with
          | none => simpa [named] using inductionHypothesis
          | some own => simpa [named] using inductionHypothesis

/-- Each of the items that all have names releases something. -/
theorem filterMap_isEmpty_iff {Item Named : Type} {name? : Item → Option String}
    (pair : Item → String → Named) {items : List Item}
    (named : ∀ item ∈ items, (name? item).isSome = true) :
    (items.filterMap fun item => (name? item).map (pair item)).isEmpty = true ↔ items = [] := by
  rw [List.isEmpty_iff, List.filterMap_eq_nil_iff, List.eq_nil_iff_forall_not_mem]
  refine forall_congr' fun item => ⟨fun nameless member => ?_, fun absent member => absurd member absent⟩
  have nameless := Option.map_eq_none_iff.1 (nameless member)
  simpa [nameless] using named item member

theorem flattenedPairs_eq (success : Element) :
    flattenedPairs success = (flattened success).filterMap flattenedPair? := by
  rw [flattenedPairs, Element.descendantsNamed_eq_filter]
  exact filterMap_filter_isSome
    (fun (element : Element) name => (name, (element.attribute? "value").getD "")) _ _

theorem qualifiedElements_eq (success : Element) :
    qualifiedElements success =
      (qualified success).filterMap fun element => (qualifiedName? element).map (·, element) := by
  rw [qualifiedElements, Element.descendantsNamed_eq_filter, List.filter_filter]
  simp only [samlName?_eq]
  rw [filterMap_filter_isSome (fun element name => (name, element)), qualified]
  simp only [Bool.and_comm (_ == "Attribute")]

/-- Nothing is inline exactly when there is neither a flattened nor a qualified attribute. -/
theorem inline_isEmpty_iff (success : Element) :
    ((flattenedPairs success).isEmpty && (qualifiedElements success).isEmpty) = true ↔
      flattened success = [] ∧ qualified success = [] := by
  rw [Bool.and_eq_true, flattenedPairs_eq, qualifiedElements_eq]
  refine and_congr (filterMap_isEmpty_iff _ ?_) (filterMap_isEmpty_iff _ ?_)
  · intro element member
    exact (Bool.and_eq_true_iff.1 (List.mem_filter.1 member).2).2
  · intro element member
    exact (Bool.and_eq_true_iff.1 (List.mem_filter.1 member).2).2

/-- A name gathers the values of its flattened attributes and then those of its qualified ones. -/
theorem valuesUnder_inline (success : Element) (name : String) :
    AttributeBag.valuesUnder (flattenedPairs success ++ qualifiedPairs success) name =
      inlineValues (flattened success) (qualified success) name := by
  have first : flattenedPairs success = (flattened success).flatMap fun element =>
      (element.attribute? "name").toList.flatMap fun own =>
        [(element.attribute? "value").getD ""].map (own, ·) := by
    rw [flattenedPairs_eq]
    induction flattened success with
    | nil => rfl
    | cons element others inductionHypothesis =>
        rw [List.flatMap_cons, ← inductionHypothesis, List.filterMap_cons, flattenedPair?]
        cases element.attribute? "name" <;> rfl
  have second : qualifiedPairs success = (qualified success).flatMap fun element =>
      (qualifiedName? element).toList.flatMap fun own =>
        ((element.childrenNamed "AttributeValue").map (·.text)).map (own, ·) := by
    rw [qualifiedPairs, qualifiedElements_eq]
    induction qualified success with
    | nil => rfl
    | cons element others inductionHypothesis =>
        rw [List.flatMap_cons, ← inductionHypothesis, List.filterMap_cons]
        cases qualifiedName? element with
        | none => rfl
        | some own => simp [valuePairs]
  rw [AttributeBag.valuesUnder_append, first, second, AttributeBag.valuesUnder_flatMap,
    AttributeBag.valuesUnder_flatMap, inlineValues, ← List.map_eq_flatMap]

/-- The way in which attributes are read decides on the attributes of a success and on nothing else. -/
theorem readRoot_cases (root : Element) (now : Instant) :
    (∃ failure, ∀ attributesOf, readRoot attributesOf root now = .error failure) ∨
      ∃ success user, root.descendant? "authenticationSuccess" = some success ∧
        ∀ attributesOf, readRoot attributesOf root now =
          .ok ⟨.openEnded ⟨user, attributesOf success, none⟩ now, iouOf? success,
            proxyChain success⟩ := by
  simp only [readRoot, readSuccess_eq]
  by_cases kind : root.name = "serviceResponse"
  · simp only [if_pos kind]
    cases root.descendant? "authenticationFailure" with
    | some failure => exact Or.inl ⟨_, fun _ => rfl⟩
    | none =>
        cases root.descendant? "authenticationSuccess" with
        | none => exact Or.inl ⟨_, fun _ => rfl⟩
        | some success =>
            cases named : userOf? success with
            | none => exact Or.inl ⟨.noPrincipal, fun _ => by simp only [named]⟩
            | some user => exact Or.inr ⟨success, user, rfl, fun _ => by simp only [named]⟩
  · simp only [if_neg kind]
    exact Or.inl ⟨_, fun _ => rfl⟩

/--
What version 3 reads of an answer is what version 2 reads, apart from the attributes of the principal. These
are the same too when nothing is inline, and else the bag is the one that holds under each name the values
of the inline attributes with this name.
-/
theorem inline_attributes_precede_block (endpoint other : Endpoint) (expectsProxies also : Bool)
    (body : String) (now : Instant) :
    let plain := ((Dialect.cas20 endpoint expectsProxies).read body now).result
    let inlined := ((Dialect.cas30 other also).read body now).result
    (∃ failure, plain = .error failure ∧ inlined = .error failure) ∨
      ∃ root success first second, Element.parse body = .ok root ∧
        Element.IsFirstNamed "authenticationSuccess" root.descendants success ∧
          plain = .ok first ∧ inlined = .ok second ∧
            second.withoutAttributes = first.withoutAttributes ∧
              (flattened success = [] ∧ qualified success = [] →
                second.assertion.principal.attributes = first.assertion.principal.attributes) ∧
                (¬ (flattened success = [] ∧ qualified success = []) → ∀ bag : AttributeBag,
                  bag = second.assertion.principal.attributes ↔
                    ∀ name, bag.get? name = AttributeValue.ofValues?
                      (inlineValues (flattened success) (qualified success) name)) := by
  intro plain inlined
  cases parsed : Element.parse body with
  | error fault =>
      have refused (attributesOf : Element → AttributeBag) :
          read attributesOf body now = .error (.ofMarkup fault) := by rw [read, parsed]
      exact Or.inl ⟨_, refused _, refused _⟩
  | ok root =>
      have reads (attributesOf : Element → AttributeBag) := read_of_parse parsed attributesOf now
      rcases readRoot_cases root now with ⟨failure, refused⟩ | ⟨success, user, found, accepted⟩
      · exact Or.inl ⟨failure, (reads _).trans (refused _), (reads _).trans (refused _)⟩
      refine Or.inr ⟨root, success, _, _, rfl, Element.descendant?_eq_some_iff.1 found,
        (reads _).trans (accepted _), (reads _).trans (accepted _), rfl, ?_, ?_⟩
      · intro nothing
        change inlineOrBlockAttributes success = blockAttributes success
        rw [inlineOrBlockAttributes, if_pos ((inline_isEmpty_iff success).2 nothing)]
      · intro something bag
        change bag = inlineOrBlockAttributes success ↔ _
        rw [inlineOrBlockAttributes, if_neg (mt (inline_isEmpty_iff success).1 something)]
        simp only [← valuesUnder_inline, ← AttributeBag.get?_ofPairs]
        constructor
        · rintro rfl name
          rfl
        · exact NameMap.ext_get?

end SignOn.ServiceResponse
