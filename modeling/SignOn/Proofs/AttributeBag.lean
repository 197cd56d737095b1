import SignOn.AttributeBag
import SignOn.Proofs.NameMap

/-
This file shows that a bag holds for each name exactly the values that came under it, in order.
-/

namespace SignOn

/-- No values make no attribute, one stands alone, and more are listed. -/
def AttributeValue.ofValues? : List String → Option AttributeValue
  | [] => none
  | [value] => some (.single value)
  | values => some (.multiple values.toArray)

namespace AttributeBag

/-- The values that come under a name, in order. -/
def valuesUnder (pairs : List (String × String)) (name : String) : List String :=
  (pairs.filter fun pair => pair.1 == name).map Prod.snd

/-- A pushed value goes behind the earlier ones of its name, and other names keep theirs. -/
theorem get?_push (bag : AttributeBag) (name value other : String) :
    (bag.push name value).get? other =
      if other = name then
        some (match bag.get? name with
          | none => .single value
          | some earlier => earlier.push value)
      else bag.get? other :=
  NameMap.get?_update bag name other _

/-- One more value joins the earlier ones. -/
theorem ofValues?_concat (values : List String) (value : String) :
    AttributeValue.ofValues? (values ++ [value]) =
      some (match AttributeValue.ofValues? values with
        | none => .single value
        | some earlier => earlier.push value) := by
  match values with
  | [] => rfl
  | [first] => rfl
  | first :: second :: others =>
      simp [AttributeValue.ofValues?, AttributeValue.push]

theorem ofPairs_concat (pairs : List (String × String)) (pair : String × String) :
    ofPairs (pairs ++ [pair]) = (ofPairs pairs).push pair.1 pair.2 := by
  rw [ofPairs, ofPairs, pushAll, pushAll, List.foldl_append]
  rfl

/-- A bag holds under a name what its values make. -/
theorem get?_ofPairs (pairs : List (String × String)) (name : String) :
    (ofPairs pairs).get? name = AttributeValue.ofValues? (valuesUnder pairs name) := by
  induction pairs using List.reverseRecOn with
  | nil => rfl
  | append_singleton others pair inductionHypothesis =>
      rw [ofPairs_concat, get?_push]
      by_cases same : name = pair.1
      · subst same
        have joined : valuesUnder (others ++ [pair]) pair.1 =
            valuesUnder others pair.1 ++ [pair.2] := by
          simp [valuesUnder]
        rw [if_pos rfl, joined, ofValues?_concat, inductionHypothesis]
      · have apart : valuesUnder (others ++ [pair]) name = valuesUnder others name := by
          simp [valuesUnder, Ne.symm same]
        rw [if_neg same, apart, inductionHypothesis]

/-- A value that is made of some values holds just these. -/
theorem values_of_ofValues? {values : List String} {value : AttributeValue}
    (made : AttributeValue.ofValues? values = some value) : value.values = values := by
  match values with
  | [] => cases made
  | [first] =>
      cases made
      rfl
  | first :: second :: others =>
      cases made
      rfl

theorem valuesUnder_append (first second : List (String × String)) (name : String) :
    valuesUnder (first ++ second) name = valuesUnder first name ++ valuesUnder second name := by
  rw [valuesUnder, List.filter_append, List.map_append, valuesUnder, valuesUnder]

/-- Where each item puts its values under its own name, if it has one, a name gathers those of its items. -/
theorem valuesUnder_flatMap {Item : Type} (name? : Item → Option String)
    (values : Item → List String) (items : List Item) (name : String) :
    valuesUnder (items.flatMap fun item =>
        (name? item).toList.flatMap fun own => (values item).map (own, ·)) name =
      (items.filter (name? · == some name)).flatMap values := by
  induction items with
  | nil => rfl
  | cons item others inductionHypothesis =>
      rw [List.flatMap_cons, valuesUnder_append, inductionHypothesis, List.filter_cons]
      cases named : name? item with
      | none => rfl
      | some own =>
          by_cases same : own = name
          · subst same
            simp [valuesUnder, List.filter_map, Function.comp_def]
          · simp [valuesUnder, same]

/-- Every value in a bag came under its name. -/
theorem mem_of_get?_ofPairs {pairs : List (String × String)} {name : String}
    {value : AttributeValue} (found : (ofPairs pairs).get? name = some value) {text : String}
    (member : text ∈ value.values) : (name, text) ∈ pairs := by
  rw [get?_ofPairs] at found
  rw [values_of_ofValues? found, valuesUnder] at member
  obtain ⟨pair, kept, rfl⟩ := List.mem_map.1 member
  obtain ⟨among, named⟩ := List.mem_filter.1 kept
  rw [← eq_of_beq named]
  exact among

end AttributeBag

end SignOn
