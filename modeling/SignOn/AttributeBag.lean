import SignOn.NameMap

/-
This file gathers the attributes that are released about a principal.
-/

namespace SignOn

/-- A name that comes once has a single value, and from its second value on it has a list. -/
inductive AttributeValue
  | single (value : String)
  | multiple (values : Array String)
  deriving DecidableEq, Repr

namespace AttributeValue

def values : AttributeValue → List String
  | .single value => [value]
  | .multiple values => values.toList

def first? (value : AttributeValue) : Option String := value.values.head?

def push : AttributeValue → String → AttributeValue
  | .single earlier, value => .multiple #[earlier, value]
  | .multiple earlier, value => .multiple (earlier.push value)

end AttributeValue

/-- The names of attributes are case-sensitive. -/
abbrev AttributeBag := NameMap AttributeValue

namespace AttributeBag

/-- A value joins those that came under its name before. -/
def push (bag : AttributeBag) (name value : String) : AttributeBag :=
  bag.update name fun
    | none => .single value
    | some earlier => earlier.push value

def pushAll (bag : AttributeBag) (pairs : List (String × String)) : AttributeBag :=
  pairs.foldl (fun gathered pair => gathered.push pair.1 pair.2) bag

def ofPairs (pairs : List (String × String)) : AttributeBag :=
  pushAll NameMap.empty pairs

end AttributeBag

end SignOn
