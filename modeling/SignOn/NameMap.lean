/-
This file holds finite maps from names, listed in ascending order of names.
-/

namespace SignOn

/-- A finite map lists every name once, in ascending order. -/
structure NameMap (Value : Type) where
  entries : List (String × Value)
  ascending : entries.Pairwise fun left right => left.1 < right.1

namespace NameMap

variable {Value : Type}

/-- The entry of a name is changed where it stands or put in where it belongs. -/
def updateEntries (name : String) (change : Option Value → Value) :
    List (String × Value) → List (String × Value)
  | [] => [(name, change none)]
  | (key, value) :: rest =>
    if name = key then (key, change (some value)) :: rest
    else if name < key then (name, change none) :: (key, value) :: rest
    else (key, value) :: updateEntries name change rest

theorem mem_updateEntries (name : String) (change : Option Value → Value)
    (entries : List (String × Value)) {entry : String × Value}
    (member : entry ∈ updateEntries name change entries) :
    entry.1 = name ∨ entry ∈ entries := by
  induction entries with
  | nil => simp_all [updateEntries]
  | cons head rest inductionHypothesis =>
      obtain ⟨key, value⟩ := head
      simp only [updateEntries] at member
      split at member
      · rename_i same
        rcases List.mem_cons.1 member with equal | inRest
        · exact Or.inl (by rw [equal]; exact same.symm)
        · exact Or.inr (List.mem_cons_of_mem _ inRest)
      · split at member
        · rcases List.mem_cons.1 member with equal | inOld
          · exact Or.inl (by rw [equal])
          · exact Or.inr inOld
        · rcases List.mem_cons.1 member with equal | inRest
          · exact Or.inr (by rw [equal]; exact List.mem_cons_self)
          · rcases inductionHypothesis inRest with named | old
            · exact Or.inl named
            · exact Or.inr (List.mem_cons_of_mem _ old)

theorem updateEntries_ascending (name : String) (change : Option Value → Value)
    (entries : List (String × Value))
    (ascending : entries.Pairwise fun left right => left.1 < right.1) :
    (updateEntries name change entries).Pairwise fun left right => left.1 < right.1 := by
  induction entries with
  | nil => simp [updateEntries]
  | cons head rest inductionHypothesis =>
      obtain ⟨key, value⟩ := head
      obtain ⟨above, tail⟩ := List.pairwise_cons.1 ascending
      simp only [updateEntries]
      split
      · exact List.pairwise_cons.2 ⟨above, tail⟩
      · split
        · rename_i below
          refine List.pairwise_cons.2 ⟨?_, ascending⟩
          intro entry member
          rcases List.mem_cons.1 member with equal | inRest
          · rw [equal]; exact below
          · exact String.lt_trans below (above entry inRest)
        · rename_i different notBelow
          refine List.pairwise_cons.2 ⟨?_, inductionHypothesis tail⟩
          intro entry member
          rcases mem_updateEntries name change rest member with named | old
          · rw [named]
            exact String.not_le.1 fun atMost => different (String.le_antisymm atMost (String.not_lt.1 notBelow))
          · exact above entry old

def empty : NameMap Value := ⟨[], List.Pairwise.nil⟩

def update (map : NameMap Value) (name : String) (change : Option Value → Value) :
    NameMap Value where
  entries := updateEntries name change map.entries
  ascending := updateEntries_ascending name change map.entries map.ascending

/-- The last value put in under a name replaces the ones before it. -/
def insert (map : NameMap Value) (name : String) (value : Value) : NameMap Value :=
  map.update name fun _ => value

def get? (map : NameMap Value) (name : String) : Option Value :=
  map.entries.lookup name

def contains (map : NameMap Value) (name : String) : Bool :=
  (map.get? name).isSome

def size (map : NameMap Value) : Nat := map.entries.length

def ofList (entries : List (String × Value)) : NameMap Value :=
  entries.foldl (fun map entry => map.insert entry.1 entry.2) empty

instance [DecidableEq Value] : DecidableEq (NameMap Value) := fun left right =>
  if same : left.entries = right.entries then
    isTrue (by cases left; cases right; simp_all)
  else isFalse fun equal => same (by rw [equal])

instance : Inhabited (NameMap Value) := ⟨empty⟩

end NameMap

end SignOn
