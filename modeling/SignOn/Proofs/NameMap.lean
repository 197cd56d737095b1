import Mathlib.Data.List.Induction
import SignOn.NameMap

/-
This file shows what is found in a map under each name, and that a map is read back from its entries.
-/

namespace SignOn.NameMap

variable {Value : Type}

theorem lookup_cons_eq (key other : String) (value : Value) (rest : List (String × Value)) :
    ((key, value) :: rest).lookup other = if other = key then some value else rest.lookup other := by
  rw [List.lookup_cons]
  by_cases same : other = key
  · simp [same]
  · rw [beq_eq_false_iff_ne.2 same, if_neg same]

/-- A name below all others is not among them. -/
theorem lookup_eq_none_of_lt {name : String} {entries : List (String × Value)}
    (below : ∀ entry ∈ entries, name < entry.1) : entries.lookup name = none := by
  rw [List.lookup_eq_none_iff]
  intro entry member
  rw [bne_iff_ne]
  rintro rfl
  exact String.lt_irrefl _ (below entry member)

/-- In ascending entries an update changes what is found under its name and nothing else. -/
theorem lookup_updateEntries (name other : String) (change : Option Value → Value)
    (entries : List (String × Value))
    (ascending : entries.Pairwise fun left right => left.1 < right.1) :
    (updateEntries name change entries).lookup other =
      if other = name then some (change (entries.lookup name)) else entries.lookup other := by
  induction entries with
  | nil => rw [updateEntries, lookup_cons_eq, List.lookup_nil, List.lookup_nil]
  | cons head rest inductionHypothesis =>
      obtain ⟨key, value⟩ := head
      obtain ⟨above, later⟩ := List.pairwise_cons.1 ascending
      rw [updateEntries]
      by_cases here : name = key
      · subst here
        rw [if_pos rfl, lookup_cons_eq, lookup_cons_eq, lookup_cons_eq, if_pos rfl]
        by_cases same : other = name
        · rw [if_pos same, if_pos same]
        · rw [if_neg same, if_neg same, if_neg same]
      by_cases before : name < key
      · have absent : ((key, value) :: rest).lookup name = none := by
          refine lookup_eq_none_of_lt fun entry member => ?_
          rcases List.mem_cons.1 member with rfl | behind
          · exact before
          · exact String.lt_trans before (above entry behind)
        rw [if_neg here, if_pos before, absent, lookup_cons_eq]
      · rw [if_neg here, if_neg before, lookup_cons_eq, inductionHypothesis later, lookup_cons_eq,
          lookup_cons_eq, if_neg here]
        by_cases same : other = key
        · rw [if_pos same, if_pos same, if_neg fun named => here (named.symm.trans same)]
        · rw [if_neg same, if_neg same]

/-- An update changes what is found under its name and nothing else. -/
theorem get?_update (map : NameMap Value) (name other : String) (change : Option Value → Value) :
    (map.update name change).get? other =
      if other = name then some (change (map.get? name)) else map.get? other :=
  lookup_updateEntries name other change map.entries map.ascending

/-- Every entry is found under its name. -/
theorem get?_of_mem {map : NameMap Value} {entry : String × Value} (member : entry ∈ map.entries) :
    map.get? entry.1 = some entry.2 := by
  obtain ⟨entries, ascending⟩ := map
  change entry ∈ entries at member
  change entries.lookup entry.1 = some entry.2
  induction entries with
  | nil => cases member
  | cons head rest inductionHypothesis =>
      obtain ⟨above, later⟩ := List.pairwise_cons.1 ascending
      rw [lookup_cons_eq]
      rcases List.mem_cons.1 member with rfl | behind
      · rw [if_pos rfl]
      · have apart : entry.1 ≠ head.1 := fun same =>
          String.lt_irrefl _ (same ▸ above entry behind)
        rw [if_neg apart]
        exact inductionHypothesis later behind

/-- The entries are all that can be found, each under its own name. -/
theorem mem_entries_iff {map : NameMap Value} {entry : String × Value} :
    entry ∈ map.entries ↔ map.get? entry.1 = some entry.2 := by
  refine ⟨get?_of_mem, fun found => ?_⟩
  obtain ⟨before, after, split, -⟩ := List.lookup_eq_some_iff.1 found
  rw [split]
  exact List.mem_append_right before List.mem_cons_self

/-- Maps in which the same is found under every name are equal, since both list it in one order. -/
theorem ext_get? {first second : NameMap Value}
    (same : ∀ name, first.get? name = second.get? name) : first = second := by
  have distinct (map : NameMap Value) : map.entries.Nodup := by
    refine map.ascending.imp ?_
    rintro left right below rfl
    exact String.lt_irrefl _ below
  have permuted : first.entries.Perm second.entries :=
    (List.perm_ext_iff_of_nodup (distinct first) (distinct second)).2 fun entry => by
      rw [mem_entries_iff, mem_entries_iff, same]
  have equal : first.entries = second.entries :=
    permuted.eq_of_pairwise (fun left right _ _ below above =>
      absurd (String.lt_trans below above) (String.lt_irrefl _)) first.ascending second.ascending
  cases first
  cases second
  congr

/-- The last entry that is put in is found under its name. -/
theorem get?_ofList_concat (entries : List (String × Value)) (entry : String × Value)
    (name : String) :
    (ofList (entries ++ [entry])).get? name =
      if name = entry.1 then some entry.2 else (ofList entries).get? name := by
  rw [ofList, List.foldl_append]
  exact get?_update _ entry.1 name _

/-- Under distinct names each value is found that came under it. -/
theorem get?_ofList {entries : List (String × Value)} (distinct : (entries.map Prod.fst).Nodup)
    (name : String) : (ofList entries).get? name = entries.lookup name := by
  induction entries using List.reverseRecOn with
  | nil => rfl
  | append_singleton others entry inductionHypothesis =>
      rw [List.map_append, List.nodup_append] at distinct
      obtain ⟨distinct, -, apart⟩ := distinct
      rw [get?_ofList_concat, inductionHypothesis distinct, List.lookup_append, lookup_cons_eq,
        List.lookup_nil]
      by_cases same : name = entry.1
      · have absent : others.lookup name = none := by
          rw [List.lookup_eq_none_iff]
          intro other member
          rw [bne_iff_ne, same]
          exact (apart other.1 (List.mem_map_of_mem member) entry.1 (by simp)).symm
        rw [if_pos same, if_pos same, absent, Option.none_or]
      · rw [if_neg same, if_neg same, Option.or_none]

/-- A map is the one that its entries make. -/
theorem ofList_entries (map : NameMap Value) : ofList map.entries = map := by
  have distinct : (map.entries.map Prod.fst).Nodup := by
    refine List.pairwise_map.2 (map.ascending.imp fun {left right} below same => ?_)
    exact String.lt_irrefl _ (same ▸ below)
  exact ext_get? fun name => get?_ofList distinct name

end SignOn.NameMap
