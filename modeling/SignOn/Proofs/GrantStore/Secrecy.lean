import SignOn.Proofs.Agreement
import SignOn.Proofs.GrantStore.Lookup

/-
This file shows that a store answers alike whatever tickets it keeps.
-/

namespace SignOn.GrantStore

/-- Two stores keep tickets of the same times under the same references, on the same terms. -/
structure SameButTickets (first second : GrantStore) : Prop where
  retention : first.retention = second.retention
  capacity : first.capacity = second.capacity
  savedAt : ∀ iou : String,
    (first.grants[iou]?).map Grant.savedAt = (second.grants[iou]?).map Grant.savedAt

theorem SameButTickets.refl (store : GrantStore) : store.SameButTickets store :=
  ⟨rfl, rfl, fun _ => rfl⟩

variable {first second : GrantStore}

/-- Under each reference both stores keep nothing, or grants of the same time. -/
theorem SameButTickets.cases (same : first.SameButTickets second) (iou : String) :
    (first.grants[iou]? = none ∧ second.grants[iou]? = none) ∨
    ∃ grant other, first.grants[iou]? = some grant ∧ second.grants[iou]? = some other ∧
      grant.savedAt = other.savedAt := by
  have kept := same.savedAt iou
  cases inFirst : first.grants[iou]? with
  | none =>
      rw [inFirst] at kept
      exact Or.inl ⟨rfl, Option.map_eq_none_iff.1 kept.symm⟩
  | some grant =>
      rw [inFirst] at kept
      obtain ⟨other, inSecond, alike⟩ := Option.map_eq_some_iff.1 kept.symm
      exact Or.inr ⟨grant, other, rfl, inSecond, alike.symm⟩

/-- Grants of one time expire together. -/
theorem SameButTickets.isExpired_eq (same : first.SameButTickets second) (now : Span)
    {grant other : Grant} (sameTime : grant.savedAt = other.savedAt) :
    first.isExpired now grant = second.isExpired now other := by
  rw [isExpired, isExpired, sameTime, same.retention]

/-- Taking under one reference keeps two stores alike. -/
theorem SameButTickets.take (same : first.SameButTickets second) (iou : String) :
    (first.take iou).SameButTickets (second.take iou) := by
  refine ⟨same.retention, same.capacity, fun key => ?_⟩
  rw [getElem?_take, getElem?_take]
  split
  · rfl
  · exact same.savedAt key

/-- Tickets that are delivered under one reference at one time leave the rest of the stores alike. -/
theorem SameButTickets.put (same : first.SameButTickets second) (now : Span)
    (iou ticket other : String) :
    (first.put now iou ticket).SameButTickets (second.put now iou other) := by
  by_cases room : first.capacity = 0
  · rw [GrantStore.put, GrantStore.put, if_pos room, if_pos (same.capacity ▸ room)]
    exact same
  · have roomToo : second.capacity ≠ 0 := same.capacity ▸ room
    refine ⟨?retention, ?capacity, fun key => ?savedAt⟩
    case retention =>
      rw [GrantStore.put, GrantStore.put, if_neg room, if_neg roomToo]
      exact same.retention
    case capacity =>
      rw [GrantStore.put, GrantStore.put, if_neg room, if_neg roomToo]
      exact same.capacity
    case savedAt =>
      rw [getElem?_put _ _ _ _ _ room, getElem?_put _ _ _ _ _ roomToo]
      split
      · rfl
      · exact same.savedAt key

/-- A warning about a store that is nearly full goes by what it counted, not by what it keeps. -/
theorem SameButTickets.save (same : first.SameButTickets second)
    (counted : first.counted = second.counted) (now : Span) (iou ticket other : String) :
    Logged.Agrees SameButTickets (first.save now iou ticket) (second.save now iou other) := by
  have near : first.isNearCapacity = second.isNearCapacity := by
    rw [isNearCapacity, isNearCapacity, same.capacity, counted]
  have kept := Logged.Agrees.pure (same.put now iou ticket other)
  rw [GrantStore.save, GrantStore.save, near, counted, same.capacity]
  split
  · exact kept.behind
  · exact kept.behind

/-- Both stores hand out a ticket or neither does. -/
structure FoundAlike (left right : Option String × GrantStore) : Prop where
  found : left.1.isSome = right.1.isSome
  remaining : left.2.SameButTickets right.2

/-- Both stores find a ticket or neither does, and their logs say the same. -/
theorem SameButTickets.retrieve (same : first.SameButTickets second) (now : Span) (iou : String) :
    Logged.Agrees FoundAlike (first.retrieve now iou) (second.retrieve now iou) := by
  rw [GrantStore.retrieve, GrantStore.retrieve]
  rcases same.cases iou with ⟨inFirst, inSecond⟩ | ⟨grant, other, inFirst, inSecond, sameTime⟩
  · rw [inFirst, inSecond]
    exact (Logged.Agrees.pure ⟨rfl, same⟩).behind
  · rw [inFirst, inSecond]
    simp only [same.isExpired_eq now sameTime]
    split
    · exact (Logged.Agrees.pure ⟨rfl, same.take iou⟩).behind
    · exact Logged.Agrees.pure ⟨rfl, same.take iou⟩

end SignOn.GrantStore
