import SignOn.GrantStore

/-
This file shows what each operation of a store does to the grants that are found in it.
-/

namespace SignOn.GrantStore

/-- A store lost what it kept under a reference, and nothing else about it changed. -/
structure Took (before : GrantStore) (iou : String) (after : GrantStore) : Prop where
  retention : after.retention = before.retention
  capacity : after.capacity = before.capacity
  counted : after.counted = before.counted
  arrivals : after.arrivals = before.arrivals
  lookup : ∀ key, after.grants[key]? = if key = iou then none else before.grants[key]?

/-- The grants that have not expired. -/
def live (store : GrantStore) (now : Span) : Std.HashMap String Grant :=
  store.grants.filter fun _ grant => !store.isExpired now grant

/-- What is live under a reference is what is kept there and has not expired. -/
theorem getElem?_live (store : GrantStore) (now : Span) (iou : String) :
    (store.live now)[iou]? =
      (store.grants[iou]?).filter fun grant => !store.isExpired now grant := by
  rw [live, Std.HashMap.getElem?_filter']

/-- What is taken is gone, and nothing else is. -/
theorem getElem?_take (store : GrantStore) (iou key : String) :
    (store.take iou).grants[key]? = if key = iou then none else store.grants[key]? := by
  rw [take, Std.HashMap.getElem?_erase]
  simp only [beq_iff_eq, eq_comm (a := iou)]

theorem took_take (store : GrantStore) (iou : String) : Took store iou (store.take iou) :=
  ⟨rfl, rfl, rfl, rfl, getElem?_take store iou⟩

/-- Where nothing is kept there is nothing to lose. -/
theorem took_of_absent (store : GrantStore) (iou : String) (absent : store.grants[iou]? = none) :
    Took store iou store := by
  refine ⟨rfl, rfl, rfl, rfl, fun key => ?_⟩
  by_cases same : key = iou
  · rw [if_pos same, same, absent]
  · rw [if_neg same]

/-- A retrieval takes the grant away, also when it has expired. -/
theorem took_retrieve (store : GrantStore) (now : Span) (iou : String) :
    Took store iou (store.retrieve now iou).result.2 := by
  rw [retrieve]
  cases found : store.grants[iou]? with
  | none => exact took_of_absent store iou found
  | some grant =>
      by_cases expired : store.isExpired now grant = true
      · simp only [if_pos expired]
        exact took_take store iou
      · simp only [if_neg expired]
        exact took_take store iou

/-- A retrieval hands out the ticket of a grant that has not expired. -/
theorem retrieve_ticket (store : GrantStore) (now : Span) (iou : String) :
    (store.retrieve now iou).result.1 = ((store.live now)[iou]?).map Grant.ticket := by
  rw [getElem?_live, retrieve]
  cases store.grants[iou]? with
  | none => rfl
  | some grant =>
      by_cases expired : store.isExpired now grant = true
      · simp only [Option.filter_some, expired]
        rfl
      · simp only [Option.filter_some, expired]
        rfl

/--
What is put under a reference replaces what was there, and nothing else changes, if the store keeps anything.
-/
theorem getElem?_put (store : GrantStore) (now : Span) (iou ticket key : String)
    (room : store.capacity ≠ 0) :
    (store.put now iou ticket).grants[key]? =
      if key = iou then some ⟨ticket, now, store.arrivals⟩ else store.grants[key]? := by
  rw [put, if_neg room, Std.HashMap.getElem?_insert]
  simp only [beq_iff_eq, eq_comm (a := iou)]

/-- The number of grants that have not expired. -/
def pending (store : GrantStore) (now : Span) : Nat := (store.live now).size

/-- A clean-up keeps all grants that have not expired while they fit. -/
theorem grants_purge (store : GrantStore) (now : Span)
    (fits : store.pending now ≤ store.capacity) : (store.purge now).grants = store.live now := by
  change withinCapacity store.capacity (store.live now) = _
  rw [withinCapacity]
  exact if_pos fits

/-- What has expired stays so. -/
theorem isExpired_of_le (store : GrantStore) {now later : Span} (order : now.nanos ≤ later.nanos)
    {grant : Grant} (expired : store.isExpired now grant = true) :
    store.isExpired later grant = true := by
  simp only [isExpired, decide_eq_true_eq] at expired ⊢
  omega

/-- The grants that are live later are among those that are live now. -/
theorem getElem?_live_later (store : GrantStore) {now later : Span}
    (order : now.nanos ≤ later.nanos) (iou : String) :
    (store.live later)[iou]? =
      ((store.live now)[iou]?).filter fun grant => !store.isExpired later grant := by
  rw [getElem?_live, getElem?_live]
  cases store.grants[iou]? with
  | none => rfl
  | some grant =>
      by_cases expired : store.isExpired now grant = true
      · simp [Option.filter_some, expired, store.isExpired_of_le order expired]
      · simp [Option.filter_some, expired]

end SignOn.GrantStore
