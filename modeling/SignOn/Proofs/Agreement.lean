import SignOn.Transport

/-
This file compares two runs of the same steps: what they leave behind is equal, and their results are
related.
-/

namespace SignOn

namespace Logged

/-- Two steps write the same lines, and their results are related. -/
structure Agrees {First Second : Type} (relation : First → Second → Prop) (left : Logged First)
    (right : Logged Second) : Prop where
  result : relation left.result right.result
  log : left.log = right.log

variable {First Second Third Fourth : Type} {relation : First → Second → Prop}
  {next : Third → Fourth → Prop}

/-- Related results that nothing is written for agree. -/
theorem Agrees.pure {left : First} {right : Second} (related : relation left right) :
    Agrees relation (pure left) (pure right) :=
  ⟨related, rfl⟩

/-- Steps that agree stay so when what follows on any two related results agrees. -/
theorem Agrees.bind {left : Logged First} {right : Logged Second} {following : First → Logged Third}
    {followingToo : Second → Logged Fourth} (agrees : Agrees relation left right)
    (follow : ∀ leftResult rightResult, relation leftResult rightResult →
      Agrees next (following leftResult) (followingToo rightResult)) :
    Agrees next (left >>= following) (right >>= followingToo) := by
  have further := follow _ _ agrees.result
  exact ⟨further.result, by rw [bind_log, bind_log, agrees.log, further.log]⟩

/-- A step that both runs have in common does not tell them apart. -/
theorem Agrees.behind {step : Logged Unit} {left : Logged Third} {right : Logged Fourth}
    (agrees : Agrees next left right) :
    Agrees next (step >>= fun _ => left) (step >>= fun _ => right) :=
  ⟨agrees.result, by rw [bind_log, bind_log, agrees.log]⟩

end Logged

namespace Traced

/-- Two steps send the same requests and write the same lines, and their results are related. -/
structure Agrees {First Second : Type} (relation : First → Second → Prop) (left : Traced First)
    (right : Traced Second) : Prop where
  result : relation left.result right.result
  requests : left.requests = right.requests
  log : left.log = right.log

variable {First Second Third Fourth : Type} {relation : First → Second → Prop}
  {next : Third → Fourth → Prop}

theorem Agrees.pure {left : First} {right : Second} (related : relation left right) :
    Agrees relation (pure left) (pure right) :=
  ⟨related, rfl, rfl⟩

/-- Steps that send nothing agree as steps that may. -/
theorem Agrees.ofLogged {left : Logged First} {right : Logged Second}
    (agrees : Logged.Agrees relation left right) :
    Agrees relation (liftM left : Traced First) (liftM right : Traced Second) :=
  ⟨agrees.result, rfl, agrees.log⟩

/-- Steps that agree stay so when what follows on any two related results agrees. -/
theorem Agrees.bind {left : Traced First} {right : Traced Second} {following : First → Traced Third}
    {followingToo : Second → Traced Fourth} (agrees : Agrees relation left right)
    (follow : ∀ leftResult rightResult, relation leftResult rightResult →
      Agrees next (following leftResult) (followingToo rightResult)) :
    Agrees next (left >>= following) (right >>= followingToo) := by
  have further := follow _ _ agrees.result
  exact ⟨further.result, by rw [bind_requests, bind_requests, agrees.requests, further.requests],
    by rw [bind_log, bind_log, agrees.log, further.log]⟩

/-- A step that both runs have in common does not tell them apart. -/
theorem Agrees.behind {step : Traced First} {following : First → Traced Third}
    {followingToo : First → Traced Fourth}
    (follow : ∀ result, Agrees next (following result) (followingToo result)) :
    Agrees next (step >>= following) (step >>= followingToo) := by
  have further := follow step.result
  exact ⟨further.result, by rw [bind_requests, bind_requests, further.requests],
    by rw [bind_log, bind_log, further.log]⟩

end Traced

end SignOn
