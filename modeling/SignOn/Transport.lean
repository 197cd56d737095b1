import SignOn.Failure
import SignOn.Log
import SignOn.Request

/-
This file sends requests and keeps a trace of what was sent and logged.
-/

namespace SignOn

/-- An answer, or a fault instead of one, arrives after a delay. -/
structure Delivery where
  delay : Span
  outcome : Except TransportFault Answer

/-- A transport knows what becomes of every request. -/
abbrev Transport := Request → Delivery

/-- A result stands beside the requests that were sent and the lines that were logged, oldest first. -/
structure Traced (Result : Type) where
  result : Result
  requests : List Request
  log : List LogLine

namespace Traced

variable {First Second : Type}

def silent (result : First) : Traced First := ⟨result, [], []⟩

/-- What the first step leaves behind comes before what the second one leaves. -/
def andThen (step : Traced First) (next : First → Traced Second) : Traced Second :=
  let following := next step.result
  ⟨following.result, step.requests ++ following.requests, step.log ++ following.log⟩

instance : Monad Traced where
  pure := silent
  bind := andThen

instance : LawfulMonad Traced := LawfulMonad.mk' Traced
  (by intro Result step; simp [Functor.map, silent, andThen])
  (by intro First Second result next; simp [bind, pure, silent, andThen])
  (by intro First Second Third step next last; simp [bind, andThen])

def ofLogged (logged : Logged First) : Traced First := ⟨logged.result, [], logged.log⟩

instance : MonadLift Logged Traced := ⟨ofLogged⟩

def write (level : LogLevel) (message : String) : Traced Unit :=
  ofLogged (Logged.write level message)

/-- Sending a request leaves it in the trace. -/
def send (transport : Transport) (request : Request) : Traced Delivery :=
  ⟨transport request, [request], []⟩

@[simp] theorem pure_result (result : First) : (pure result : Traced First).result = result := rfl

@[simp] theorem pure_requests (result : First) : (pure result : Traced First).requests = [] := rfl

@[simp] theorem pure_log (result : First) : (pure result : Traced First).log = [] := rfl

@[simp] theorem bind_result (step : Traced First) (next : First → Traced Second) :
    (step >>= next).result = (next step.result).result := rfl

@[simp] theorem bind_requests (step : Traced First) (next : First → Traced Second) :
    (step >>= next).requests = step.requests ++ (next step.result).requests := rfl

@[simp] theorem bind_log (step : Traced First) (next : First → Traced Second) :
    (step >>= next).log = step.log ++ (next step.result).log := rfl

end Traced

/-- An answer that does not arrive in time is lost, and only a success is read. -/
def Delivery.within (delivery : Delivery) (limit : Span) : Except TransportFault Answer :=
  if limit.nanos < delivery.delay.nanos then .error (.timeout limit) else delivery.outcome

/-- A status outside the successes counts before anything in the body. -/
def acceptSuccess (answer : Answer) : Except TransportFault Answer :=
  if answer.isSuccess then .ok answer else .error (.status answer.status)

end SignOn
