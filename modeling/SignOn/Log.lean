/-
This file keeps the lines that a step writes to the log beside its result.
-/

namespace SignOn

inductive LogLevel
  | debug
  | info
  | warn
  | error
  deriving DecidableEq, Repr

def LogLevel.name : LogLevel → String
  | .debug => "DEBUG"
  | .info => "INFO"
  | .warn => "WARN"
  | .error => "ERROR"

structure LogLine where
  level : LogLevel
  message : String
  deriving DecidableEq, Repr

/-- A result stands beside the lines that were written on the way to it, oldest first. -/
structure Logged (Result : Type) where
  result : Result
  log : List LogLine
  deriving DecidableEq, Repr

namespace Logged

variable {First Second : Type}

def silent (result : First) : Logged First := ⟨result, []⟩

/-- The lines of the first step come before those of the second. -/
def andThen (step : Logged First) (next : First → Logged Second) : Logged Second :=
  let following := next step.result
  ⟨following.result, step.log ++ following.log⟩

instance : Monad Logged where
  pure := silent
  bind := andThen

instance : LawfulMonad Logged := LawfulMonad.mk' Logged
  (by intro Result step; simp [Functor.map, silent, andThen])
  (by intro First Second result next; simp [bind, pure, silent, andThen])
  (by intro First Second Third step next last; simp [bind, andThen])

def write (level : LogLevel) (message : String) : Logged Unit :=
  ⟨(), [⟨level, message⟩]⟩

@[simp] theorem pure_result (result : First) : (pure result : Logged First).result = result := rfl

@[simp] theorem pure_log (result : First) : (pure result : Logged First).log = [] := rfl

@[simp] theorem bind_result (step : Logged First) (next : First → Logged Second) :
    (step >>= next).result = (next step.result).result := rfl

@[simp] theorem bind_log (step : Logged First) (next : First → Logged Second) :
    (step >>= next).log = step.log ++ (next step.result).log := rfl

end Logged

end SignOn
