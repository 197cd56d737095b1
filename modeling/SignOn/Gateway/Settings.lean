import SignOn.Config.Environment

/-
This file reads the settings of the gateway itself.
-/

namespace SignOn.Gateway

open SignOn.Text

structure Settings where
  port : Nat
  receptorPath : String
  cleanupInterval : Span
  deriving DecidableEq, Repr

namespace Settings

def defaultReceptorPath : String := "/proxyCallback"

/-- Numbers are read without blanks around them, the port before the interval. -/
def read (lookup : Config.Lookup) : Except NumberFault Settings := do
  let port ← readNumber limit16 ((lookup "PORT").getD "8080").toList
  let seconds ← readNumber limit64 ((lookup "CAS_PGT_CLEANUP_SECS").getD "60").toList
  return ⟨port, (lookup "CAS_PROXY_RECEPTOR_PATH").getD defaultReceptorPath, .ofSeconds seconds⟩

end Settings

end SignOn.Gateway
