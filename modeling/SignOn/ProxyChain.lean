import SignOn.Failure
import SignOn.Log
import SignOn.Text.Quoted

/-
This file decides which chains of proxies a ticket may have come through.
-/

namespace SignOn

open SignOn.Text

/-- Proxies are listed from the last one that a ticket went through to the first. -/
abbrev ProxyChain := List String

/-- A service trusts each of these chains as an exact sequence. -/
structure AllowedChains where
  chains : List ProxyChain
  deriving DecidableEq, Repr, Inhabited

namespace AllowedChains

def isChainSeparator (character : Char) : Bool := character == '\n' || character == ';'

/-- Chains stand on lines or between semicolons, and blanks separate the proxies of a chain. -/
def read (text : String) : AllowedChains :=
  ⟨((pieces isChainSeparator text.toList).map words).filter fun chain => !chain.isEmpty⟩

def contains (allowed : AllowedChains) (chain : ProxyChain) : Bool :=
  allowed.chains.any (· == chain)

def size (allowed : AllowedChains) : Nat := allowed.chains.length

def isEmpty (allowed : AllowedChains) : Bool := allowed.chains.isEmpty

def describe (allowed : AllowedChains) : String :=
  wrapped "AllowedProxyChains" (listed (allowed.chains.map fun chain => listed (chain.map quoted)))

end AllowedChains

/-- A policy trusts any chain or the allowed ones. -/
structure ProxyPolicy where
  acceptsAny : Bool
  allowed : AllowedChains
  deriving DecidableEq, Repr

namespace ProxyPolicy

/-- Tickets that came through proxies are expected when some chain could be trusted. -/
def expectsProxies (policy : ProxyPolicy) : Bool :=
  policy.acceptsAny || !policy.allowed.isEmpty

/-- A ticket that came through no proxy needs no trust in one. -/
def authorizes (policy : ProxyPolicy) (chain : ProxyChain) : Bool :=
  chain.isEmpty || policy.acceptsAny || policy.allowed.contains chain

def authorize (policy : ProxyPolicy) (chain : ProxyChain) : Logged (Except Failure Unit) := do
  if !chain.isEmpty && policy.acceptsAny then
    Logged.write .debug s!"Accepting proxy chain of length {chain.length} (accept any)"
  if policy.authorizes chain then
    return .ok ()
  else
    Logged.write .warn s!"Rejecting unauthorized proxy chain {listed (chain.map quoted)}"
    return .error (.invalidProxyChain chain)

end ProxyPolicy

end SignOn
