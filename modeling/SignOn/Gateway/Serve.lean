import SignOn.Gateway.CallbackRoute
import SignOn.Gateway.Settings
import SignOn.Gateway.ValidateRoute

/-
This file puts the two routes of the gateway together.
-/

namespace SignOn

/-- A gateway validates tickets on one route and receives granting tickets on another. -/
structure Gateway where
  validator : Validator
  receptor : Gateway.Route
  /-- The validator looks for granting tickets where the receptor keeps them. -/
  sharesStore : Bool

namespace Gateway

def validatePath : List Char := ['/', 'v', 'a', 'l', 'i', 'd', 'a', 't', 'e']

/-- What a gateway finds around it when a call comes in. -/
structure Surroundings where
  transport : Transport
  randomBits : BitVec 128
  now : Instant
  uptime : Span

def validate (gateway : Gateway) (around : Surroundings) (store : GrantStore) :
    ValidateRoute.Validate :=
  gateway.validator.validate around.transport around.randomBits around.now around.uptime
    (if gateway.sharesStore then some store else none)

def serve (gateway : Gateway) (around : Surroundings) (store : GrantStore) (call : Call) :
    Traced (Response × GrantStore) :=
  if call.path = validatePath then do
    let shared := if gateway.sharesStore then some store else none
    let (response, left) ← ValidateRoute.answer (gateway.validate around store) shared call
    return (response, left.getD store)
  else do
    let (left, response) ← CallbackRoute.serve gateway.receptor store around.uptime call
    return (response, left)

/-- A gateway is set up together with the store that its routes share. -/
structure Setup where
  gateway : Gateway
  store : GrantStore

/-- The store and the receptor break down when their settings do not suit them, and so do two routes on one path. -/
def create (settings : Settings) (config : Config) (validator : Validator) :
    Except Breakdown Setup := do
  let store ← GrantStore.create config.grantRetention GrantStore.defaultCapacity
  let receptor ← Route.create settings.receptorPath
  if receptor.pattern = validatePath then throw .routeTaken
  return ⟨⟨validator.withStore, receptor, true⟩, store⟩

end Gateway

end SignOn
