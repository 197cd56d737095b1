import Std.Time.DateTime.Timestamp
import SignOn.Cleaner
import SignOn.Gateway.Serve

/-
This file is the command line of the gateway. Its settings are variables of the environment, and each
line of standard input is a call: a method and a target, and behind them the text of a form.
-/

namespace SignOn.CommandLine

open SignOn.Text

def settingNames : List String :=
  ["PORT", "CAS_PROXY_RECEPTOR_PATH", "CAS_PGT_CLEANUP_SECS", "CAS_SERVER_URL_PREFIX", "CAS_PROTOCOL",
    "CAS_RENEW", "CAS_ACCEPT_ANY_PROXY", "CAS_TOLERANCE_MS", "CAS_TIMEOUT_MS",
    "CAS_PGT_RETENTION_SECS", "CAS_CUSTOM_PARAMETERS", "CAS_PROXY_CALLBACK_URL",
    "CAS_ALLOWED_PROXY_CHAINS", "CAS_ENCODING"]

def readEnvironment : IO Config.Lookup := do
  let values ← settingNames.mapM fun name => return (name, ← IO.getEnv name)
  return fun name => (values.lookup name).bind id

/-- The command line has no network behind it, so that no request reaches a server. -/
def offline : Transport := fun request => ⟨⟨0⟩, .error (.connection request.url "no network")⟩

def writeLog (log : List LogLine) : IO Unit :=
  log.forM fun line => IO.eprintln s!"{line.level.name} {line.message}"

def writeResponse (response : Gateway.Response) : IO Unit := do
  let contentType := response.contentType.getD "-"
  IO.println s!"{response.status} {contentType}"
  match response.payload with
  | .text characters => IO.println characters
  | .json value => IO.println value.write

def now : IO Instant := do
  let elapsed := (← Std.Time.Timestamp.now).toNanosecondsSinceUnixEpoch
  return .ofEpochNanos elapsed.toInt

def uptime : IO Span := return ⟨← IO.monoNanosNow⟩

def drawBits : IO (BitVec 128) := do
  let bytes ← IO.getRandomBytes 16
  return bytes.foldl (fun bits byte => bits * 256#128 + BitVec.ofNat 128 byte.toNat) 0#128

/-- A form needs its type, which the other calls leave out. -/
def callOf (line : String) : Gateway.Call :=
  match words line.toList with
  | [] => ⟨"GET", "/", none, ""⟩
  | [target] => ⟨"GET", target, none, ""⟩
  | [method, target] => ⟨method, target, none, ""⟩
  | method :: target :: body :: _ => ⟨method, target, some Gateway.formType, body⟩

/-- The store is cleaned up before a call when an interval has gone by since it last was. -/
def cleanWhenDue (interval : Span) (started : Span) (rounds : Nat) (store : GrantStore) :
    IO (Nat × GrantStore) := do
  let uptime ← uptime
  match Cleaner.rounds interval ⟨uptime.nanos - started.nanos⟩ with
  | .error _ => return (rounds, store)
  | .ok due =>
    if due ≤ rounds then return (rounds, store)
    else
      let cleaned := store.cleanUp uptime
      writeLog cleaned.log
      return (due, cleaned.result)

partial def answerCalls (gateway : Gateway) (interval started : Span) (rounds : Nat)
    (store : GrantStore) (input : IO.FS.Stream) : IO Unit := do
  let line ← input.getLine
  if line.isEmpty then return
  let (rounds, store) ← cleanWhenDue interval started rounds store
  let around : Gateway.Surroundings := ⟨offline, ← drawBits, ← now, ← uptime⟩
  let traced := gateway.serve around store (callOf line)
  writeLog traced.log
  writeResponse traced.result.1
  answerCalls gateway interval started rounds traced.result.2 input

def refuse (message : String) : IO UInt32 := do
  IO.eprintln s!"Error: {message}"
  return 1

def run : IO UInt32 := do
  let lookup ← readEnvironment
  match Gateway.Settings.read lookup with
  | .error fault => refuse fault.message
  | .ok settings =>
    match (do let config ← Config.read lookup; return (config, ← Validator.create config)) with
    | .error fault => refuse fault.message
    | .ok (config, created) =>
      writeLog (Cleaner.start settings.cleanupInterval).log
      writeLog created.log
      match Gateway.create settings config created.result with
      | .error _ => refuse "the store or the route of the receptor cannot be set up"
      | .ok setup =>
        answerCalls setup.gateway settings.cleanupInterval (← uptime) 0 setup.store (← IO.getStdin)
        return 0

end SignOn.CommandLine

def main : IO UInt32 := SignOn.CommandLine.run
