import SignOn.Config

/-
This file reads the settings of a validator from named variables.
-/

namespace SignOn.Config

open SignOn.Text

/-- A variable is looked up by its name and may be missing. -/
abbrev Lookup := String → Option String

/-- A missing flag is not set. -/
def readFlag (lookup : Lookup) (name : String) : Except SettingFault Bool :=
  match trim ((lookup name).getD "false") with
  | "true" => .ok true
  | "false" => .ok false
  | _ => .error (.invalid name .notFlag)

def readCount (lookup : Lookup) (name : String) : Except SettingFault (Option Nat) :=
  match lookup name with
  | none => .ok none
  | some value =>
    match readNumber limit64 (trim value).toList with
    | .error _ => .error (.invalid name (.notNumber value))
    | .ok number => .ok (some number)

/-- Blanks around the name and the value of a parameter do not count. -/
def readPair (piece : List Char) : Except SettingFault (String × String) :=
  match splitFirst? '=' piece with
  | none => .error (.invalid "CAS_CUSTOM_PARAMETERS" (.notPair (String.ofList piece)))
  | some (name, value) => .ok (trim (String.ofList name), trim (String.ofList value))

/-- Parameters stand between ampersands, and blank stretches hold none. -/
def readParameters (text : String) : Except SettingFault (NameMap String) := do
  let given := (pieces (· == '&') text.toList).filter fun piece => !piece.all isBlank
  let pairs ← given.mapM readPair
  return .ofList pairs

/-- Without the variable there are no parameters. -/
def readCustomParameters (lookup : Lookup) : Except SettingFault (NameMap String) :=
  match lookup "CAS_CUSTOM_PARAMETERS" with
  | none => .ok NameMap.empty
  | some text => readParameters text

def readProtocol (text : String) : Except SettingFault Protocol :=
  match Protocol.read? text with
  | none => .error (.invalid "protocol" (.unknownProtocol (Protocol.normalSpelling text)))
  | some protocol => .ok protocol

def readServer (lookup : Lookup) : Except SettingFault String :=
  match lookup "CAS_SERVER_URL_PREFIX" with
  | none => .error (.missing "CAS_SERVER_URL_PREFIX")
  | some serverUrl => .ok serverUrl

/-- Variables are read in a fixed order, and the first fault met is reported. -/
def read (lookup : Lookup) : Except SettingFault Config := do
  let serverUrl ← readServer lookup
  let protocol ← readProtocol ((lookup "CAS_PROTOCOL").getD "cas3")
  let renew ← readFlag lookup "CAS_RENEW"
  let acceptsAnyProxy ← readFlag lookup "CAS_ACCEPT_ANY_PROXY"
  let tolerance ← readCount lookup "CAS_TOLERANCE_MS"
  let timeout ← readCount lookup "CAS_TIMEOUT_MS"
  let retention ← readCount lookup "CAS_PGT_RETENTION_SECS"
  let customParameters ← readCustomParameters lookup
  let config : Config :=
    { serverUrl := serverUrl
      protocol := protocol
      renew := renew
      tolerance := (tolerance.map Span.ofMillis).getD defaultTolerance
      callbackUrl := (lookup "CAS_PROXY_CALLBACK_URL").filter (!isBlankText ·)
      acceptsAnyProxy := acceptsAnyProxy
      allowedChains := ((lookup "CAS_ALLOWED_PROXY_CHAINS").map AllowedChains.read).getD ⟨[]⟩
      charsetLabel := (lookup "CAS_ENCODING").getD defaultCharsetLabel
      timeout := (timeout.map Span.ofMillis).getD defaultTimeout
      customParameters := customParameters
      grantRetention := (retention.map Span.ofSeconds).getD defaultRetention }
  config.check
  return config

end SignOn.Config
