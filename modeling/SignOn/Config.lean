import SignOn.Charset.Label
import SignOn.Dialect
import SignOn.Url.Address

/-
This file holds the settings of a validator and checks that they fit together.
-/

namespace SignOn

open SignOn.Text

/-- What is wrong with the value of a setting. -/
inductive SettingReason
  | address (fault : Url.Fault)
  | unknownCharset (label : String)
  | notPositive
  | noProxying (protocol : Protocol)
  | unknownProtocol (spelling : String)
  | notFlag
  | notNumber (value : String)
  | notPair (pair : String)
  | stated (reason : String)
  deriving DecidableEq

def SettingReason.message : SettingReason → String
  | .address fault => fault.message
  | .unknownCharset label => s!"unknown character encoding '{label}'"
  | .notPositive => "must be greater than zero"
  | .noProxying protocol => s!"protocol {protocol.name} does not support proxying"
  | .unknownProtocol spelling => s!"unknown protocol '{spelling}'"
  | .notFlag => "expected true or false"
  | .notNumber value => s!"'{value}' is not a number"
  | .notPair pair => s!"'{pair}' is not name=value"
  | .stated reason => reason

inductive SettingFault
  | missing (setting : String)
  | invalid (setting : String) (reason : SettingReason)
  deriving DecidableEq

def SettingFault.message : SettingFault → String
  | .missing setting => s!"Missing required setting {setting}"
  | .invalid setting reason => s!"Invalid value for {setting}: {reason.message}"

structure Config where
  serverUrl : String
  protocol : Protocol
  /-- The user must have authenticated for this very ticket. -/
  renew : Bool
  /-- The clock of the server may be ahead by so much. -/
  tolerance : Span
  callbackUrl : Option String
  acceptsAnyProxy : Bool
  allowedChains : AllowedChains
  charsetLabel : String
  timeout : Span
  customParameters : NameMap String
  /-- A granting ticket waits so long for the assertion that it belongs to. -/
  grantRetention : Span
  deriving DecidableEq

namespace Config

def defaultTolerance : Span := .ofMillis 1000

def defaultTimeout : Span := .ofSeconds 5

def defaultRetention : Span := .ofSeconds 60

def defaultCharsetLabel : String := "UTF-8"

/-- Only the server and the protocol have no default. -/
def ofServer (serverUrl : String) (protocol : Protocol) : Config where
  serverUrl := serverUrl
  protocol := protocol
  renew := false
  tolerance := defaultTolerance
  callbackUrl := none
  acceptsAnyProxy := false
  allowedChains := ⟨[]⟩
  charsetLabel := defaultCharsetLabel
  timeout := defaultTimeout
  customParameters := NameMap.empty
  grantRetention := defaultRetention

def policy (config : Config) : ProxyPolicy := ⟨config.acceptsAnyProxy, config.allowedChains⟩

def endpoint (config : Config) : Endpoint :=
  ⟨config.serverUrl, config.renew, config.callbackUrl, config.customParameters⟩

def dialect (config : Config) : Dialect :=
  match config.protocol with
  | .cas10 => .cas10 config.endpoint
  | .cas20 => .cas20 config.endpoint config.policy.expectsProxies
  | .cas30 => .cas30 config.endpoint config.policy.expectsProxies
  | .saml11 => .saml11 config.endpoint config.tolerance .drawn

def checkAddress (setting address : String) : Except SettingFault Unit :=
  match Url.Address.read address with
  | .error fault => .error (.invalid setting (.address fault))
  | .ok _ => .ok ()

def checkServer (config : Config) : Except SettingFault Unit :=
  if isBlankText config.serverUrl then .error (.missing "server_url_prefix")
  else checkAddress "server_url_prefix" config.serverUrl

def checkCharset (config : Config) : Except SettingFault Charset :=
  match Charset.ofLabel? config.charsetLabel with
  | none => .error (.invalid "encoding" (.unknownCharset config.charsetLabel))
  | some charset => .ok charset

def checkTimeout (config : Config) : Except SettingFault Unit :=
  if config.timeout.nanos = 0 then .error (.invalid "timeout" .notPositive) else .ok ()

def checkCallback (config : Config) : Except SettingFault Unit :=
  match config.callbackUrl with
  | none => .ok ()
  | some callbackUrl =>
    if config.protocol.supportsProxying then checkAddress "proxy_callback_url" callbackUrl
    else .error (.invalid "proxy_callback_url" (.noProxying config.protocol))

/-- The first setting that does not fit is reported. -/
def check (config : Config) : Except SettingFault Unit := do
  config.checkServer
  let _ ← config.checkCharset
  config.checkTimeout
  config.checkCallback

/-- A description names all settings. -/
def describe (config : Config) : String :=
  recorded "ValidatorConfig"
    [("server_url_prefix", quoted config.serverUrl),
      ("protocol", config.protocol.longName),
      ("renew", toString config.renew),
      ("tolerance", config.tolerance.describe),
      ("proxy_callback_url", perhaps (config.callbackUrl.map quoted)),
      ("accept_any_proxy", toString config.acceptsAnyProxy),
      ("allowed_proxy_chains", config.allowedChains.describe),
      ("encoding", quoted config.charsetLabel),
      ("timeout", config.timeout.describe),
      ("custom_parameters",
        mapped (config.customParameters.entries.map fun entry => (quoted entry.1, quoted entry.2))),
      ("pgt_retention", config.grantRetention.describe)]

end Config

end SignOn
