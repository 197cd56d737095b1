import SignOn.Config.Environment
import SignOn.Proofs.NameMap
import SignOn.Proofs.ProxyChain
import SignOn.Proofs.Text.Number
import SignOn.Validator

/-
This file shows that settings which are written to variables are read back from them.
-/

namespace SignOn

theorem ok_bind {Fault First Second : Type} (first : First) (next : First → Except Fault Second) :
    (Except.ok first >>= next) = next first := rfl

/-- Steps succeed one after the other. -/
theorem bind_eq_ok_iff {Fault First Second : Type} {step : Except Fault First}
    {next : First → Except Fault Second} {result : Second} :
    (step >>= next) = .ok result ↔ ∃ first, step = .ok first ∧ next first = .ok result := by
  cases step with
  | error fault => simp [bind, Except.bind]
  | ok first => simp [bind, Except.bind]

namespace Config

open SignOn.Text

/-- The variables that settings are read from. -/
def variableNames : List String :=
  ["CAS_SERVER_URL_PREFIX", "CAS_PROTOCOL", "CAS_RENEW", "CAS_ACCEPT_ANY_PROXY", "CAS_TOLERANCE_MS",
    "CAS_TIMEOUT_MS", "CAS_PGT_RETENTION_SECS", "CAS_CUSTOM_PARAMETERS", "CAS_PROXY_CALLBACK_URL",
    "CAS_ALLOWED_PROXY_CHAINS", "CAS_ENCODING"]

def writtenPair (pair : String × String) : List Char := pair.1.toList ++ '=' :: pair.2.toList

def writtenParameters (parameters : NameMap String) : String :=
  String.ofList (['&'].intercalate (parameters.entries.map writtenPair))

/-- Every setting is written to its variable, and an address for callbacks only if there is one. -/
def written (config : Config) : Lookup
  | "CAS_SERVER_URL_PREFIX" => some config.serverUrl
  | "CAS_PROTOCOL" => some config.protocol.name
  | "CAS_RENEW" => some (toString config.renew)
  | "CAS_ACCEPT_ANY_PROXY" => some (toString config.acceptsAnyProxy)
  | "CAS_TOLERANCE_MS" => some (toString config.tolerance.toMillis)
  | "CAS_TIMEOUT_MS" => some (toString config.timeout.toMillis)
  | "CAS_PGT_RETENTION_SECS" => some (toString config.grantRetention.toSeconds)
  | "CAS_CUSTOM_PARAMETERS" => some (writtenParameters config.customParameters)
  | "CAS_PROXY_CALLBACK_URL" => config.callbackUrl
  | "CAS_ALLOWED_PROXY_CHAINS" => some (config.allowedChains.written ';' ' ')
  | "CAS_ENCODING" => some config.charsetLabel
  | _ => none

/-- A parameter can be written when it has no marks or blanks that its reading would take for its own. -/
structure IsWritablePair (pair : String × String) : Prop where
  equalsFree : '=' ∉ pair.1.toList
  ampersandFree : '&' ∉ pair.1.toList ∧ '&' ∉ pair.2.toList
  trimmed : trim pair.1 = pair.1 ∧ trim pair.2 = pair.2

instance (pair : String × String) : Decidable (IsWritablePair pair) :=
  decidable_of_iff ('=' ∉ pair.1.toList ∧ ('&' ∉ pair.1.toList ∧ '&' ∉ pair.2.toList) ∧
      trim pair.1 = pair.1 ∧ trim pair.2 = pair.2)
    ⟨fun plain => ⟨plain.1, plain.2.1, plain.2.2⟩,
      fun writable => ⟨writable.equalsFree, writable.ampersandFree, writable.trimmed⟩⟩

/-- Settings can be written when their variables hold all of them. -/
structure IsWritable (config : Config) : Prop where
  tolerance : ∃ millis < limit64, config.tolerance = .ofMillis millis
  timeout : ∃ millis < limit64, config.timeout = .ofMillis millis
  retention : ∃ seconds < limit64, config.grantRetention = .ofSeconds seconds
  callback : ∀ callbackUrl, config.callbackUrl = some callbackUrl → isBlankText callbackUrl = false
  chains : config.allowedChains.IsWritable
  parameters : ∀ pair ∈ config.customParameters.entries, IsWritablePair pair

/-- Settings depend on no other variables. -/
theorem read_congr {lookup other : Lookup}
    (agree : ∀ name ∈ variableNames, lookup name = other name) :
    Config.read lookup = Config.read other := by
  have same (name : String) (member : name ∈ variableNames) : lookup name = other name :=
    agree name member
  simp only [Config.read, readServer, readFlag, readCount, readCustomParameters,
    same "CAS_SERVER_URL_PREFIX" (by decide), same "CAS_PROTOCOL" (by decide),
    same "CAS_RENEW" (by decide), same "CAS_ACCEPT_ANY_PROXY" (by decide),
    same "CAS_TOLERANCE_MS" (by decide), same "CAS_TIMEOUT_MS" (by decide),
    same "CAS_PGT_RETENTION_SECS" (by decide), same "CAS_CUSTOM_PARAMETERS" (by decide),
    same "CAS_PROXY_CALLBACK_URL" (by decide), same "CAS_ALLOWED_PROXY_CHAINS" (by decide),
    same "CAS_ENCODING" (by decide)]

/-- A protocol is read by its name. -/
theorem readProtocol_name (protocol : Protocol) : readProtocol protocol.name = .ok protocol := by
  cases protocol with
  | cas10 => decide
  | cas20 => decide
  | cas30 => decide
  | saml11 => decide

/-- A flag that is written is read back. -/
theorem readFlag_toString {lookup : Lookup} {name : String} {flag : Bool}
    (written : lookup name = some (toString flag)) : readFlag lookup name = .ok flag := by
  have trimmed : trim (toString flag) = toString flag := by
    cases flag with
    | true => decide
    | false => decide
  rw [readFlag, written, Option.getD_some, trimmed]
  cases flag with
  | true => rfl
  | false => rfl

/-- A count that is written is read back when it fits. -/
theorem readCount_toString {lookup : Lookup} {name : String} {number units : Nat}
    (fits : number < limit64) (same : units = number)
    (written : lookup name = some (toString units)) :
    readCount lookup name = .ok (some number) := by
  simp only [readCount, written, same, trim_toString, readNumber_toString fits]

/-- A parameter that can be written is read back. -/
theorem readPair_writtenPair {pair : String × String} (writable : IsWritablePair pair) :
    readPair (writtenPair pair) = .ok pair := by
  rw [readPair, writtenPair, splitFirst?_append writable.equalsFree]
  simp only [String.ofList_toList, writable.trimmed]

theorem mapM_readPair {pairs : List (String × String)}
    (writable : ∀ pair ∈ pairs, IsWritablePair pair) :
    (pairs.map writtenPair).mapM readPair = .ok pairs := by
  induction pairs with
  | nil => rfl
  | cons pair others inductionHypothesis =>
      obtain ⟨here, later⟩ := List.forall_mem_cons.1 writable
      rw [List.map_cons, List.mapM_cons, readPair_writtenPair here, inductionHypothesis later]
      rfl

/-- The pieces between the ampersands are the pairs, and none of them is blank. -/
theorem pieces_writtenParameters {parameters : NameMap String}
    (writable : ∀ pair ∈ parameters.entries, IsWritablePair pair) :
    (pieces (· == '&') (writtenParameters parameters).toList).filter
        (fun piece => !piece.all isBlank) = parameters.entries.map writtenPair := by
  rw [writtenParameters, String.toList_ofList]
  cases listed : parameters.entries with
  | nil => rfl
  | cons first others =>
      rw [← listed]
      have nonempty : parameters.entries.map writtenPair ≠ [] := by simp [listed]
      have cut : pieces (· == '&') (['&'].intercalate (parameters.entries.map writtenPair)) =
          parameters.entries.map writtenPair := by
        refine @pieces_intercalate (· == '&') '&' (by decide) _ nonempty ?_
        intro piece member character inPiece
        obtain ⟨pair, among, rfl⟩ := List.mem_map.1 member
        obtain ⟨nameFree, valueFree⟩ := (writable pair among).ampersandFree
        rw [beq_eq_false_iff_ne]
        rintro rfl
        simp [writtenPair, nameFree, valueFree] at inPiece
      rw [cut]
      refine List.filter_eq_self.2 fun piece member => ?_
      obtain ⟨pair, _, rfl⟩ := List.mem_map.1 member
      rw [Bool.not_eq_true', List.all_eq_false]
      exact ⟨'=', by simp [writtenPair], by decide⟩

/-- Parameters that can be written are read back, all of them in order. -/
theorem readParameters_written {parameters : NameMap String}
    (writable : ∀ pair ∈ parameters.entries, IsWritablePair pair) :
    readParameters (writtenParameters parameters) = .ok parameters := by
  rw [readParameters]
  simp only [pieces_writtenParameters writable, mapM_readPair writable]
  exact congrArg Except.ok parameters.ofList_entries

theorem toMillis_ofMillis (millis : Nat) : (Span.ofMillis millis).toMillis = millis :=
  Nat.mul_div_cancel millis (by decide)

theorem toSeconds_ofSeconds (seconds : Nat) : (Span.ofSeconds seconds).toSeconds = seconds :=
  Nat.mul_div_cancel seconds (by decide)

/-- Settings that can be written are read back and checked. -/
theorem read_written {config : Config} (writable : config.IsWritable) :
    Config.read config.written = config.check.map fun _ => config := by
  obtain ⟨tolerance, fitsTolerance, isTolerance⟩ := writable.tolerance
  obtain ⟨timeout, fitsTimeout, isTimeout⟩ := writable.timeout
  obtain ⟨retention, fitsRetention, isRetention⟩ := writable.retention
  have readProtocol : readProtocol ((config.written "CAS_PROTOCOL").getD "cas3") =
      .ok config.protocol := readProtocol_name config.protocol
  have readRenew : readFlag config.written "CAS_RENEW" = .ok config.renew := readFlag_toString rfl
  have readAcceptsAny : readFlag config.written "CAS_ACCEPT_ANY_PROXY" =
      .ok config.acceptsAnyProxy := readFlag_toString rfl
  have readTolerance : readCount config.written "CAS_TOLERANCE_MS" = .ok (some tolerance) :=
    readCount_toString fitsTolerance (by rw [isTolerance, toMillis_ofMillis]) rfl
  have readTimeout : readCount config.written "CAS_TIMEOUT_MS" = .ok (some timeout) :=
    readCount_toString fitsTimeout (by rw [isTimeout, toMillis_ofMillis]) rfl
  have readRetention : readCount config.written "CAS_PGT_RETENTION_SECS" = .ok (some retention) :=
    readCount_toString fitsRetention (by rw [isRetention, toSeconds_ofSeconds]) rfl
  have readCallback : (config.written "CAS_PROXY_CALLBACK_URL").filter (!isBlankText ·) =
      config.callbackUrl := by
    change config.callbackUrl.filter _ = _
    cases present : config.callbackUrl with
    | none => rfl
    | some callbackUrl => simp [Option.filter_some, writable.callback callbackUrl present]
  have readChains : AllowedChains.read (config.allowedChains.written ';' ' ') =
      config.allowedChains := AllowedChains.read_written writable.chains (by decide) (by decide)
        (by decide)
  have readParameters : readCustomParameters config.written = .ok config.customParameters :=
    readParameters_written writable.parameters
  have server : readServer config.written = .ok config.serverUrl := rfl
  have chains : config.written "CAS_ALLOWED_PROXY_CHAINS" =
      some (config.allowedChains.written ';' ' ') := rfl
  have charset : config.written "CAS_ENCODING" = some config.charsetLabel := rfl
  simp only [Config.read, server, readProtocol, readRenew, readAcceptsAny, readTolerance, readTimeout,
    readRetention, readCallback, readParameters, ok_bind, chains, charset, Option.map_some,
    Option.getD_some, readChains, ← isTolerance, ← isTimeout, ← isRetention]
  cases config.check with
  | error fault => rfl
  | ok _ => rfl

/-- Settings that are read have been checked. -/
theorem check_of_read {lookup : Lookup} {config : Config} (found : Config.read lookup = .ok config) :
    config.check = .ok () := by
  simp only [Config.read, bind_eq_ok_iff] at found
  obtain ⟨serverUrl, -, protocol, -, renew, -, acceptsAny, -, tolerance, -, timeout, -, retention, -,
    parameters, -, _, checked, returned⟩ := found
  cases returned
  exact checked

/-- The check knows the character set. -/
theorem checkCharset_of_check {config : Config} (fits : config.check = .ok ()) :
    ∃ charset, config.checkCharset = .ok charset := by
  obtain ⟨_, -, fits⟩ := bind_eq_ok_iff.1 fits
  obtain ⟨charset, known, -⟩ := bind_eq_ok_iff.1 fits
  exact ⟨charset, known⟩

/-- Settings that fit make a validator. -/
theorem create_of_check {config : Config} (fits : config.check = .ok ()) :
    ∃ validator, Validator.create config = .ok validator := by
  obtain ⟨charset, known⟩ := checkCharset_of_check fits
  rw [Validator.create, fits, known]
  exact ⟨_, rfl⟩

/--
Settings come back from the variables that they are written to, or with the fault that their check
finds. No other variable matters, and settings that are read make a validator, whose character set is
known once they are checked.
-/
theorem settings_survive_variables :
    (∀ config : Config, config.IsWritable → ∀ lookup : Lookup,
      (∀ name ∈ variableNames, lookup name = config.written name) →
      Config.read lookup = match config.check with
        | .ok () => .ok config
        | .error fault => .error fault) ∧
    (∀ lookup other : Lookup, (∀ name ∈ variableNames, lookup name = other name) →
      Config.read lookup = Config.read other) ∧
    (∀ (lookup : Lookup) (config : Config), Config.read lookup = .ok config →
      ∃ validator, Validator.create config = .ok validator) ∧
    (∀ config : Config, config.check = .ok () → ∃ charset, config.checkCharset = .ok charset) := by
  refine ⟨?written, fun lookup other agree => read_congr agree,
    fun lookup config found => create_of_check (check_of_read found),
    fun config fits => checkCharset_of_check fits⟩
  intro config writable lookup holds
  rw [read_congr holds, read_written writable]
  cases config.check with
  | error fault => rfl
  | ok _ => rfl

/-- Settings with a callback, chains and parameters come back from their variables. -/
theorem settings_survive_variables_with_callback :
    let config : Config :=
      { ofServer "https://cas.example.com/cas" .cas20 with
        callbackUrl := some "https://app.example.com/proxyCallback"
        allowedChains := ⟨[["https://a.example.com", "https://b.example.com"], ["https://c"]]⟩
        customParameters := .ofList [("method", "POST"), ("locale", "a=b")]
        tolerance := .ofMillis 250 }
    config.IsWritable ∧ Config.read config.written = .ok config := by
  intro config
  have writable : config.IsWritable :=
    { tolerance := ⟨250, by decide, rfl⟩
      timeout := ⟨5000, by decide, rfl⟩
      retention := ⟨60, by decide, rfl⟩
      callback := fun callbackUrl present => Option.some.inj present ▸ by decide
      chains := by decide
      parameters := by decide }
  have fits : config.check = .ok () := by decide +kernel
  have read := settings_survive_variables.1 config writable config.written fun _ _ => rfl
  rw [fits] at read
  exact ⟨writable, read⟩

end Config

end SignOn
