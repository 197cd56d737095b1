import SignOn.Cleaner
import SignOn.Proofs.Config.Environment
import SignOn.Proofs.Gateway.Route
import SignOn.Proofs.Gateway.Serving

/-
This file shows with which accepted variables the parts of a gateway break down instead of running.
-/

namespace SignOn

open SignOn.Text

theorem exists_ok_iff {Fault Result : Type} (outcome : Except Fault Result) :
    (∃ result, outcome = .ok result) ↔ ¬ ∃ fault, outcome = .error fault := by
  cases outcome with
  | error fault => simp
  | ok result => simp

namespace Config

/-- A count is missing, or it is spelled with blanks around it that do not count. -/
inductive Counts (lookup : Lookup) (name : String) : Option Nat → Prop
  | missing (missing : lookup name = none) : Counts lookup name none
  | given {value : String} {number : Nat} (present : lookup name = some value)
      (spells : SpellsNumber (trim value).toList number) : Counts lookup name (some number)

/-- A count that is read was spelled or is missing. -/
theorem counts_of_readCount {lookup : Lookup} {name : String} {count : Option Nat}
    (read : readCount lookup name = .ok count) : Counts lookup name count := by
  rw [readCount] at read
  split at read
  · rename_i missing
    cases read
    exact .missing missing
  · rename_i value present
    split at read
    · cases read
    · rename_i number found
      cases read
      exact .given present ((readNumber_eq_ok_iff (by decide) _ _).1 found).1

/-- The retention of a configuration is the one that is spelled, or the usual one. -/
theorem exists_retention_of_read {lookup : Lookup} {config : Config}
    (found : Config.read lookup = .ok config) :
    ∃ count, Counts lookup "CAS_PGT_RETENTION_SECS" count ∧
      config.grantRetention = (count.map Span.ofSeconds).getD defaultRetention := by
  simp only [Config.read, bind_eq_ok_iff] at found
  obtain ⟨serverUrl, -, protocol, -, renew, -, acceptsAny, -, tolerance, -, timeout, -, retention,
    read, parameters, -, _, -, returned⟩ := found
  cases returned
  exact ⟨retention, counts_of_readCount read, rfl⟩

end Config

namespace Gateway

/-- What the settings of a gateway are read from. -/
structure IsReadFrom (settings : Settings) (lookup : Config.Lookup) : Prop where
  port : SpellsNumber ((lookup "PORT").getD "8080").toList settings.port ∧ settings.port < limit16
  receptorPath : settings.receptorPath =
    (lookup "CAS_PROXY_RECEPTOR_PATH").getD Settings.defaultReceptorPath
  cleanupInterval : ∃ seconds < limit64,
    SpellsNumber ((lookup "CAS_PGT_CLEANUP_SECS").getD "60").toList seconds ∧
      settings.cleanupInterval = .ofSeconds seconds

/-- The settings that are read are those that the variables spell. -/
theorem isReadFrom_iff (settings : Settings) (lookup : Config.Lookup) :
    Settings.read lookup = .ok settings ↔ IsReadFrom settings lookup := by
  simp only [Settings.read, bind_eq_ok_iff, readNumber_eq_ok_iff (show 0 < limit16 by decide),
    readNumber_eq_ok_iff (show 0 < limit64 by decide)]
  constructor
  · rintro ⟨port, spellsPort, seconds, ⟨spells, fits⟩, returned⟩
    cases returned
    exact ⟨spellsPort, rfl, seconds, fits, spells, rfl⟩
  · rintro ⟨spellsPort, isPath, seconds, fits, spells, isInterval⟩
    refine ⟨settings.port, spellsPort, seconds, ⟨spells, fits⟩, ?_⟩
    rw [← isPath, ← isInterval]
    rfl

section Breakdowns

variable (lookup : Config.Lookup)

/-- Granting tickets are to be retained for longer than a store can. -/
def RetainsTooLong : Prop :=
  ∃ value seconds, lookup "CAS_PGT_RETENTION_SECS" = some value ∧
    SpellsNumber (trim value).toList seconds ∧ 1000 * 365 * 24 * 60 * 60 < seconds

/-- Clean-ups are to follow on each other at once. -/
def NeverPauses : Prop :=
  ∃ value, lookup "CAS_PGT_CLEANUP_SECS" = some value ∧ SpellsNumber value.toList 0

/-- Granting tickets are to be delivered on a path that no route can be made of. -/
def LeadsNowhere : Prop :=
  ∃ path, lookup "CAS_PROXY_RECEPTOR_PATH" = some path ∧ ¬ Route.IsRoute path

variable {lookup}

/-- A store cannot be made exactly when it is to retain tickets for too long. -/
theorem grantStore_breaks_iff {config : Config} (found : Config.read lookup = .ok config)
    (capacity : Nat) :
    (∃ breakdown, GrantStore.create config.grantRetention capacity = .error breakdown) ↔
      RetainsTooLong lookup := by
  have tooLong : (∃ breakdown,
      GrantStore.create config.grantRetention capacity = .error breakdown) ↔
      GrantStore.longestRetention.nanos < config.grantRetention.nanos := by
    rw [GrantStore.create]
    split_ifs with tooLong <;> simp [tooLong]
  obtain ⟨count, counts, isRetention⟩ := Config.exists_retention_of_read found
  rw [tooLong, isRetention]
  cases counts with
  | missing missing =>
      refine iff_of_false (by decide) ?_
      rintro ⟨value, seconds, present, -⟩
      cases missing.symm.trans present
  | @given value number present spells =>
      have longer : GrantStore.longestRetention.nanos < (Span.ofSeconds number).nanos ↔
          1000 * 365 * 24 * 60 * 60 < number := by
        simp only [GrantStore.longestRetention, Span.ofSeconds]
        omega
      rw [Option.map_some, Option.getD_some, longer]
      constructor
      · exact fun longer => ⟨value, number, present, spells, longer⟩
      · rintro ⟨valueToo, seconds, presentToo, spellsToo, longer⟩
        cases present.symm.trans presentToo
        cases spells.unique spellsToo
        exact longer

/-- The clean-ups break down exactly when no time is to pass between them. -/
theorem cleaner_breaks_iff {settings : Settings} (found : Settings.read lookup = .ok settings)
    (elapsed : Span) :
    (∃ breakdown, Cleaner.rounds settings.cleanupInterval elapsed = .error breakdown) ↔
      NeverPauses lookup := by
  have atOnce : (∃ breakdown, Cleaner.rounds settings.cleanupInterval elapsed = .error breakdown) ↔
      settings.cleanupInterval.nanos = 0 := by
    rw [Cleaner.rounds]
    split_ifs with atOnce <;> simp [atOnce]
  rw [atOnce]
  obtain ⟨seconds, -, spells, isInterval⟩ :=
    ((isReadFrom_iff settings lookup).1 found).cleanupInterval
  have spellsNothing : settings.cleanupInterval.nanos = 0 ↔ seconds = 0 := by
    rw [isInterval]
    exact Nat.mul_eq_zero.trans (or_iff_left (by decide))
  rw [spellsNothing, NeverPauses]
  cases present : lookup "CAS_PGT_CLEANUP_SECS" with
  | none =>
      rw [present] at spells
      have usual : SpellsNumber "60".toList 60 :=
        ((readNumber_eq_ok_iff (show 0 < limit64 by decide) _ 60).1 (by decide)).1
      have isUsual := spells.unique usual
      refine iff_of_false (by omega) ?_
      rintro ⟨value, given, -⟩
      cases given
  | some value =>
      rw [present] at spells
      constructor
      · rintro rfl
        exact ⟨value, rfl, spells⟩
      · rintro ⟨_, same, spellsNothing⟩
        cases same
        exact spells.unique spellsNothing

/-- The receptor cannot be routed exactly when its path leads nowhere. -/
theorem receptor_breaks_iff {settings : Settings} (found : Settings.read lookup = .ok settings) :
    (∃ breakdown, Route.create settings.receptorPath = .error breakdown) ↔ LeadsNowhere lookup := by
  have leads (path : String) : (∃ route, Route.create path = .ok route) ↔ Route.IsRoute path := by
    simp [Route.create_eq_ok_iff]
  refine not_iff_not.1 ?_
  rw [← exists_ok_iff, leads, ((isReadFrom_iff settings lookup).1 found).receptorPath, LeadsNowhere]
  cases present : lookup "CAS_PROXY_RECEPTOR_PATH" with
  | none =>
      have usual : Route.IsRoute Settings.defaultReceptorPath :=
        (leads Settings.defaultReceptorPath).1 ⟨⟨"/proxyCallback".toList⟩, by decide⟩
      simp [usual]
  | some path => simp

end Breakdowns

/--
Variables that are accepted make a validator, and the other parts break down exactly when granting
tickets are to be retained for too long, when clean-ups never pause, or when the receptor leads nowhere.
Parts that are there run, whatever they are used for.
-/
theorem parts_break_down_iff {lookup : Config.Lookup} {settings : Settings} {config : Config}
    (readSettings : Settings.read lookup = .ok settings)
    (readConfig : Config.read lookup = .ok config) :
    (∃ created, Validator.create config = .ok created) ∧
    ((∃ breakdown,
      GrantStore.create config.grantRetention GrantStore.defaultCapacity = .error breakdown) ↔
        RetainsTooLong lookup) ∧
    (∀ elapsed, (∃ breakdown,
      Cleaner.rounds settings.cleanupInterval elapsed = .error breakdown) ↔ NeverPauses lookup) ∧
    ((∃ breakdown, Route.create settings.receptorPath = .error breakdown) ↔ LeadsNowhere lookup) ∧
    ∀ created store receptor, Validator.create config = .ok created →
      GrantStore.create config.grantRetention GrantStore.defaultCapacity = .ok store →
      Route.create settings.receptorPath = .ok receptor →
      store.retention = config.grantRetention ∧
        ∀ uses, Runs (assembled created.result receptor) store uses := by
  refine ⟨Config.create_of_check (Config.check_of_read readConfig),
    grantStore_breaks_iff readConfig _, cleaner_breaks_iff readSettings,
    receptor_breaks_iff readSettings, ?_⟩
  intro created store receptor _ made _
  refine ⟨?_, fun uses => runs_assembled created.result receptor store uses⟩
  rw [GrantStore.create] at made
  split_ifs at made
  cases made
  rfl

/-- With the server alone, the usual settings let every part run. -/
theorem parts_break_down_iff_of_server :
    let lookup : Config.Lookup := fun name =>
      if name = "CAS_SERVER_URL_PREFIX" then some "https://cas.example.com/cas" else none
    let settings : Settings := ⟨8080, "/proxyCallback", .ofSeconds 60⟩
    let config := Config.ofServer "https://cas.example.com/cas" .cas30
    Settings.read lookup = .ok settings ∧ Config.read lookup = .ok config ∧
      ∃ created store receptor, Validator.create config = .ok created ∧
        GrantStore.create config.grantRetention GrantStore.defaultCapacity = .ok store ∧
        (∀ elapsed, ∃ rounds, Cleaner.rounds settings.cleanupInterval elapsed = .ok rounds) ∧
        Route.create settings.receptorPath = .ok receptor ∧
        ∀ uses, Runs (assembled created.result receptor) store uses := by
  intro lookup settings config
  have readSettings : Settings.read lookup = .ok settings := by decide +kernel
  have readConfig : Config.read lookup = .ok config := by decide +kernel
  obtain ⟨⟨created, validates⟩, retains, pauses, leads, runs⟩ :=
    parts_break_down_iff readSettings readConfig
  have retained : ¬ RetainsTooLong lookup := by
    rintro ⟨value, seconds, present, -⟩
    cases (show lookup "CAS_PGT_RETENTION_SECS" = none from rfl).symm.trans present
  have paused : ¬ NeverPauses lookup := by
    rintro ⟨value, present, -⟩
    cases (show lookup "CAS_PGT_CLEANUP_SECS" = none from rfl).symm.trans present
  have led : ¬ LeadsNowhere lookup := by
    rintro ⟨path, present, -⟩
    cases (show lookup "CAS_PROXY_RECEPTOR_PATH" = none from rfl).symm.trans present
  obtain ⟨store, made⟩ := (exists_ok_iff _).2 (mt retains.1 retained)
  obtain ⟨receptor, routed⟩ := (exists_ok_iff _).2 (mt leads.1 led)
  refine ⟨readSettings, readConfig, created, store, receptor, validates, made, fun elapsed => ?_,
    routed, (runs created store receptor validates made routed).2⟩
  exact (exists_ok_iff _).2 (mt (pauses elapsed).1 paused)

/-- Settings with which three of the parts break down are accepted. -/
theorem accepted_settings_break_down :
    let lookup : Config.Lookup
      | "CAS_SERVER_URL_PREFIX" => some "https://cas.example.com/cas"
      | "CAS_PGT_RETENTION_SECS" => some "31536000001"
      | "CAS_PGT_CLEANUP_SECS" => some "0"
      | "CAS_PROXY_RECEPTOR_PATH" => some "proxyCallback"
      | _ => none
    let settings : Settings := ⟨8080, "proxyCallback", .ofSeconds 0⟩
    let config : Config :=
      { Config.ofServer "https://cas.example.com/cas" .cas30 with
        grantRetention := .ofSeconds 31536000001 }
    Settings.read lookup = .ok settings ∧ Config.read lookup = .ok config ∧
      GrantStore.create config.grantRetention GrantStore.defaultCapacity = .error .retentionTooLong ∧
      (∀ elapsed, Cleaner.rounds settings.cleanupInterval elapsed = .error .emptyInterval) ∧
      Route.create settings.receptorPath = .error .routeWithoutSlash := by
  intro lookup settings config
  refine ⟨by decide +kernel, by decide +kernel, if_pos (by decide), fun elapsed => if_pos rfl, ?_⟩
  decide

end Gateway

end SignOn
