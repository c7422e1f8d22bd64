import Provision.Proofs.KnownTokens

/-!
# Secrets that are never shown

The settings hold three secrets: the one of the client and a token for each audience.
Of a secret it can be seen whether it is there, and nothing else.  To see that, the
secrets of the settings are replaced by what stands in their place where values are
shown.  The configuration that the masked settings make is the masked configuration, or
the failure is the same; and neither a configuration nor a session that is settled
without a server is shown otherwise for being masked.  Settings that differ in nothing
but their secrets are the same when masked, so nothing that is shown tells them apart.
-/

namespace Provision

namespace Settings

/-- The settings that hold secrets. -/
def secretNames : List String := ["AZURE_CLIENT_SECRET", "AID_ACCESS_TOKEN", "AID_ARM_ACCESS_TOKEN"]

/-- A setting is there and not blank. -/
def Gives (settings : Settings) (name : String) : Prop :=
  ∃ value, settings name = some value ∧ Text.trim value ≠ ""

/-- Settings that are the same but for their secrets, of which the same are given. -/
structure AlikeBesideSecrets (first second : Settings) : Prop where
  beside : ∀ name ∉ secretNames, first name = second name
  given : ∀ name ∈ secretNames, first.Gives name ↔ second.Gives name

/-- The settings with something else in the place of their secrets. -/
def masked (settings : Settings) : Settings := fun name =>
  if name ∈ secretNames then ((settings name).bind Text.nonBlank?).map fun _ => redacted
  else settings name

variable {settings first second : Settings} {name : String}

theorem isSome_nonBlank_iff :
    ((settings name).bind Text.nonBlank?).isSome ↔ settings.Gives name := by
  rw [Gives, Option.isSome_bind]
  cases settings name with
  | none => simp
  | some value =>
      by_cases blank : Text.trim value = ""
      · simp [Text.nonBlank?_of_trim_eq blank, blank]
      · simp [Text.nonBlank?_of_trim_ne blank, blank]

theorem masked_eq_of_alike (alike : AlikeBesideSecrets first second) :
    first.masked = second.masked := by
  funext name
  by_cases secret : name ∈ secretNames
  · have given := alike.given name secret
    rw [← isSome_nonBlank_iff, ← isSome_nonBlank_iff] at given
    simp only [masked, secret, if_true]
    cases here : (first name).bind Text.nonBlank? <;>
      cases there : (second name).bind Text.nonBlank? <;> simp [here, there] at given ⊢
  · simp only [masked, secret, if_false, alike.beside name secret]

theorem masked_of_not_mem (notSecret : name ∉ secretNames) : settings.masked name = settings name :=
  if_neg notSecret

/-- A masked secret is read as it stands, for it is neither blank nor padded. -/
theorem nonBlank_masked_of_mem (secret : name ∈ secretNames) :
    (settings.masked name).bind Text.nonBlank? =
      ((settings name).bind Text.nonBlank?).map fun _ => redacted := by
  have readAsItStands : Text.nonBlank? redacted = some redacted := by decide
  rw [masked, if_pos secret]
  cases (settings name).bind Text.nonBlank? <;> simp [readAsItStands]

end Settings

namespace Credentials

/-- Credentials with something else in the place of their secrets. -/
def masked : Credentials → Credentials
  | clientSecret clientId _ => clientSecret clientId redacted
  | tokens directory resourceManager =>
    tokens (directory.map fun _ => redacted) (resourceManager.map fun _ => redacted)

theorem shown_masked (credentials : Credentials) :
    credentials.masked.shown = credentials.shown := by
  cases credentials with
  | clientSecret clientId secret => rfl
  | tokens directory resourceManager => cases directory <;> cases resourceManager <;> rfl

end Credentials

namespace Config

variable {settings first second : Settings} {config other : Config}

/-- A configuration with something else in the place of its secrets. -/
def masked (config : Config) : Config := { config with credentials := config.credentials.masked }

theorem shown_masked (config : Config) : config.masked.shown = config.shown := by
  simp only [shown, masked, Credentials.shown_masked]

/-- A setting that has to be given. -/
def needed (settings : Settings) (name : String) : Except ConfigError String :=
  match (settings name).bind Text.nonBlank? with
  | some value => .ok value
  | none => .error (.missing name)

/-- The credentials among the settings. -/
def credentialsOf (settings : Settings) : Except ConfigError Credentials :=
  match (settings "AID_ACCESS_TOKEN").bind Text.nonBlank?,
    (settings "AID_ARM_ACCESS_TOKEN").bind Text.nonBlank? with
  | none, none => do
    let clientId ← needed settings "AZURE_CLIENT_ID"
    let secret ← needed settings "AZURE_CLIENT_SECRET"
    pure (.clientSecret clientId secret)
  | directory, resourceManager => pure (.tokens directory resourceManager)

/-- The limit of time among the settings. -/
def timeoutOf (settings : Settings) : Except ConfigError (Option Nat) :=
  match (settings "AID_HTTP_TIMEOUT_SECS").bind Text.nonBlank? with
  | none => pure none
  | some text =>
    match seconds? text with
    | some value => pure (some value)
    | none =>
      throw (.invalid "AID_HTTP_TIMEOUT_SECS" ("'" ++ text ++ "' is not a whole number of seconds"))

/-- The configuration of a tenant with given credentials and a given limit of time. -/
def withParts (settings : Settings) (tenantId : String) (credentials : Credentials)
    (timeout : Option Nat) : Config where
  tenantId := tenantId
  credentials := credentials
  directoryBase := previewBase ((settings "AID_GRAPH_BASE").bind Text.nonBlank?)
  authority := ((settings "AID_LOGIN_BASE").bind Text.nonBlank?).getD defaultAuthority
  resourceManagerBase :=
    (((settings "AID_ARM_BASE").bind Text.nonBlank?).map (Text.dropTrailing '/')).getD
      defaultResourceManagerBase
  subscriptionId := (settings "AZURE_SUBSCRIPTION_ID").bind Text.nonBlank?
  resourceGroup := (settings "AZURE_RESOURCE_GROUP").bind Text.nonBlank?
  timeout := timeout

/-- What is left to do when the credentials are found. -/
theorem timeoutOf_bind (settings : Settings) (tenantId : String) (credentials : Credentials) :
    (match (settings "AID_HTTP_TIMEOUT_SECS").bind Text.nonBlank? with
    | none => pure (withParts settings tenantId credentials none)
    | some text =>
      match seconds? text with
      | some value => pure (withParts settings tenantId credentials (some value))
      | none =>
        throw (.invalid "AID_HTTP_TIMEOUT_SECS"
          ("'" ++ text ++ "' is not a whole number of seconds"))) =
    timeoutOf settings >>= fun timeout =>
      pure (withParts settings tenantId credentials timeout) := by
  unfold timeoutOf
  cases (settings "AID_HTTP_TIMEOUT_SECS").bind Text.nonBlank? with
  | none => rfl
  | some text => cases read : seconds? text <;> simp only [read] <;> rfl

/-- The tenant is looked for first, then the credentials, and then the limit of time. -/
theorem ofSettings_eq (settings : Settings) : ofSettings settings = do
    let tenantId ← needed settings "AZURE_TENANT_ID"
    let credentials ← credentialsOf settings
    let timeout ← timeoutOf settings
    return withParts settings tenantId credentials timeout := by
  simp only [ofSettings, needed, credentialsOf, timeoutOf]
  cases (settings "AZURE_TENANT_ID").bind Text.nonBlank? with
  | none => rfl
  | some tenantId =>
      -- whatever the credentials are, the limit of time is what is left to look at
      have finish := timeoutOf_bind settings tenantId
      simp only [timeoutOf] at finish
      cases (settings "AID_ACCESS_TOKEN").bind Text.nonBlank? <;>
        cases (settings "AID_ARM_ACCESS_TOKEN").bind Text.nonBlank? <;> try exact finish _
      cases (settings "AZURE_CLIENT_ID").bind Text.nonBlank? with
      | none => rfl
      | some clientId =>
          cases (settings "AZURE_CLIENT_SECRET").bind Text.nonBlank? with
          | none => rfl
          | some secret => exact finish _

theorem needed_masked {settings : Settings} {name : String}
    (notSecret : name ∉ Settings.secretNames) :
    needed settings.masked name = needed settings name := by
  rw [needed, needed, Settings.masked_of_not_mem notSecret]

theorem credentialsOf_masked (settings : Settings) :
    credentialsOf settings.masked = (credentialsOf settings).map Credentials.masked := by
  simp (disch := decide) only [credentialsOf, needed, Settings.masked_of_not_mem,
    Settings.nonBlank_masked_of_mem]
  cases (settings "AID_ACCESS_TOKEN").bind Text.nonBlank? <;>
    cases (settings "AID_ARM_ACCESS_TOKEN").bind Text.nonBlank? <;> try rfl
  cases (settings "AZURE_CLIENT_ID").bind Text.nonBlank? with
  | none => rfl
  | some clientId => cases (settings "AZURE_CLIENT_SECRET").bind Text.nonBlank? <;> rfl

/-- Masked settings make the masked configuration, or fail as the settings do. -/
theorem ofSettings_masked (settings : Settings) :
    ofSettings settings.masked = (ofSettings settings).map masked := by
  have sameTimeout : timeoutOf settings.masked = timeoutOf settings := by
    simp (disch := decide) only [timeoutOf, Settings.masked_of_not_mem]
  have sameParts (tenantId : String) (credentials : Credentials) (timeout : Option Nat) :
      withParts settings.masked tenantId credentials.masked timeout =
        (withParts settings tenantId credentials timeout).masked := by
    simp (disch := decide) only [withParts, masked, Settings.masked_of_not_mem]
  rw [ofSettings_eq, ofSettings_eq, needed_masked (by decide), credentialsOf_masked, sameTimeout]
  cases needed settings "AZURE_TENANT_ID" with
  | error error => rfl
  | ok tenantId =>
      cases credentialsOf settings with
      | error error => rfl
      | ok credentials =>
          cases timeoutOf settings with
          | error error => rfl
          | ok timeout => exact congrArg Except.ok (sameParts tenantId credentials timeout)

/-- No server is asked for a token: the tokens are known, or the authority is none at all. -/
def AsksNoServer (config : Config) : Prop :=
  (∃ directory resourceManager, config.credentials = .tokens directory resourceManager) ∨
    "mock://".toList <+: config.authority.toList

/-- The session of a configuration that asks no server. -/
def aloneSession (config : Config) (tenantId : String) (scopes : List String) :
    Except AuthError Session :=
  match Text.nonBlank? tenantId with
  | none => .error (.missing "tenant_id")
  | some tenantId =>
    match config.credentials with
    | .clientSecret _ _ => .ok ⟨tenantId, scopes, "mock-token"⟩
    | .tokens directory resourceManager =>
      let audience := Audience.ofScopes scopes
      let token :=
        match audience with
        | .directory => directory
        | .resourceManager => resourceManager
      match token with
      | some token => .ok ⟨tenantId, scopes, token⟩
      | none => .error (.missing audience.tokenField)

theorem exists_of_needed {name value : String} (found : needed settings name = .ok value) :
    ∃ raw, Text.trim raw ≠ "" ∧ Text.trim raw = value := by
  cases given : (settings name).bind Text.nonBlank? with
  | none => simp [needed, given] at found
  | some trimmed =>
      obtain rfl : trimmed = value := by simpa [needed, given] using found
      obtain ⟨raw, -, nonBlank⟩ := Option.bind_eq_some_iff.mp given
      by_cases blank : Text.trim raw = ""
      · simp [Text.nonBlank?_of_trim_eq blank] at nonBlank
      · exact ⟨raw, blank, by simpa [Text.nonBlank?_of_trim_ne blank] using nonBlank⟩

/-- The secret of a client is used when it is given with the client's id, and neither is blank. -/
theorem clientSecret_given (accepted : ofSettings settings = .ok config) {clientId secret : String}
    (credentials : config.credentials = .clientSecret clientId secret) :
    Text.trim clientId ≠ "" ∧ secret ≠ "" := by
  simp only [ofSettings_eq, exceptBind_eq_ok] at accepted
  obtain ⟨tenantId, -, found, foundCredentials, timeout, -, ⟨⟩⟩ := accepted
  obtain rfl : found = .clientSecret clientId secret := credentials
  unfold credentialsOf at foundCredentials
  split at foundCredentials
  · simp only [exceptBind_eq_ok] at foundCredentials
    obtain ⟨_, clientGiven, _, secretGiven, ⟨⟩⟩ := foundCredentials
    obtain ⟨rawId, idNotBlank, rfl⟩ := exists_of_needed clientGiven
    obtain ⟨rawSecret, secretNotBlank, rfl⟩ := exists_of_needed secretGiven
    rw [Text.trim_trim]
    exact ⟨idNotBlank, secretNotBlank⟩
  · cases foundCredentials

variable {tenantId : String} {scopes : List String}

theorem settlesAlone_of_asksNoServer (accepted : ofSettings settings = .ok config)
    (alone : config.AsksNoServer) :
    config.authenticator.SettlesAlone tenantId scopes (config.aloneSession tenantId scopes) := by
  intro State server state
  cases given : Text.nonBlank? tenantId with
  | none => simp [Authenticator.authenticate, aloneSession, given]
  | some tenantId =>
      rcases credentials_cases accepted with tokens | ⟨-, clientId, secret, credentials⟩
      · simp only [authenticator, tokens, Authenticator.authenticate, aloneSession, given,
          knownToken_eq]
        cases Audience.ofScopes scopes with
        | directory => cases token? settings .directory <;> rfl
        | resourceManager => cases token? settings .resourceManager <;> rfl
      · have isMock : Text.startsWith "mock://" config.authority = true := by
          rcases alone with ⟨directory, resourceManager, tokens⟩ | isMock
          · rw [credentials] at tokens
            cases tokens
          · exact Text.startsWith_iff.mpr isMock
        obtain ⟨idNotBlank, secretNotBlank⟩ := clientSecret_given accepted credentials
        simp [authenticator, credentials, Authenticator.authenticate, aloneSession, given,
          idNotBlank, secretNotBlank, isMock]

/-- Masking the secrets of a configuration shows neither in a session nor in its failure. -/
theorem shown_aloneSession_masked (config : Config) :
    (config.masked.aloneSession tenantId scopes).map Session.shown =
      (config.aloneSession tenantId scopes).map Session.shown := by
  simp only [aloneSession, masked]
  cases Text.nonBlank? tenantId with
  | none => rfl
  | some tenantId =>
      cases config.credentials with
      | clientSecret clientId secret => rfl
      | tokens directory resourceManager =>
          cases Audience.ofScopes scopes with
          | directory => cases directory <;> rfl
          | resourceManager => cases resourceManager <;> rfl

theorem asksNoServer_masked_iff : config.masked.AsksNoServer ↔ config.AsksNoServer := by
  refine or_congr ?_ Iff.rfl
  simp only [masked]
  cases config.credentials <;> simp [Credentials.masked]

/-- Settings that differ in nothing but their secrets make configurations that are shown alike, or
fail alike.  Where no server is asked for a token, the sessions of these configurations are shown
alike too, or fail alike. -/
theorem secrets_never_shown (alike : Settings.AlikeBesideSecrets first second) :
    (ofSettings first).map shown = (ofSettings second).map shown ∧
    ∀ config other, ofSettings first = .ok config → ofSettings second = .ok other →
      config.AsksNoServer → ∀ tenantId scopes, ∃ outcome otherOutcome,
        config.authenticator.SettlesAlone tenantId scopes outcome ∧
        other.authenticator.SettlesAlone tenantId scopes otherOutcome ∧
        outcome.map Session.shown = otherOutcome.map Session.shown := by
  have sameMasked : (ofSettings first).map masked = (ofSettings second).map masked := by
    rw [← ofSettings_masked, ← ofSettings_masked, Settings.masked_eq_of_alike alike]
  have shown_eq (made : Except ConfigError Config) :
      made.map shown = (made.map masked).map shown := by
    cases made with
    | error error => rfl
    | ok config => exact congrArg Except.ok (shown_masked config).symm
  refine ⟨by rw [shown_eq, sameMasked, ← shown_eq], ?_⟩
  intro config other accepted otherAccepted alone tenantId scopes
  have same : config.masked = other.masked := by
    simpa [accepted, otherAccepted, Except.map] using sameMasked
  have otherAlone : other.AsksNoServer := by
    rwa [← asksNoServer_masked_iff, ← same, asksNoServer_masked_iff]
  refine ⟨config.aloneSession tenantId scopes, other.aloneSession tenantId scopes,
    settlesAlone_of_asksNoServer accepted alone,
    settlesAlone_of_asksNoServer otherAccepted otherAlone, ?_⟩
  rw [← shown_aloneSession_masked, same, shown_aloneSession_masked]

/-- Settings with another token for the directory, and with none for the resource manager. -/
def otherTokenSettings : Settings :=
  .ofList [("AZURE_TENANT_ID", "contoso"), ("AID_ACCESS_TOKEN", "other")]

/-- A token that is given in both settings does not show, neither in the configurations nor in the
sessions, which hold different ones.  A blank token is like a missing one. -/
theorem secrets_never_shown_sample :
    (ofSettings directoryTokenSettings).map shown = (ofSettings otherTokenSettings).map shown ∧
    ∃ outcome otherOutcome,
      directoryTokenConfig.authenticator.SettlesAlone "contoso" ["openid"] outcome ∧
      Authenticator.SettlesAlone (.tokens (some "other") none) "contoso" ["openid"] otherOutcome ∧
      outcome.map Session.shown = otherOutcome.map Session.shown := by
  have alike : Settings.AlikeBesideSecrets directoryTokenSettings otherTokenSettings := by
    constructor
    · intro name notSecret
      have notDirectory : "AID_ACCESS_TOKEN" ≠ name := by
        rintro rfl
        simp [Settings.secretNames] at notSecret
      have notManager : "AID_ARM_ACCESS_TOKEN" ≠ name := by
        rintro rfl
        simp [Settings.secretNames] at notSecret
      change Members.find? name _ = Members.find? name _
      repeat rw [Members.find?]
      rw [if_neg notDirectory, if_neg notDirectory, if_neg notManager]
    · simp only [← Settings.isSome_nonBlank_iff]
      decide
  have shownAlike := secrets_never_shown alike
  refine ⟨shownAlike.1, ?_⟩
  exact shownAlike.2 directoryTokenConfig
    { directoryTokenConfig with credentials := .tokens (some "other") none } rfl rfl
    (.inl ⟨_, _, rfl⟩) "contoso" ["openid"]

end Config

end Provision
