import Provision.Config
import Provision.Proofs.Arguments

/-!
# Tokens that are known beforehand

Settings can name a token for each of the two audiences.  As soon as one of them is
named, no token is requested from the authority, and the client's secret is not looked
at.  Which token a session gets is decided by the scopes alone: the resource manager's
as soon as one scope is meant for it, and the directory's otherwise.  A session whose
token is missing fails; the token of the other audience never takes its place.

A token that is blank counts as missing wherever it is looked at, first among the
settings and then again with each session.  Since trimming twice is trimming once, the
second look changes nothing.
-/

namespace Provision

namespace Text

variable {start text trimmed : String}

theorem isSome_dropStart?_iff {start text : List Char} :
    (dropStart? start text).isSome ↔ start <+: text := by
  induction start generalizing text with
  | nil => simp [dropStart?]
  | cons wanted start ih =>
      cases text with
      | nil => simp [dropStart?]
      | cons found text => by_cases same : wanted = found <;> simp [dropStart?, same, ih]

theorem startsWith_iff : startsWith start text ↔ start.toList <+: text.toList :=
  isSome_dropStart?_iff

theorem nonBlank?_of_trim_ne (notBlank : trim text ≠ "") : nonBlank? text = some (trim text) :=
  if_neg notBlank

theorem nonBlank?_of_trim_eq (blank : trim text = "") : nonBlank? text = none :=
  if_pos blank

theorem nonBlank?_trim : nonBlank? (trim text) = nonBlank? text := by
  rw [nonBlank?, trim_trim, nonBlank?]

end Text

namespace Audience

variable {scopes : List String} {audience : Audience}

/-- The name of the setting that holds the token for an audience. -/
def tokenSetting : Audience → String
  | directory => "AID_ACCESS_TOKEN"
  | resourceManager => "AID_ARM_ACCESS_TOKEN"

/-- What the token for an audience is called where it is missing. -/
def tokenField : Audience → String
  | directory => "access_token"
  | resourceManager => "arm_access_token"

/-- The scopes ask for an audience: for the resource manager if one of them begins with its origin,
and for the directory if none does. -/
def IsAskedBy (scopes : List String) : Audience → Prop
  | directory => ¬∃ scope ∈ scopes, "https://management.azure.com/".toList <+: scope.toList
  | resourceManager => ∃ scope ∈ scopes, "https://management.azure.com/".toList <+: scope.toList

instance decidableIsAskedBy (scopes : List String) :
    (audience : Audience) → Decidable (audience.IsAskedBy scopes)
  | directory => inferInstanceAs (Decidable (¬∃ scope ∈ scopes, _))
  | resourceManager => inferInstanceAs (Decidable (∃ scope ∈ scopes, _))

theorem ofScopes_of_isAskedBy (asked : audience.IsAskedBy scopes) :
    ofScopes scopes = audience := by
  have any_iff : scopes.any (Text.startsWith resourceManagerOrigin) ↔
      ∃ scope ∈ scopes, "https://management.azure.com/".toList <+: scope.toList := by
    simp only [List.any_eq_true, Text.startsWith_iff, resourceManagerOrigin]
  rw [ofScopes]
  cases audience with
  | directory => exact if_neg (any_iff.not.mpr asked)
  | resourceManager => exact if_pos (any_iff.mpr asked)

/-- The scopes of an audience ask for that audience. -/
theorem ofScopes_scopes (audience : Audience) : ofScopes audience.scopes = audience := by
  cases audience <;> decide

end Audience

theorem exceptBind_eq_ok {Failure Value Next : Type} {first : Except Failure Value}
    {next : Value → Except Failure Next} {last : Next} :
    first >>= next = .ok last ↔ ∃ value, first = .ok value ∧ next value = .ok last := by
  cases first <;> simp [bind, Except.bind]

theorem exists_exceptBind_eq_ok {Failure Value Next : Type} {first : Except Failure Value}
    {next : Value → Except Failure Next} :
    (∃ last, first >>= next = .ok last) ↔
      ∃ value, first = .ok value ∧ ∃ last, next value = .ok last := by
  cases first <;> simp [bind, Except.bind]

theorem exceptBind_eq_error {Failure Value Next : Type} {first : Except Failure Value}
    {next : Value → Except Failure Next} {failure : Failure} :
    first >>= next = .error failure ↔
      first = .error failure ∨ ∃ value, first = .ok value ∧ next value = .error failure := by
  cases first <;> simp [bind, Except.bind]

/-- A session, or the lack of one, is settled without a server: whatever server there is, it is left
as it was and has no say. -/
def Authenticator.SettlesAlone (authenticator : Authenticator) (tenantId : String)
    (scopes : List String) (outcome : Except AuthError Session) : Prop :=
  ∀ (State : Type) (server : Http.Server State) (state : State),
    authenticator.authenticate server tenantId scopes state = (outcome, state)

namespace Config

variable {settings : Settings} {config : Config} {tenantId : String} {scopes : List String}
  {audience : Audience}

/-- The token that settings name for an audience, trimmed; a blank one is none. -/
def token? (settings : Settings) (audience : Audience) : Option String :=
  (settings audience.tokenSetting).bind Text.nonBlank?

theorem token?_eq_some_iff {token : String} :
    token? settings audience = some token ↔
      ∃ value, settings audience.tokenSetting = some value ∧ Text.trim value ≠ "" ∧
        Text.trim value = token := by
  rw [token?, Option.bind_eq_some_iff]
  refine exists_congr fun value => and_congr_right fun _ => ?_
  by_cases blank : Text.trim value = ""
  · simp [Text.nonBlank?_of_trim_eq blank, blank]
  · simp [Text.nonBlank?_of_trim_ne blank, blank]

/-- Tokens are used where one is named, and a client's secret where none is. -/
theorem credentials_cases (accepted : ofSettings settings = .ok config) :
    config.credentials =
        .tokens (token? settings .directory) (token? settings .resourceManager) ∨
      (∀ audience, token? settings audience = none) ∧
        ∃ clientId secret, config.credentials = .clientSecret clientId secret := by
  have directory_eq : (settings "AID_ACCESS_TOKEN").bind Text.nonBlank? =
    token? settings .directory := rfl
  have manager_eq : (settings "AID_ARM_ACCESS_TOKEN").bind Text.nonBlank? =
    token? settings .resourceManager := rfl
  simp only [ofSettings, directory_eq, manager_eq, exceptBind_eq_ok] at accepted
  obtain ⟨tenantId, -, accepted⟩ := accepted
  split at accepted
  · rename_i noDirectory noManager
    simp only [exceptBind_eq_ok] at accepted
    obtain ⟨clientId, -, secret, -, credentials, ⟨⟩, accepted⟩ := accepted
    refine .inr ⟨fun audience => by cases audience <;> assumption, clientId, secret, ?_⟩
    repeat' split at accepted
    all_goals cases accepted <;> rfl
  · simp only [exceptBind_eq_ok] at accepted
    obtain ⟨credentials, ⟨⟩, accepted⟩ := accepted
    left
    repeat' split at accepted
    all_goals cases accepted <;> rfl

theorem authenticate_tokens_blankTenant {directory resourceManager : Option String}
    (blank : Text.trim tenantId = "") :
    (Authenticator.tokens directory resourceManager).SettlesAlone tenantId scopes
      (.error (.missing "tenant_id")) := by
  intro State server state
  simp [Authenticator.authenticate, Text.nonBlank?_of_trim_eq blank]

/-- A token that is trimmed already is not changed by trimming it again. -/
theorem knownToken_eq (settings : Settings) (audience : Audience) :
    Authenticator.knownToken (token? settings .directory) (token? settings .resourceManager)
        audience =
      match token? settings audience with
      | some token => .ok token
      | none => .error (.missing audience.tokenField) := by
  have trimmedOnce : (token? settings audience).bind Text.nonBlank? = token? settings audience := by
    cases named : token? settings audience with
    | none => rfl
    | some token =>
        obtain ⟨value, -, notBlank, rfl⟩ := token?_eq_some_iff.mp named
        rw [Option.bind_some, Text.nonBlank?_trim, Text.nonBlank?_of_trim_ne notBlank]
  cases audience <;> simp only [Authenticator.knownToken, trimmedOnce] <;> rfl

/-- A session gets the token that is named for the audience it asks for, or none. -/
theorem authenticate_tokens (settings : Settings) (notBlank : Text.trim tenantId ≠ "")
    (asked : audience.IsAskedBy scopes) :
    (Authenticator.tokens (token? settings .directory)
        (token? settings .resourceManager)).SettlesAlone tenantId scopes
      (match token? settings audience with
        | some token => .ok ⟨Text.trim tenantId, scopes, token⟩
        | none => .error (.missing audience.tokenField)) := by
  intro State server state
  simp only [Authenticator.authenticate, Text.nonBlank?_of_trim_ne notBlank,
    Audience.ofScopes_of_isAskedBy asked, knownToken_eq]
  cases token? settings audience <;> rfl

/-- Where a token is named no server is asked for one.  A session gets the token of the audience
that its scopes ask for, and fails if that one is missing or blank. -/
theorem authenticate_known (accepted : ofSettings settings = .ok config)
    (known : ∃ audience value, settings (Audience.tokenSetting audience) = some value ∧
      Text.trim value ≠ "") (tenantId : String) (scopes : List String) :
    (Text.trim tenantId = "" →
      config.authenticator.SettlesAlone tenantId scopes (.error (.missing "tenant_id"))) ∧
    (∀ audience, Audience.IsAskedBy scopes audience → Text.trim tenantId ≠ "" →
      (∀ value, settings audience.tokenSetting = some value → Text.trim value ≠ "" →
        config.authenticator.SettlesAlone tenantId scopes
          (.ok ⟨Text.trim tenantId, scopes, Text.trim value⟩)) ∧
      ((∀ value, settings audience.tokenSetting = some value → Text.trim value = "") →
        config.authenticator.SettlesAlone tenantId scopes
          (.error (.missing audience.tokenField)))) ∧
    ∀ audience, Audience.ofScopes audience.scopes = audience := by
  have usesTokens : config.authenticator =
      .tokens (token? settings .directory) (token? settings .resourceManager) := by
    rcases credentials_cases accepted with tokens | ⟨noToken, -⟩
    · rw [authenticator, tokens]
    · obtain ⟨audience, value, isSet, notBlank⟩ := known
      have named := token?_eq_some_iff.mpr ⟨value, isSet, notBlank, rfl⟩
      rw [noToken] at named
      cases named
  rw [usesTokens]
  refine ⟨authenticate_tokens_blankTenant, ?_, Audience.ofScopes_scopes⟩
  intro audience asked tenantGiven
  have settles := authenticate_tokens settings tenantGiven asked
  constructor
  · intro value isSet notBlank
    rwa [token?_eq_some_iff.mpr ⟨value, isSet, notBlank, rfl⟩] at settles
  · intro blank
    have noToken : token? settings audience = none := by
      rw [Option.eq_none_iff_forall_ne_some]
      intro token named
      obtain ⟨value, isSet, notBlank, -⟩ := token?_eq_some_iff.mp named
      exact notBlank (blank value isSet)
    rwa [noToken] at settles

/-- Settings that name a token for the directory alone, padded with blanks. -/
def directoryTokenSettings : Settings :=
  .ofList [("AZURE_TENANT_ID", "contoso"), ("AID_ACCESS_TOKEN", " secret\n"),
    ("AID_ARM_ACCESS_TOKEN", "\t")]

/-- The configuration with a token for the directory alone. -/
def directoryTokenConfig : Config where
  tenantId := "contoso"
  credentials := .tokens (some "secret") none
  directoryBase := "https://graph.microsoft.com/beta"
  authority := "https://login.microsoftonline.com"
  resourceManagerBase := "https://management.azure.com"
  subscriptionId := none
  resourceGroup := none
  timeout := none

/-- A session for the directory gets the token that is known.  One that asks for the resource
manager, be it among others, fails. -/
theorem authenticate_known_sample :
    let authenticator := directoryTokenConfig.authenticator
    let mixed := ["https://graph.microsoft.com/.default", "https://management.azure.com/read"]
    authenticator.SettlesAlone " contoso" ["openid"] (.ok ⟨"contoso", ["openid"], "secret"⟩) ∧
      authenticator.SettlesAlone "contoso" mixed (.error (.missing "arm_access_token")) ∧
      authenticator.SettlesAlone " " mixed (.error (.missing "tenant_id")) := by
  have accepted : ofSettings directoryTokenSettings = .ok directoryTokenConfig := rfl
  have known : ∃ audience value,
      directoryTokenSettings (Audience.tokenSetting audience) = some value ∧
        Text.trim value ≠ "" :=
    ⟨.directory, " secret\n", rfl, by decide⟩
  refine ⟨?_, ?_, ?_⟩
  · exact ((authenticate_known accepted known _ _).2.1 .directory (by decide) (by decide)).1
      " secret\n" rfl (by decide)
  · refine ((authenticate_known accepted known _ _).2.1 .resourceManager (by decide)
      (by decide)).2 ?_
    rintro value ⟨⟩
    decide
  · exact (authenticate_known accepted known _ _).1 (by decide)

end Config

end Provision
