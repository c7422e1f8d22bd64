import Provision.Proofs.Secrets

/-!
# Settings that suffice

Whether settings make a configuration can be told from their trimmed values, of which
those that nothing is left of do not count.  A tenant is needed, and so is something to
prove the client with: a token for one of the two audiences, or the id and the secret of
the client.  A limit of time may be missing, but one that is there has to be a number of
seconds.  Settings that lack several of these fail for the first of them.

The subscription and the group of resources are not looked at before they are asked for,
so a configuration can be made without them and still have no resources to work on.
-/

namespace Provision

/-- Digits write a number that fits a word of 64 bits. -/
structure WritesWord (digits : List Char) (value : Nat) : Prop where
  nonempty : digits ≠ []
  decimal : digits.all Char.isDigit
  value_eq : Nat.ofDigitChars 10 digits 0 = value
  fits : value < UInt64.size

/-- A text writes a number of seconds: in digits, perhaps behind a plus sign. -/
def WritesSeconds (text : String) (value : Nat) : Prop :=
  ∃ digits, (text.toList = digits ∨ text.toList = '+' :: digits) ∧ WritesWord digits value

namespace Text

theorem digitValue?_eq (digit : Char) : digitValue? digit =
    if digit.isDigit then some (digit.toNat - '0'.toNat) else none := by
  have isDigit_iff : ('0' ≤ digit ∧ digit ≤ '9') ↔ digit.isDigit := by
    simp [Char.isDigit, Char.le_def]
  simp only [digitValue?, isDigit_iff]

/-- Reading digits one after the other makes their decimal value, and fails at anything else. -/
theorem foldlM_digitValue? (digits : List Char) (start : Nat) :
    digits.foldlM (fun value digit => (digitValue? digit).map (value * 10 + ·)) start =
      if digits.all Char.isDigit then some (Nat.ofDigitChars 10 digits start) else none := by
  induction digits generalizing start with
  | nil => simp
  | cons digit digits ih =>
      rw [List.foldlM_cons, digitValue?_eq]
      by_cases isDigit : digit.isDigit
      · rw [if_pos isDigit, Option.map_some, Nat.ofDigitChars_cons, Nat.mul_comm 10, List.all_cons,
          isDigit, Bool.true_and]
        exact ih _
      · simp [isDigit]

end Text

namespace Config

variable {text : String} {digits : List Char} {value : Nat}

/-- What is read of digits is their value, if there are any and it fits. -/
theorem readWord_eq_some_iff :
    (if digits.isEmpty then none
    else
      (digits.foldlM (fun value digit => (Text.digitValue? digit).map (value * 10 + ·)) 0).bind
        fun value => if value < UInt64.size then some value else none) = some value ↔
      WritesWord digits value := by
  rw [Text.foldlM_digitValue?]
  constructor
  · intro read
    split at read
    · cases read
    next nonempty =>
      split at read
      next decimal =>
        simp only [Option.bind_some, Option.ite_none_right_eq_some, Option.some.injEq] at read
        obtain ⟨fits, rfl⟩ := read
        exact ⟨by simpa using nonempty, decimal, rfl, fits⟩
      · cases read
  · rintro ⟨nonempty, decimal, rfl, fits⟩
    rw [if_neg (by simpa using nonempty), if_pos decimal, Option.bind_some, if_pos fits]

/-- The sign is all that a number of seconds has beside digits. -/
theorem seconds?_eq_some_iff : seconds? text = some value ↔ WritesSeconds text value := by
  rw [seconds?]
  split
  next digits signed =>
    simp only [readWord_eq_some_iff, WritesSeconds, signed]
    constructor
    · exact fun writes => ⟨digits, .inr rfl, writes⟩
    · rintro ⟨others, rfl | same, writes⟩
      · exact absurd (List.all_eq_true.mp writes.decimal '+' List.mem_cons_self) (by decide)
      · obtain rfl := List.tail_eq_of_cons_eq same
        exact writes
  next unsigned =>
    simp only [readWord_eq_some_iff, WritesSeconds]
    constructor
    · exact fun writes => ⟨text.toList, .inl rfl, writes⟩
    · rintro ⟨digits, rfl | signed, writes⟩
      · exact writes
      · exact absurd signed (unsigned digits)

end Config

namespace Settings

variable {settings : Settings} {name : String}

/-- The value of a setting without the blanks at its ends, when anything is left of it. -/
def trimmed? (settings : Settings) (name : String) : Option String :=
  ((settings name).map Text.trim).filter (· ≠ "")

theorem bind_nonBlank? : (settings name).bind Text.nonBlank? = settings.trimmed? name := by
  cases given : settings name with
  | none => simp [trimmed?, given]
  | some value =>
      by_cases blank : Text.trim value = ""
      · simp [trimmed?, given, Text.nonBlank?_of_trim_eq blank, blank, Option.filter_some]
      · simp [trimmed?, given, Text.nonBlank?_of_trim_ne blank, blank, Option.filter_some]

theorem isSome_trimmed?_iff : (settings.trimmed? name).isSome ↔ settings.Gives name := by
  rw [← bind_nonBlank?, isSome_nonBlank_iff]

theorem trimmed?_eq_none_iff : settings.trimmed? name = none ↔ ¬ settings.Gives name := by
  rw [← isSome_trimmed?_iff, Option.not_isSome_iff_eq_none]

theorem exists_trimmed?_iff :
    (∃ value, settings.trimmed? name = some value) ↔ settings.Gives name := by
  rw [← isSome_trimmed?_iff, Option.isSome_iff_exists]

/-- Trimmed settings have the same trimmed values. -/
theorem trimmed?_trimmed? (settings : Settings) :
    trimmed? settings.trimmed? = settings.trimmed? := by
  funext name
  rw [← bind_nonBlank?, trimmed?]
  cases settings name with
  | none => rfl
  | some value =>
      by_cases blank : Text.trim value = ""
      · simp [blank, Option.filter_some]
      · simp [blank, Option.filter_some, Text.nonBlank?_trim, Text.nonBlank?_of_trim_ne]

/-- A token for one of the audiences is given. -/
def HasToken (settings : Settings) : Prop :=
  settings.Gives "AID_ACCESS_TOKEN" ∨ settings.Gives "AID_ARM_ACCESS_TOKEN"

/-- There is something to prove the client with. -/
def HasCredentials (settings : Settings) : Prop :=
  settings.HasToken ∨ settings.Gives "AZURE_CLIENT_ID" ∧ settings.Gives "AZURE_CLIENT_SECRET"

/-- The limit of time is missing or a number of seconds. -/
def LimitsSeconds (settings : Settings) : Prop :=
  ∀ text, settings.trimmed? "AID_HTTP_TIMEOUT_SECS" = some text →
    ∃ seconds, WritesSeconds text seconds

/-- Settings that have all that a configuration needs. -/
structure Suffice (settings : Settings) : Prop where
  tenant : settings.Gives "AZURE_TENANT_ID"
  credentials : settings.HasCredentials
  timeout : settings.LimitsSeconds

/-- The first thing that is wrong with settings: the tenant is looked at before the credentials, and
the limit of time after them. -/
inductive FirstFault (settings : Settings) : ConfigError → Prop
  | tenant (missing : ¬ settings.Gives "AZURE_TENANT_ID") :
      FirstFault settings (.missing "AZURE_TENANT_ID")
  | clientId (tenant : settings.Gives "AZURE_TENANT_ID") (noToken : ¬ settings.HasToken)
      (missing : ¬ settings.Gives "AZURE_CLIENT_ID") :
      FirstFault settings (.missing "AZURE_CLIENT_ID")
  | clientSecret (tenant : settings.Gives "AZURE_TENANT_ID") (noToken : ¬ settings.HasToken)
      (clientId : settings.Gives "AZURE_CLIENT_ID")
      (missing : ¬ settings.Gives "AZURE_CLIENT_SECRET") :
      FirstFault settings (.missing "AZURE_CLIENT_SECRET")
  | timeout {text : String} (tenant : settings.Gives "AZURE_TENANT_ID")
      (credentials : settings.HasCredentials)
      (given : settings.trimmed? "AID_HTTP_TIMEOUT_SECS" = some text)
      (noNumber : ¬ ∃ seconds, WritesSeconds text seconds) :
      FirstFault settings (.invalid "AID_HTTP_TIMEOUT_SECS"
        ("'" ++ text ++ "' is not a whole number of seconds"))

end Settings

namespace Config

variable {settings other : Settings} {config : Config} {error : ConfigError}

/-- Nothing of the settings but their trimmed values is looked at. -/
theorem ofSettings_congr (same : ∀ name, other.trimmed? name = settings.trimmed? name) :
    ofSettings other = ofSettings settings := by
  simp only [ofSettings, Settings.bind_nonBlank?, same]

theorem exists_needed_iff {name : String} :
    (∃ value, needed settings name = .ok value) ↔ settings.Gives name := by
  rw [needed, Settings.bind_nonBlank?, ← Settings.isSome_trimmed?_iff]
  cases settings.trimmed? name <;> simp

theorem needed_eq_error_iff {name : String} :
    needed settings name = .error error ↔ ¬ settings.Gives name ∧ error = .missing name := by
  rw [needed, Settings.bind_nonBlank?, ← Settings.trimmed?_eq_none_iff]
  cases settings.trimmed? name <;> simp [eq_comm]

/-- The id and the secret of the client are looked at when there is no token. -/
theorem credentialsOf_eq (settings : Settings) :
    (settings.HasToken → ∃ credentials, credentialsOf settings = .ok credentials) ∧
    (¬ settings.HasToken → credentialsOf settings = do
      let clientId ← needed settings "AZURE_CLIENT_ID"
      let secret ← needed settings "AZURE_CLIENT_SECRET"
      pure (.clientSecret clientId secret)) := by
  simp only [Settings.HasToken, ← Settings.isSome_trimmed?_iff, credentialsOf,
    Settings.bind_nonBlank?]
  cases settings.trimmed? "AID_ACCESS_TOKEN" <;>
    cases settings.trimmed? "AID_ARM_ACCESS_TOKEN" <;> simp [pure, Except.pure]

theorem exists_credentialsOf_iff :
    (∃ credentials, credentialsOf settings = .ok credentials) ↔ settings.HasCredentials := by
  by_cases token : settings.HasToken
  · exact iff_of_true ((credentialsOf_eq settings).1 token) (.inl token)
  · rw [(credentialsOf_eq settings).2 token]
    simp [exists_exceptBind_eq_ok, Settings.HasCredentials, token, pure, Except.pure,
      exists_needed_iff]

theorem credentialsOf_eq_error_iff : credentialsOf settings = .error error ↔
    ¬ settings.HasToken ∧
      (¬ settings.Gives "AZURE_CLIENT_ID" ∧ error = .missing "AZURE_CLIENT_ID" ∨
        settings.Gives "AZURE_CLIENT_ID" ∧
          ¬ settings.Gives "AZURE_CLIENT_SECRET" ∧ error = .missing "AZURE_CLIENT_SECRET") := by
  by_cases token : settings.HasToken
  · obtain ⟨credentials, found⟩ := (credentialsOf_eq settings).1 token
    simp [found, token]
  · rw [(credentialsOf_eq settings).2 token]
    simp [exceptBind_eq_error, needed_eq_error_iff, token, pure, Except.pure, exists_needed_iff]

theorem exists_timeoutOf_iff :
    (∃ timeout, timeoutOf settings = .ok timeout) ↔ settings.LimitsSeconds := by
  rw [timeoutOf, Settings.bind_nonBlank?, Settings.LimitsSeconds]
  cases settings.trimmed? "AID_HTTP_TIMEOUT_SECS" with
  | none => simp [pure, Except.pure]
  | some text =>
      simp only [← seconds?_eq_some_iff]
      cases read : seconds? text <;> simp [pure, Except.pure, read]

theorem timeoutOf_eq_error_iff : timeoutOf settings = .error error ↔
    ∃ text, settings.trimmed? "AID_HTTP_TIMEOUT_SECS" = some text ∧
      (¬ ∃ seconds, WritesSeconds text seconds) ∧
      error = .invalid "AID_HTTP_TIMEOUT_SECS"
        ("'" ++ text ++ "' is not a whole number of seconds") := by
  rw [timeoutOf, Settings.bind_nonBlank?]
  cases settings.trimmed? "AID_HTTP_TIMEOUT_SECS" with
  | none => simp [pure, Except.pure]
  | some text =>
      simp only [← seconds?_eq_some_iff]
      cases read : seconds? text <;>
        simp [pure, Except.pure, throw, throwThe, MonadExceptOf.throw, read, eq_comm]

theorem exists_ofSettings_iff :
    (∃ config, ofSettings settings = .ok config) ↔ settings.Suffice := by
  simp only [ofSettings_eq, exists_exceptBind_eq_ok, pure, Except.pure, Except.ok.injEq,
    exists_eq', and_true, exists_and_right, exists_timeoutOf_iff, exists_credentialsOf_iff,
    exists_needed_iff]
  constructor
  · rintro ⟨tenant, credentials, timeout⟩
    exact ⟨tenant, credentials, timeout⟩
  · rintro ⟨tenant, credentials, timeout⟩
    exact ⟨tenant, credentials, timeout⟩

theorem ofSettings_eq_error_iff :
    ofSettings settings = .error error ↔ settings.FirstFault error := by
  simp only [ofSettings_eq, exceptBind_eq_error, pure, Except.pure, reduceCtorEq, and_false,
    exists_false, or_false, exists_and_right, exists_needed_iff, exists_credentialsOf_iff,
    needed_eq_error_iff, credentialsOf_eq_error_iff, timeoutOf_eq_error_iff]
  constructor
  · rintro (⟨missing, rfl⟩ | ⟨tenant, ⟨noToken, ⟨missing, rfl⟩ | ⟨clientId, missing, rfl⟩⟩ |
      ⟨credentials, text, given, noNumber, rfl⟩⟩)
    · exact .tenant missing
    · exact .clientId tenant noToken missing
    · exact .clientSecret tenant noToken clientId missing
    · exact .timeout tenant credentials given noNumber
  · intro fault
    cases fault with
    | tenant missing => exact .inl ⟨missing, rfl⟩
    | clientId tenant noToken missing =>
        exact .inr ⟨tenant, .inl ⟨noToken, .inl ⟨missing, rfl⟩⟩⟩
    | clientSecret tenant noToken clientId missing =>
        exact .inr ⟨tenant, .inl ⟨noToken, .inr ⟨clientId, missing, rfl⟩⟩⟩
    | timeout tenant credentials given noNumber =>
        exact .inr ⟨tenant, .inr ⟨credentials, _, given, noNumber, rfl⟩⟩

theorem resourceScope_eq_ok_iff (accepted : ofSettings settings = .ok config)
    {scope : String × String} :
    config.resourceScope = .ok scope ↔
      settings.trimmed? "AZURE_SUBSCRIPTION_ID" = some scope.1 ∧
        settings.trimmed? "AZURE_RESOURCE_GROUP" = some scope.2 := by
  simp only [ofSettings_eq, exceptBind_eq_ok] at accepted
  obtain ⟨tenantId, -, credentials, -, timeout, -, ⟨⟩⟩ := accepted
  simp only [resourceScope, withParts, Settings.bind_nonBlank?]
  cases settings.trimmed? "AZURE_SUBSCRIPTION_ID" <;>
    cases settings.trimmed? "AZURE_RESOURCE_GROUP" <;> simp [Prod.ext_iff]

/-- Settings with the same trimmed values make the same configuration or fail alike.  They make one
if and only if they suffice, and fail with the first thing that is wrong with them otherwise.  The
configuration tells where the resources are if and only if their subscription and their group are
given. -/
theorem ofSettings_decided (settings : Settings) :
    (∀ other : Settings, (∀ name, other.trimmed? name = settings.trimmed? name) →
      ofSettings other = ofSettings settings) ∧
    ((∃ config, ofSettings settings = .ok config) ↔ settings.Suffice) ∧
    (∀ error, ofSettings settings = .error error ↔ settings.FirstFault error) ∧
    ∀ config, ofSettings settings = .ok config →
      ((∃ scope, config.resourceScope = .ok scope) ↔
        settings.Gives "AZURE_SUBSCRIPTION_ID" ∧ settings.Gives "AZURE_RESOURCE_GROUP") := by
  refine ⟨fun other => ofSettings_congr, exists_ofSettings_iff,
    fun error => ofSettings_eq_error_iff, ?_⟩
  intro config accepted
  simp only [resourceScope_eq_ok_iff accepted, Prod.exists, exists_and_left, exists_and_right,
    Settings.exists_trimmed?_iff]

/-- Settings with a token and a limit of time. -/
def timedSettings (limit : String) : Settings :=
  .ofList [("AZURE_TENANT_ID", " contoso "), ("AID_ACCESS_TOKEN", "token"),
    ("AID_HTTP_TIMEOUT_SECS", limit), ("AZURE_SUBSCRIPTION_ID", "main")]

/-- The longest limit of time will do, behind a plus sign and blanks, and trimming it beforehand
makes no difference.  Without a group of resources there is no place for them.  A limit that is one
second longer is the first fault of settings that have everything else. -/
theorem ofSettings_decided_sample :
    ofSettings (timedSettings " +18446744073709551615").trimmed? =
      ofSettings (timedSettings " +18446744073709551615") ∧
    (∃ config, ofSettings (timedSettings " +18446744073709551615") = .ok config ∧
      ¬ ∃ scope, config.resourceScope = .ok scope) ∧
    ofSettings (timedSettings "18446744073709551616") =
      .error (.invalid "AID_HTTP_TIMEOUT_SECS"
        "'18446744073709551616' is not a whole number of seconds") := by
  have tenant (limit : String) : (timedSettings limit).Gives "AZURE_TENANT_ID" :=
    ⟨" contoso ", rfl, by decide⟩
  have token (limit : String) : (timedSettings limit).HasToken :=
    .inl ⟨"token", rfl, by decide⟩
  obtain ⟨alike, makes_iff, -, place_iff⟩ :=
    ofSettings_decided (timedSettings " +18446744073709551615")
  have suffice : (timedSettings " +18446744073709551615").Suffice := by
    refine ⟨tenant _, .inl (token _), ?_⟩
    intro text given
    obtain rfl : "+18446744073709551615" = text := Option.some.inj given
    exact ⟨18446744073709551615, _, .inr rfl, by decide, by decide, rfl, by decide⟩
  obtain ⟨config, accepted⟩ := makes_iff.mpr suffice
  have noPlace : ¬ ∃ scope, config.resourceScope = .ok scope := by
    rw [place_iff config accepted]
    rintro ⟨-, group, given, -⟩
    cases given
  have noNumber : ¬ ∃ seconds, WritesSeconds "18446744073709551616" seconds := by
    have refused : seconds? "18446744073709551616" = none := by decide
    simp [← seconds?_eq_some_iff, refused]
  exact ⟨alike _ (congrFun (Settings.trimmed?_trimmed? _)), ⟨config, accepted, noPlace⟩,
    ((ofSettings_decided _).2.2.1 _).mpr (.timeout (tenant _) (.inl (token _)) rfl noNumber)⟩

end Config

end Provision
