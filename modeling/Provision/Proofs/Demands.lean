import Provision.Proofs.RehearsedOperations

/-!
# What operations ask of their arguments

Each operation asks something of its arguments: that a text is no blank, that a key is
not padded, that a name is made of certain characters.  Here these demands are listed
for each command, in terms of the arguments alone and in the order in which they are
looked at.

An operation looks at all of them before it sends anything.  As long as one of them is
not met it fails with the first of those, and does nothing else; and once all of them
are met it comes to its first request, whoever answers it and whatever the answer is.
So no request at all is how a bad argument, and nothing but a bad argument, is told.
-/

namespace Provision

namespace Text

variable {text : String}

/-- Whether there is a character that is not a blank. -/
def hasText (text : String) : Bool := text.toList.any fun char => !isBlank char

/-- Whether there is no blank at either end. -/
def isUnpadded (text : String) : Bool :=
  (text.toList.head?.all fun char => !isBlank char) &&
    text.toList.getLast?.all fun char => !isBlank char

theorem trimChars_eq_nil_iff {text : List Char} :
    trimChars text = [] ↔ ∀ char ∈ text, isBlank char := by
  rw [trimChars_eq, List.rdropWhile_eq_nil_iff]
  constructor
  · intro leftAreBlank char member
    rw [← List.takeWhile_append_dropWhile (p := isBlank) (l := text)] at member
    rcases List.mem_append.mp member with cut | left
    · exact List.mem_takeWhile_imp cut
    · exact leftAreBlank char left
  · intro blank char left
    exact blank char ((List.dropWhile_sublist isBlank).subset left)

theorem trimChars_eq_self_iff {text : List Char} :
    trimChars text = text ↔ text.dropWhile isBlank = text ∧ text.rdropWhile isBlank = text := by
  constructor
  · intro unchanged
    have kept : text.dropWhile isBlank = text := by
      rw [← unchanged]
      exact dropWhile_trimChars text
    refine ⟨kept, ?_⟩
    rwa [trimChars_eq, kept] at unchanged
  · rintro ⟨kept, keptToo⟩
    rw [trimChars_eq, kept, keptToo]

theorem trim_eq_empty_iff : trim text = "" ↔ hasText text = false := by
  rw [trim, String.ofList_eq_empty_iff, trimChars_eq_nil_iff]
  simp [hasText]

theorem hasText_trim : hasText (trim text) = hasText text := by
  have blankAlike : hasText (trim text) = false ↔ hasText text = false := by
    rw [← trim_eq_empty_iff, ← trim_eq_empty_iff, trim_trim]
  simpa using blankAlike

theorem trim_eq_self_iff : trim text = text ↔ isUnpadded text = true := by
  rw [trim, ← String.toList_inj, String.toList_ofList, trimChars_eq_self_iff,
    List.dropWhile_eq_self_iff, List.rdropWhile_eq_self_iff, isUnpadded]
  cases text.toList with
  | nil => simp
  | cons first rest => simp [List.getLast?_eq_some_getLast]

end Text

/-- What is asked of an argument, and whether it is so. -/
inductive Demand where
  /-- The argument is there, and not blank. -/
  | given (field : String) (isGiven : Bool)
  /-- The argument is of a certain form. -/
  | formed (field reason : String) (isFormed : Bool)
deriving DecidableEq, Repr

namespace Demand

def isMet : Demand → Bool
  | given _ isGiven => isGiven
  | formed _ _ isFormed => isFormed

/-- How an argument is refused that does not meet the demand. -/
def refusal : Demand → PlanError
  | given field _ => .missing field
  | formed field reason _ => .invalid field reason

/-- The demand for a text that is not blank. -/
def text (field value : String) : Demand := given field (Text.hasText value)

/-- The demands on a key, which is compared character by character later on. -/
def key (field value : String) : List Demand :=
  [text field value,
    formed field "leading or trailing whitespace is not allowed" (Text.isUnpadded value)]

/-- The demand for texts, none of which is blank. -/
def texts (field : String) (values : List String) : Demand := given field (values.all Text.hasText)

/-- The demand for at least one text, and none that is blank. -/
def someTexts (field : String) (values : List String) : Demand :=
  given field (!values.isEmpty && values.all Text.hasText)

/-- The first demand that is not met. -/
def firstUnmet? (demands : List Demand) : Option Demand := demands.find? fun demand => !demand.isMet

theorem firstUnmet?_append (demands more : List Demand) :
    firstUnmet? (demands ++ more) = (firstUnmet? demands).or (firstUnmet? more) :=
  List.find?_append

theorem firstUnmet?_eq_none_iff {demands : List Demand} :
    firstUnmet? demands = none ↔ ∀ demand ∈ demands, demand.isMet = true := by
  simp [firstUnmet?]

theorem firstUnmet?_of_split {before after : List Demand} {demand : Demand}
    (met : ∀ other ∈ before, other.isMet = true) (unmet : demand.isMet = false) :
    firstUnmet? (before ++ demand :: after) = some demand := by
  rw [firstUnmet?_append, firstUnmet?_eq_none_iff.mpr met]
  simp [firstUnmet?, unmet]

end Demand

open Demand

/-- A check goes through demands one by one, and returns a value once they are all met. -/
def Checks {Value : Type} (check : Except PlanError Value) (demands : List Demand) (value : Value) :
    Prop :=
  check =
    match firstUnmet? demands with
    | some demand => .error demand.refusal
    | none => .ok value

section Checks

variable {Value Next : Type} {check : Except PlanError Value} {next : Value → Except PlanError Next}
  {demands more : List Demand} {value : Value} {last : Next} {field text reason : String}
  {texts : List String}

theorem checks_nothing : Checks (.ok value) [] value := rfl

theorem Checks.bind (first : Checks check demands value) (second : Checks (next value) more last) :
    Checks (check >>= next) (demands ++ more) last := by
  rw [Checks] at first second ⊢
  rw [first, firstUnmet?_append]
  cases firstUnmet? demands with
  | some demand => rfl
  | none => exact second

theorem checks_single {demand : Demand} (met : demand.isMet = true → check = .ok value)
    (unmet : demand.isMet = false → check = .error demand.refusal) :
    Checks check [demand] value := by
  rw [Checks, firstUnmet?, List.find?_singleton]
  cases isMet : demand.isMet with
  | true => exact met isMet
  | false => exact unmet isMet

theorem checks_required :
    Checks (Argument.required field text) [.text field text] (Text.trim text) := by
  apply checks_single
  · intro hasText
    apply Argument.required_of_trim_ne
    rw [Ne, Text.trim_eq_empty_iff, Bool.not_eq_false]
    exact hasText
  · intro blank
    exact Argument.required_of_trim_eq (Text.trim_eq_empty_iff.mpr blank)

theorem checks_verbatim : Checks (Argument.verbatim field text) (Demand.key field text) text := by
  refine Checks.bind checks_required (checks_single ?_ ?_)
  · intro unpadded
    rw [if_pos (Text.trim_eq_self_iff.mpr unpadded)]
    rfl
  · intro padded
    rw [if_neg]
    · rfl
    · rw [Text.trim_eq_self_iff, Bool.not_eq_true]
      exact padded

/-- A text is looked at before those behind it, but each is refused in the same way. -/
theorem checks_all :
    Checks (Argument.all field texts) [.texts field texts] (texts.map Text.trim) := by
  induction texts with
  | nil => rfl
  | cons first rest ih =>
      have firstChecks : Checks (Argument.required field first) _ _ := checks_required
      simp only [Checks, firstUnmet?, List.find?_singleton, Demand.text, Demand.texts,
        isMet] at firstChecks ih ⊢
      rw [Argument.all, firstChecks, ih, List.all_cons]
      cases Text.hasText first with
      | false => rfl
      | true => cases rest.all Text.hasText <;> rfl

theorem checks_each :
    Checks (Argument.each field texts) [.someTexts field texts] (texts.map Text.trim) := by
  have allChecks : Checks (Argument.all field texts) _ _ := checks_all
  simp only [Checks, firstUnmet?, List.find?_singleton, Demand.texts, Demand.someTexts,
    isMet] at allChecks ⊢
  rw [Argument.each, allChecks]
  cases texts.all Text.hasText with
  | false => simp [refusal, bind, Except.bind]
  | true => cases texts <;> rfl

theorem checks_given {optionalText : Option String} :
    Checks (Argument.given field optionalText) [.given field (optionalText.any Text.hasText)]
      (Text.trim (optionalText.getD "")) := by
  cases optionalText with
  | none => rfl
  | some text => exact checks_required

end Checks

/-- The demands on the definition of a permission scope. -/
def ScopeSpec.demands (spec : ScopeSpec) : List Demand :=
  Demand.key "value" spec.value ++
    [Demand.formed "value" "scope values cannot contain spaces"
        (!spec.value.toList.any Text.isBlank),
      .given "admin_consent_display_name" (spec.adminConsentDisplayName.any Text.hasText),
      .given "admin_consent_description" (spec.adminConsentDescription.any Text.hasText)]

theorem ScopeSpec.checks_validate (spec : ScopeSpec) :
    Checks (Specification.validate spec) spec.demands () := by
  refine checks_verbatim.bind ?_
  cases spaced : spec.value.toList.any Text.isBlank with
  | true => rfl
  | false => exact checks_given.bind (checks_given.bind checks_nothing)

/-- The demands on the definition of a federated credential. -/
def CredentialSpec.demands (spec : CredentialSpec) : List Demand :=
  Demand.key "name" spec.name ++
    [.text "issuer" spec.issuer, .text "subject" spec.subject, .someTexts "audiences" spec.audiences]

theorem CredentialSpec.checks_validate (spec : CredentialSpec) :
    Checks (Specification.validate spec) spec.demands () := by
  refine checks_verbatim.bind ?_
  exact checks_required.bind (checks_required.bind (checks_each.bind checks_nothing))

/-- The demands on a URI that is given. -/
def uriDemands (uri : String) : List Demand :=
  let reason :=
    match Url.parse (Text.trim uri) with
    | .ok _ => ""
    | .error error => error.message
  [.text "uri" uri, .formed "uri" reason (Url.parse (Text.trim uri)).isOk]

/-- A text that was trimmed is not padded. -/
theorem verbatim_trim (field text : String) :
    Argument.verbatim field (Text.trim text) = Argument.required field text := by
  have trimmed := Text.trim_trim text
  by_cases blank : Text.trim text = ""
  · rw [Argument.verbatim, Argument.required_of_trim_eq (trimmed.trans blank),
      Argument.required_of_trim_eq blank]
    rfl
  · rw [Argument.verbatim, Argument.required_of_trim_ne (trimmed.symm ▸ blank), trimmed,
      Argument.required_of_trim_ne blank]
    simp [bind, Except.bind, pure, Except.pure]

theorem checks_validate_uri (uri : String) :
    Checks (Specification.validate (UriSpec.mk (Text.trim uri))) (uriDemands uri) () := by
  have keyChecks : Checks (Argument.verbatim "uri" (Text.trim uri)) [.text "uri" uri]
      (Text.trim uri) := by
    rw [verbatim_trim]
    exact checks_required
  refine keyChecks.bind ?_
  cases Url.parse (Text.trim uri) <;> rfl

namespace Program

variable {Failure Other Result Next : Type}

/-- The program comes to a request, whatever ids it draws before. -/
def Sends : Program Failure Result → Prop
  | send _ _ => True
  | report _ rest => rest.Sends
  | fresh drawn => ∀ id, (drawn id).Sends
  | done _ | fail _ | exhausted => False

theorem Sends.bind {program : Program Failure Result} {next : Result → Program Failure Next}
    (sends : program.Sends) : (program >>= next).Sends := by
  change (program.bind next).Sends
  induction program with
  | done | fail | exhausted => exact sends.elim
  | send => trivial
  | report message rest ih => exact ih sends
  | fresh drawn ih => exact fun id => ih id (sends id)

theorem Sends.mapFailure {describe : Failure → Other} {program : Program Failure Result}
    (sends : program.Sends) : (program.mapFailure describe).Sends := by
  induction program with
  | done | fail | exhausted => exact sends.elim
  | send => trivial
  | report message rest ih => exact ih sends
  | fresh drawn ih => exact fun id => ih id (sends id)

theorem Sends.exchanges_ne_nil {State : Type} {program : Program Failure Result}
    (sends : program.Sends) (client : Client State) (now : Run State) :
    program.exchanges client now ≠ [] := by
  induction program generalizing now with
  | done | fail | exhausted => exact sends.elim
  | send request answered => simp [exchanges]
  | report message rest ih => exact ih sends _
  | fresh drawn ih => exact ih _ (sends _) _

theorem sends_request (request : Request) : (Program.request request).Sends := trivial

theorem sends_readDocument {Value : Type} (value? : Json → Option Value) (what url : String) :
    (readDocument value? what url).Sends := (sends_request _).mapFailure.bind

theorem sends_readPages {Element : Type} {pages : Nat} (somePages : pages ≠ 0)
    (element? : Json → Option Element) (what url : String) :
    (readPages element? what pages url).Sends := by
  obtain ⟨fewer, rfl⟩ := Nat.exists_eq_succ_of_ne_zero somePages
  exact (sends_readDocument _ what url).bind

/-- The program refuses the first demand that is not met with nothing done before, and comes to a
request once all of them are met. -/
@[irreducible]
def Asks (program : Program OperationError Result) (demands : List Demand) : Prop :=
  match firstUnmet? demands with
  | some demand => program = .fail (.plan demand.refusal)
  | none => program.Sends

variable {program : Program OperationError Result} {next : Result → Program OperationError Next}
  {check : Except PlanError Result} {demands more : List Demand} {value : Result}

theorem Sends.asks (sends : program.Sends) : program.Asks [] := by
  rw [Asks]
  exact sends

theorem Asks.bind (asks : program.Asks demands) : (program >>= next).Asks demands := by
  rw [Asks] at asks ⊢
  cases unmet : firstUnmet? demands with
  | some demand =>
      rw [unmet] at asks
      subst asks
      rfl
  | none =>
      rw [unmet] at asks
      exact asks.bind

theorem Asks.congr (asks : program.Asks demands)
    (same : firstUnmet? demands = firstUnmet? more) : program.Asks more := by
  rw [Asks] at asks ⊢
  rwa [← same]

/-- A check that comes first adds its demands in front. -/
theorem Asks.after_check (checks : Checks check demands value) (asks : (next value).Asks more) :
    ((liftM check : Program OperationError Result) >>= next).Asks (demands ++ more) := by
  rw [Checks] at checks
  rw [Asks, firstUnmet?_append]
  cases unmet : firstUnmet? demands with
  | some demand =>
      rw [unmet] at checks
      subst checks
      rfl
  | none =>
      rw [unmet] at checks
      subst checks
      rw [Asks] at asks
      exact asks

theorem Sends.after_check (checks : Checks check demands value) (sends : (next value).Sends) :
    ((liftM check : Program OperationError Result) >>= next).Asks demands := by
  rw [← List.append_nil demands]
  exact sends.asks.after_check checks

end Program

section Operations

open Program

variable (directory : Directory) (manager : ResourceManager)

namespace Directory

theorem sends_fetch {Element : Type} [Record Element] [Item Element] (itemSet : ItemSet Element)
    (applicationId : String) : (directory.fetch itemSet applicationId).Sends :=
  (sends_readDocument _ _ _).bind

variable {directory} in
theorem sends_list {Element : Type} (somePages : directory.pageLimit ≠ 0)
    (element? : Json → Option Element) (what path : String) :
    (directory.list element? what path).Sends := sends_readPages somePages _ _ _

theorem createBlueprint_asks (somePages : directory.pageLimit ≠ 0) (displayName : String)
    (sponsorIds ownerIds : List String) (policy : Namesake.Policy) :
    (directory.createBlueprint displayName sponsorIds ownerIds policy).Asks
      [.text "display_name" displayName, .someTexts "sponsor_ids" sponsorIds,
        .texts "owner_ids" ownerIds] := by
  refine Asks.after_check checks_required (Asks.after_check checks_each
    (Sends.after_check checks_all ?_))
  exact (sends_list somePages _ _ _).bind.bind

theorem sends_listBlueprints (somePages : directory.pageLimit ≠ 0) (filter : Option String) :
    (directory.listBlueprints filter).Sends := (sends_list somePages _ _ _).bind

theorem deleteBlueprint_asks (objectId : String) :
    (directory.deleteBlueprint objectId).Asks [.text "object_id" objectId] :=
  Sends.after_check checks_required trivial

theorem sends_listAgentIdentities (somePages : directory.pageLimit ≠ 0)
    (blueprintAppId : Option String) : (directory.listAgentIdentities blueprintAppId).Sends :=
  (sends_list somePages _ _ _).bind

theorem createAgentIdentity_asks (somePages : directory.pageLimit ≠ 0)
    (blueprintAppId displayName : String) (sponsorIds : List String) (policy : Namesake.Policy) :
    (directory.createAgentIdentity blueprintAppId displayName sponsorIds policy).Asks
      [.text "blueprint_app_id" blueprintAppId, .text "display_name" displayName,
        .someTexts "sponsor_ids" sponsorIds] := by
  refine Asks.after_check checks_required (Asks.after_check checks_required
    (Sends.after_check checks_each ?_))
  exact (directory.sends_listAgentIdentities somePages _).bind

theorem deleteAgentIdentity_asks (objectId : String) :
    (directory.deleteAgentIdentity objectId).Asks [.text "object_id" objectId] :=
  Sends.after_check checks_required trivial

theorem upsertScope_asks (application : String) (spec : ScopeSpec) :
    (directory.upsertScope application spec).Asks
      (.text "app_object_id" application :: spec.demands) := by
  refine Asks.after_check checks_required (Asks.bind ?_)
  exact Sends.after_check spec.checks_validate (directory.sends_fetch _ _).bind

theorem listScopes_asks (application : String) :
    (directory.listScopes application).Asks [.text "app_object_id" application] :=
  Sends.after_check checks_required (directory.sends_fetch _ _).bind

theorem removeScope_asks (application value : String) :
    (directory.removeScope application value).Asks
      [.text "app_object_id" application, .text "value" value] := by
  refine Asks.after_check checks_required (Sends.after_check checks_required ?_)
  exact (directory.sends_fetch _ _).bind.bind

theorem addIdentifierUri_asks (application : String) (uri : Option String) :
    (directory.addIdentifierUri application uri).Asks
      (.text "app_object_id" application :: uri.elim [] uriDemands) := by
  cases uri with
  | some uri =>
      exact Asks.after_check checks_required
        (Sends.after_check (checks_validate_uri uri) (directory.sends_fetch _ _).bind)
  | none => exact Sends.after_check checks_required (directory.sends_fetch _ _).bind

theorem listIdentifierUris_asks (application : String) :
    (directory.listIdentifierUris application).Asks [.text "app_object_id" application] :=
  Sends.after_check checks_required (directory.sends_fetch _ _).bind

theorem removeIdentifierUri_asks (application uri : String) :
    (directory.removeIdentifierUri application uri).Asks
      [.text "app_object_id" application, .text "uri" uri] := by
  refine Asks.after_check checks_required (Sends.after_check checks_required ?_)
  exact (directory.sends_fetch _ _).bind.bind

theorem sends_fetchCredentials (somePages : directory.pageLimit ≠ 0) (application : String) :
    (directory.fetchCredentials application).Sends := (sends_list somePages _ _ _).bind

theorem upsertCredential_asks (somePages : directory.pageLimit ≠ 0) (application : String)
    (spec : CredentialSpec) :
    (directory.upsertCredential application spec).Asks
      (.text "app_object_id" application :: spec.demands) := by
  refine Asks.after_check checks_required (Sends.after_check spec.checks_validate ?_)
  exact (directory.sends_fetchCredentials somePages _).bind

theorem listCredentials_asks (somePages : directory.pageLimit ≠ 0) (application : String)
    (subject : Option String) :
    (directory.listCredentials application subject).Asks [.text "app_object_id" application] :=
  Sends.after_check checks_required (directory.sends_fetchCredentials somePages _).bind

theorem removeCredential_asks (somePages : directory.pageLimit ≠ 0) (application name : String) :
    (directory.removeCredential application name).Asks
      [.text "app_object_id" application, .text "name" name] := by
  refine Asks.after_check checks_required (Sends.after_check checks_required ?_)
  exact (directory.sends_fetchCredentials somePages _).bind

end Directory

namespace ManagedIdentity

/-- The demands on the name of a managed identity. -/
def nameDemands (name : String) : List Demand :=
  let chars := (Text.trim name).toList
  [.text "name" name, .formed "name" "use 3-128 letters, digits, hyphens or underscores"
    (3 ≤ chars.length ∧ chars.length ≤ 128 ∧ chars.all isNameChar)]

theorem checks_checkName (name : String) :
    Checks (checkName name) (nameDemands name) (Text.trim name) := by
  refine checks_required.bind (checks_single ?_ ?_)
  · intro wellFormed
    rw [isMet, decide_eq_true_eq] at wellFormed
    exact if_pos wellFormed
  · intro malformed
    rw [isMet, decide_eq_false_iff_not] at malformed
    exact if_neg malformed

end ManagedIdentity

namespace ResourceManager

variable {manager} in
theorem sends_list {Element : Type} (somePages : manager.pageLimit ≠ 0)
    (element? : Json → Option Element) (what resourceId version : String)
    (query : List (String × String)) :
    (manager.list element? what resourceId version query).Sends := sends_readPages somePages _ _ _

theorem createManagedIdentity_asks (name location : String) :
    (manager.createManagedIdentity name location).Asks
      (ManagedIdentity.nameDemands name ++ [Demand.text "location" location]) :=
  Asks.after_check (ManagedIdentity.checks_checkName name)
    (Sends.after_check checks_required trivial)

theorem sends_listManagedIdentities (somePages : manager.pageLimit ≠ 0) :
    manager.listManagedIdentities.Sends := sends_list somePages _ _ _ _ _

theorem deleteManagedIdentity_asks (name : String) :
    (manager.deleteManagedIdentity name).Asks (ManagedIdentity.nameDemands name) :=
  Sends.after_check (ManagedIdentity.checks_checkName name) trivial

theorem listRoleAssignments_asks (somePages : manager.pageLimit ≠ 0) (storageAccount : String)
    (principalId : Option String) :
    (manager.listRoleAssignments storageAccount principalId).Asks
      [.text "storage_account" storageAccount] :=
  Sends.after_check checks_required (sends_list somePages _ _ _ _ _).bind

/-- The account is looked at again when the list is read, but then it has been trimmed. -/
theorem assignRole_asks (somePages : manager.pageLimit ≠ 0) (storageAccount principalId : String)
    (role : StorageRole) :
    (manager.assignRole storageAccount principalId role).Asks
      [.text "storage_account" storageAccount, .text "principal_id" principalId] := by
  have asksTwice : (manager.assignRole storageAccount principalId role).Asks
      [.text "storage_account" storageAccount, .text "principal_id" principalId,
        .text "storage_account" (Text.trim storageAccount)] := by
    refine Asks.after_check checks_required (Asks.after_check checks_required (Asks.bind ?_))
    exact manager.listRoleAssignments_asks somePages _ _
  refine asksTwice.congr ?_
  simp only [firstUnmet?, Demand.text, isMet, Text.hasText_trim, List.find?_cons]
  cases Text.hasText storageAccount <;> cases Text.hasText principalId <;> rfl

/-- The demands on the id of a role assignment. -/
def assignmentIdDemands (assignmentId : String) : List Demand :=
  let trimmed := Text.trim assignmentId
  [.text "assignment_id" assignmentId,
    .formed "assignment_id" "expected a full resource id ending in /roleAssignments/\x7bname\x7d"
      (Text.startsWith "/" trimmed ∧ Text.contains "/roleAssignments/" trimmed)]

theorem deleteRoleAssignment_asks (assignmentId : String) :
    (manager.deleteRoleAssignment assignmentId).Asks (assignmentIdDemands assignmentId) := by
  refine Asks.after_check checks_required ?_
  split
  · rename_i wellFormed
    rw [Asks, decide_eq_true wellFormed]
    trivial
  · rename_i malformed
    rw [Asks, decide_eq_false malformed]
    rfl

end ResourceManager

end Operations

/-- The demands on the arguments of a command for the directory, in the order in which they are
looked at. -/
def DirectoryCommand.demands : DirectoryCommand → List Demand
  | createBlueprint create owners =>
    [.text "display_name" create.name, .someTexts "sponsor_ids" create.sponsors,
      .texts "owner_ids" owners]
  | listBlueprints _ => []
  | deleteBlueprint id => [.text "object_id" id]
  | createIdentity blueprintAppId create =>
    [.text "blueprint_app_id" blueprintAppId, .text "display_name" create.name,
      .someTexts "sponsor_ids" create.sponsors]
  | listIdentities _ => []
  | deleteIdentity id => [.text "object_id" id]
  | upsertScope application spec => .text "app_object_id" application :: spec.demands
  | listScopes application => [.text "app_object_id" application]
  | removeScope application value =>
    [.text "app_object_id" application, .text "value" value]
  | addUri application uri => .text "app_object_id" application :: uri.elim [] uriDemands
  | listUris application => [.text "app_object_id" application]
  | removeUri application uri => [.text "app_object_id" application, .text "uri" uri]
  | upsertCredential application spec => .text "app_object_id" application :: spec.demands
  | listCredentials application _ => [.text "app_object_id" application]
  | removeCredential application name =>
    [.text "app_object_id" application, .text "name" name]

/-- The demands on the arguments of a command for the resource manager, in the order in which they
are looked at. -/
def ResourceCommand.demands : ResourceCommand → List Demand
  | createIdentity name location =>
    ManagedIdentity.nameDemands name ++ [Demand.text "location" location]
  | listIdentities => []
  | deleteIdentity name => ManagedIdentity.nameDemands name
  | assignRole storageAccount principalId _ =>
    [.text "storage_account" storageAccount, .text "principal_id" principalId]
  | listAssignments storageAccount _ => [.text "storage_account" storageAccount]
  | deleteAssignment id => ResourceManager.assignmentIdDemands id

/-- The demands on the arguments of a command. -/
def Command.demands : Command → List Demand
  | directory command => command.demands
  | resources command => command.demands

/-- The operation of a command refuses the first demand that is not met with nothing done before,
and comes to a request once all of them are met. -/
def Command.AsksFirst (program : Program CommandError Report) (demands : List Demand) : Prop :=
  match firstUnmet? demands with
  | some demand => ∃ context, program = .fail ⟨context, .plan demand.refusal⟩
  | none => program.Sends

section Commands

variable {demands : List Demand} {context : Option String}

theorem Program.Asks.within {operation : Program OperationError Report}
    (asks : operation.Asks demands) : Command.AsksFirst (operation.within context) demands := by
  rw [Asks] at asks
  rw [Command.AsksFirst]
  cases unmet : firstUnmet? demands with
  | some demand =>
      rw [unmet] at asks
      subst asks
      exact ⟨context, rfl⟩
  | none =>
      rw [unmet] at asks
      exact asks.mapFailure

theorem Program.Asks.single {Outcome : Type} {toJson : Outcome → Json}
    {operation : Program OperationError Outcome} (asks : operation.Asks demands) :
    Command.AsksFirst ((Report.single toJson operation).within context) demands :=
  asks.bind.within

theorem Program.Asks.listing {Element : Type} [Record Element] {name : String}
    {operation : Program OperationError (List Element)} (asks : operation.Asks demands) :
    Command.AsksFirst ((Report.listing name operation).within context) demands :=
  asks.bind.within

end Commands

theorem Command.asksFirst_program (directory : Directory) (manager : ResourceManager)
    (directoryPages : directory.pageLimit ≠ 0) (managerPages : manager.pageLimit ≠ 0)
    (command : Command) : AsksFirst (command.program directory manager) command.demands := by
  cases command with
  | directory command =>
      cases command <;>
        simp only [program, DirectoryCommand.run, demands, DirectoryCommand.demands]
      case createBlueprint create owners =>
        exact (directory.createBlueprint_asks directoryPages create.name create.sponsors owners
          create.onDuplicate).single
      case listBlueprints filter =>
        exact (directory.sends_listBlueprints directoryPages filter).asks.listing
      case deleteBlueprint id => exact (directory.deleteBlueprint_asks id).single
      case createIdentity blueprintAppId create =>
        exact (directory.createAgentIdentity_asks directoryPages blueprintAppId create.name
          create.sponsors create.onDuplicate).single
      case listIdentities blueprintAppId =>
        exact (directory.sends_listAgentIdentities directoryPages blueprintAppId).asks.listing
      case deleteIdentity id => exact (directory.deleteAgentIdentity_asks id).single
      case upsertScope application spec =>
        exact (directory.upsertScope_asks application spec).single
      case listScopes application => exact (directory.listScopes_asks application).listing
      case removeScope application value =>
        exact (directory.removeScope_asks application value).single
      case addUri application uri => exact (directory.addIdentifierUri_asks application uri).single
      case listUris application => exact (directory.listIdentifierUris_asks application).listing
      case removeUri application uri =>
        exact (directory.removeIdentifierUri_asks application uri).single
      case upsertCredential application spec =>
        exact (directory.upsertCredential_asks directoryPages application spec).single
      case listCredentials application subject =>
        exact (directory.listCredentials_asks directoryPages application subject).listing
      case removeCredential application name =>
        exact (directory.removeCredential_asks directoryPages application name).single
  | resources command =>
      cases command <;> simp only [program, ResourceCommand.run, demands, ResourceCommand.demands]
      case createIdentity name location =>
        exact (manager.createManagedIdentity_asks name location).single
      case listIdentities => exact (manager.sends_listManagedIdentities managerPages).asks.listing
      case deleteIdentity name => exact (manager.deleteManagedIdentity_asks name).single
      case assignRole storageAccount principalId role =>
        exact (manager.assignRole_asks managerPages storageAccount principalId role).single
      case listAssignments storageAccount principalId =>
        exact (manager.listRoleAssignments_asks managerPages storageAccount principalId).listing
      case deleteAssignment id => exact (manager.deleteRoleAssignment_asks id).single

/-- A command sends no request if and only if one of its arguments is not as it has to be.  It fails
with the first one of these then, says nothing, and draws no id. -/
theorem Command.arguments_checked_first {State : Type} (directory : Directory)
    (manager : ResourceManager) (directoryPages : directory.pageLimit ≠ 0)
    (managerPages : manager.pageLimit ≠ 0) (command : Command) (client : Client State)
    (now : Run State) :
    ((∃ demand ∈ command.demands, demand.isMet = false) ↔
      (command.program directory manager).exchanges client now = []) ∧
    ∀ (before : List Demand) (demand : Demand) (after : List Demand),
      command.demands = before ++ demand :: after →
      (∀ other ∈ before, other.isMet = true) → demand.isMet = false →
      ∃ context, (command.program directory manager).Runs client now []
        (.failed ⟨context, .plan demand.refusal⟩) now := by
  have asks := asksFirst_program directory manager directoryPages managerPages command
  rw [AsksFirst] at asks
  refine ⟨⟨?_, ?_⟩, ?_⟩
  · rintro ⟨demand, member, unmet⟩
    cases first : firstUnmet? command.demands with
    | none => simp [firstUnmet?_eq_none_iff.mp first demand member] at unmet
    | some demand =>
        rw [first] at asks
        obtain ⟨context, refuses⟩ := asks
        rw [refuses]
        rfl
  · intro silent
    by_contra allMet
    have noneUnmet : firstUnmet? command.demands = none := by
      rw [firstUnmet?_eq_none_iff]
      simpa using allMet
    rw [noneUnmet] at asks
    exact asks.exchanges_ne_nil client now silent
  · intro before demand after split met unmet
    rw [split, firstUnmet?_of_split met unmet] at asks
    obtain ⟨context, refuses⟩ := asks
    exact ⟨context, refuses ▸ Program.runs_fail⟩

/-- A credential with a blank audience is refused for it, since all that is looked at before is as
it has to be; with another audience its application is asked for. -/
theorem Command.arguments_checked_first_sample :
    let directory : Directory := ⟨"https://directory", 1⟩
    let manager : ResourceManager := ⟨"https://manager", "s", "g", 1⟩
    let upsert (audience : String) : Command :=
      .directory (.upsertCredential "a1" ⟨"ci", "https://issuer", "repo", [audience], none⟩)
    ((upsert "api").program directory manager).exchanges Client.replica sampleStart ≠ [] ∧
      ∃ context, ((upsert " ").program directory manager).Runs Client.replica sampleStart []
        (.failed ⟨context, .plan (.missing "audiences")⟩) sampleStart := by
  intro directory manager upsert
  constructor
  · rw [Ne, ← (arguments_checked_first directory manager (by decide) (by decide) (upsert "api")
      Client.replica sampleStart).1]
    decide
  · exact (arguments_checked_first directory manager (by decide) (by decide) (upsert " ")
      Client.replica sampleStart).2
      [.text "app_object_id" "a1", .text "name" "ci",
        .formed "name" "leading or trailing whitespace is not allowed" true,
        .text "issuer" "https://issuer", .text "subject" "repo"]
      (.someTexts "audiences" [" "]) [] rfl (by decide) (by decide)

end Provision
